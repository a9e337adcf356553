import GuestBridge.Guest.Item
import GuestBridge.Text.Layout

/-!
# Values laid out as text

How values appear in formatted strings: numbers and texts follow format specifications, other
objects have methods for them. Templates with `%` fields are filled here, too.
-/

namespace GuestBridge.Guest

open Number

/-! ### Numbers and texts by a specification -/

/-- The points of the characters of a text. -/
def pointsOfChars (cs : List Char) : List Nat := cs.map Char.toNat

/-- The digits of a natural number to a base. -/
def naturalDigits (base n : Nat) (upper : Bool) : List Nat :=
  pointsOfChars <| (Nat.toDigits base n).map fun c => if upper then c.toUpper else c

/-- Upper-case letters for a text in the basic alphabet. -/
def capitals (upper : Bool) (cs : List Char) : List Char :=
  if upper then cs.map Char.toUpper else cs

/-- A pattern times a hundred. -/
def percentOf (bits : Nat) : Nat := Num.pattern (Num.host bits * 100)

/-- A floating-point number, without its sign, in a presentation: the digits before the point, and
what follows them. -/
def realParts (l : Layout) (bits : Nat) : List Nat × List Nat :=
  let kind := (l.presentation.map Char.ofNat).getD ' '
  let upper := kind == 'E' || kind == 'F' || kind == 'G'
  let bits := if kind == '%' then percentOf bits else bits
  let tail := if kind == '%' then ['%'] else []
  let special (s : String) : List Nat × List Nat :=
    ([], pointsOfChars (capitals upper s.toList ++ tail))
  if binary64.isNaN bits then special "nan"
  else if !binary64.isFinite bits then special "inf"
  else
    let places := l.precision.getD 6
    let cs := match kind.toLower with
      | 'e' => scientificText binary64 bits places l.alternate
      | 'f' | '%' => fixedText binary64 bits places l.alternate
      | 'g' | 'n' => generalText binary64 bits places (max places 1) l.alternate false
      | _ =>
        match l.precision with
        | some n => generalText binary64 bits n ((max n 1 : Nat) - 1) l.alternate true
        | none =>
          let plain := if bits < binary64.signBit then bits else bits - binary64.signBit
          let text := (guestForm.render binary64 plain).toList
          if l.alternate && !text.contains '.' then
            -- the point is kept in front of the exponent
            text.takeWhile (· != 'e') ++ '.' :: text.dropWhile (· != 'e')
          else text
    let cs := capitals upper cs
    (pointsOfChars (cs.takeWhile Char.isDigit), pointsOfChars (cs.dropWhile Char.isDigit ++ tail))

/-- A floating-point number by a specification. -/
def layoutReal (l : Layout) (bits : Nat) : List Nat :=
  let (digits, tail) := realParts l bits
  let zero := l.plainZero &&
    (digits ++ tail).all fun p => !(49 ≤ p && p ≤ 57) && p != 105 && p != 73
    && p != 110 && p != 78
  l.number (binary64.isNegative bits && !binary64.isNaN bits && !zero) [] digits tail

/-- Why a specification does not fit a value: an exception type and a message. -/
abbrev LayoutFault := ErrorKind × String

/-- A floating-point number of the named type by a specification. -/
def layoutFloat (typeName : String) (l : Layout) (bits : Nat) : Except LayoutFault (List Nat) :=
  match l.presentation with
  | some p =>
    if "eEfFgGn%".toList.contains (Char.ofNat p) then .ok (layoutReal l bits)
    else .error (.valueError, Layout.unknownPresentation p typeName)
  | none => .ok (layoutReal l bits)

/-- An integer of the named type by a specification. -/
def layoutInteger (typeName : String) (l : Layout) (n : Int) : Except LayoutFault (List Nat) :=
  let kind := (l.presentation.map Char.ofNat).getD 'd'
  let refuse (m : String) : Except LayoutFault (List Nat) := .error (.valueError, m)
  if "eEfFgG%".toList.contains kind then
    match Num.ofInt n with
    | .ok bits => .ok (layoutReal l bits)
    | .error _ => .error (.overflowError, "int too large to convert to float")
  else if !"bcdoxXn".toList.contains kind then
    refuse (Layout.unknownPresentation (l.presentation.getD 0) typeName)
  else if l.precision.isSome then refuse "Precision not allowed in integer format specifier"
  else if l.plainZero then
    refuse "Negative zero coercion (z) not allowed in format specifier with integer"
  else if kind == 'c' then
    if l.sign.isSome then refuse "Sign not allowed with integer format specifier 'c'"
    else if l.alternate then
      refuse "Alternate form (#) not allowed with integer format specifier 'c'"
    else if n < 0 || n ≥ 0x110000 then
      .error (.overflowError, "%c arg not in range(0x110000)")
    else .ok (l.number false [] [] [n.toNat])
  else
    let (base, lead) : Nat × String := match kind with
      | 'b' => (2, "0b")
      | 'o' => (8, "0o")
      | 'x' => (16, "0x")
      | 'X' => (16, "0X")
      | _ => (10, "")
    if base == 10 && Num.isTooLong n then
      refuse ("Exceeds the limit (4300 digits) for integer string conversion; " ++
        "use sys.set_int_max_str_digits() to increase the limit")
    else
      let lead := if l.alternate then pointsOfChars lead.toList else []
      .ok (l.number (n < 0) lead (naturalDigits base n.natAbs (kind == 'X')) [])

/-- A text of the named type by a specification. -/
def layoutText (typeName : String) (l : Layout) (ps : List Nat) : Except LayoutFault (List Nat) :=
  let refuse (m : String) : Except LayoutFault (List Nat) := .error (.valueError, m)
  if l.presentation.any (· != 115) then
    refuse (Layout.unknownPresentation (l.presentation.getD 0) typeName)
  else if l.sign == some 32 then refuse "Space not allowed in string format specifier"
  else if l.sign.isSome then refuse "Sign not allowed in string format specifier"
  else if l.plainZero then
    refuse "Negative zero coercion (z) not allowed in string format specifier"
  else if l.alternate then refuse "Alternate form (#) not allowed in string format specifier"
  else if l.align == 61 then refuse "'=' alignment not allowed in string format specifier"
  else .ok (l.fit (match l.precision with
    | some n => ps.take n
    | none => ps))

/-- A complex number of the named type by a specification. -/
def layoutComplex (typeName : String) (l : Layout) (re im : Nat) : Except LayoutFault (List Nat) :=
  let refuse (m : String) : Except LayoutFault (List Nat) := .error (.valueError, m)
  if l.presentation.any fun p => !"eEfFgGn".toList.contains (Char.ofNat p) then
    refuse (Layout.unknownPresentation (l.presentation.getD 0) typeName)
  else if l.fill == 48 then refuse "Zero padding is not allowed in complex format specifier"
  else if l.align == 61 then
    refuse "'=' alignment flag is not allowed in complex format specifier"
  else
    let bare := l.presentation.isNone
    let skipReal := bare && re == 0
    -- without a presentation the parts have no fraction of zero
    let part (sign : Option Nat) (bits : Nat) : List Nat :=
      let l' : Layout :=
        { l with width := none, align := 60, fill := 32, sign
                 presentation := if bare && l.precision.isSome then some 103 else l.presentation }
      let ps := layoutReal l' bits
      if bare && l.precision.isNone && ps.reverse.take 2 == [48, 46] then ps.take (ps.length - 2)
      else ps
    let text := if skipReal then part l.sign im ++ [106]
      else part l.sign re ++ part (some 43) im ++ [106]
    .ok (l.fit (if bare && !skipReal then 40 :: text ++ [41] else text))

section
variable [Ops]

/-- The result of laying something out. -/
def layoutResult : Except LayoutFault (List Nat) → Exec Text
  | .ok ps => return ⟨ps⟩
  | .error (k, m) => raiseError k m

/-- Reads a specification for an object. -/
def readLayout (r : Ref) (align : Nat) (spec : Text) : Exec Layout := do
  match Layout.read (← typeNameOf r) align spec.points with
  | .ok l => return l
  | .error m => valueError m

/-- An object of a built-in type by a specification. -/
def formatData (r : Ref) (spec : Text) : Exec Text := do
  if spec.points.isEmpty then Ops.str r
  else
    let name ← typeNameOf r
    match ← dataOf r with
    | .int n => do layoutResult (layoutInteger name (← readLayout r 62 spec) n)
    | .float b => do layoutResult (layoutFloat name (← readLayout r 62 spec) b)
    | .complex re im => do layoutResult (layoutComplex name (← readLayout r 62 spec) re im)
    | .str t => do layoutResult (layoutText name (← readLayout r 60 spec) t.points)
    | _ => typeError ("unsupported format string passed to " ++ name ++ ".__format__")

/-- An object by a specification, as its class says. -/
def formatObject (r : Ref) (spec : Text) : Exec Text := do
  match ← callSpecial? r "__format__" [← newText spec] with
  | some v =>
    match ← text? v with
    | some t => return t
    | none => typeError ("__format__ must return a str, not " ++ (← typeNameOf v))
  | none => formatData r spec

/-- A text with everything beyond the basic alphabet escaped. -/
def asciiText (t : Text) : Text :=
  ⟨t.points.flatMap fun p =>
    if p < 128 then [p]
    else if p < 256 then Text.pointsOf "\\x" ++ Text.digitsIn 16 p 2
    else if p < 65536 then Text.pointsOf "\\u" ++ Text.digitsIn 16 p 4
    else Text.pointsOf "\\U" ++ Text.digitsIn 16 p 8⟩

/-- The text that shows an object, in the basic alphabet. -/
def asciiRepr (r : Ref) : Exec Text := do
  return asciiText (← Ops.repr r)

/-! ### Templates with `%` fields -/

/-- A field of a template: what stands between its `%` and its letter. -/
structure Field where
  left : Bool
  plus : Bool
  blank : Bool
  alternate : Bool
  zero : Bool
  width : Nat
  precision : Option Nat
  kind : Char
  /-- Where the letter stands. -/
  place : Nat
  deriving Repr, Inhabited

/-- The state of filling a template. -/
structure Filling where
  /-- The arguments left. -/
  args : List Ref
  /-- The mapping that names are looked up in, if there is one. -/
  mapping : Option Ref
  /-- Whether a name has been looked up. -/
  named : Bool
  deriving Inhabited

/-- The next argument of a template. -/
def nextField (f : Filling) : Exec (Ref × Filling) := do
  match f.args with
  | x :: xs => return (x, { f with args := xs })
  | [] => typeError "not enough arguments for format string"

/-- Puts the parts of a field together: the sign, what goes before the digits, and the digits. -/
def fieldText (f : Field) (numeric : Bool) (sign lead body : List Nat) : List Nat :=
  let size := sign.length + lead.length + body.length
  let missing := f.width - size
  let zeros := numeric && f.zero
  if f.left then sign ++ lead ++ body ++ List.replicate missing 32
  else if zeros then sign ++ lead ++ List.replicate missing 48 ++ body
  else List.replicate missing 32 ++ sign ++ lead ++ body

/-- The sign of a number in a field. -/
def fieldSign (f : Field) (negative : Bool) : List Nat :=
  if negative then [45] else if f.plus then [43] else if f.blank then [32] else []

/-- An integer in a field. -/
def fieldInteger (f : Field) (n : Int) : Exec (List Nat) := do
  let (base, lead) : Nat × String := match f.kind with
    | 'o' => (8, "0o")
    | 'x' => (16, "0x")
    | 'X' => (16, "0X")
    | _ => (10, "")
  if base == 10 && Num.isTooLong n then discard <| numText (.int n)
  let digits := naturalDigits base n.natAbs (f.kind == 'X')
  let digits := List.replicate (f.precision.getD 0 - digits.length) 48 ++ digits
  return fieldText f true (fieldSign f (n < 0))
    (if f.alternate then pointsOfChars lead.toList else []) digits

/-- A floating-point number in a field. -/
def fieldReal (f : Field) (bits : Nat) : List Nat :=
  let l : Layout :=
    { fill := 32, align := 60, sign := none, plainZero := false, alternate := f.alternate
      width := none, grouping := none, precision := some (f.precision.getD 6)
      presentation := some f.kind.toNat }
  let (digits, tail) := realParts l bits
  fieldText f true (fieldSign f (binary64.isNegative bits && !binary64.isNaN bits)) []
    (digits ++ tail)

/-- The integer that an object gives in a field. -/
def fieldNumber (f : Field) (x : Ref) : Exec Int := do
  let exact := f.kind == 'o' || f.kind == 'x' || f.kind == 'X'
  let wrong : Exec Int := do
    typeError ("%" ++ String.singleton f.kind ++ " format: " ++
      (if exact then "an integer" else "a real number") ++ " is required, not " ++ (← typeNameOf x))
  match ← dataOf x with
  | .int n => return n
  | .float b =>
    if exact then wrong
    else if binary64.isNaN b then valueError "cannot convert float NaN to integer"
    else if !binary64.isFinite b then
      raiseError .overflowError "cannot convert float infinity to integer"
    else return truncate binary64 b
  | _ =>
    match ← if exact then pure none else callSpecial? x "__int__" [] with
    | some v =>
      match ← int? v with
      | some n => return n
      | none => wrong
    | none =>
      match ← index? x with
      | some n => return n
      | none => wrong

/-- The floating-point number that an object gives in a field. -/
def fieldFloat (x : Ref) : Exec Nat := do
  match ← callSpecial? x "__float__" [] with
  | some v =>
    match ← dataOf v with
    | .float b => return b
    | _ =>
      typeError ((← typeNameOf x) ++ ".__float__ returned non-float (type " ++
        (← typeNameOf v) ++ ")")
  | none =>
    let ofInteger (n : Int) : Exec Nat :=
      match Num.ofInt n with
      | .ok b => return b
      | .error e => raiseNum e
    match ← dataOf x with
    | .float b => return b
    | .int n => ofInteger n
    | _ =>
      match ← index? x with
      | some n => ofInteger n
      | none => typeError ("must be real number, not " ++ (← typeNameOf x))

/-- The bytes that an object gives in a field of a byte template. -/
def fieldBytes (x : Ref) : Exec (List UInt8) := do
  match ← bytes? x with
  | some bs => return bs
  | none =>
    let refuse : Exec (List UInt8) := do
      typeError ("%b requires a bytes-like object, or an object that implements __bytes__, not '" ++
        (← typeNameOf x) ++ "'")
    match ← callSpecial? x "__bytes__" [] with
    | some v =>
      match ← bytes? v with
      | some bs => return bs
      | none => typeError ("__bytes__ returned non-bytes (type " ++ (← typeNameOf v) ++ ")")
    | none => refuse

/-- The text of one field; `bytes` says that the template is a byte string. -/
def fillField (bytes : Bool) (f : Field) (x : Ref) : Exec (List Nat) := do
  let cut (ps : List Nat) : List Nat :=
    fieldText f false [] [] (match f.precision with
      | some n => ps.take n
      | none => ps)
  match f.kind with
  | 's' =>
    if bytes then return cut ((← fieldBytes x).map UInt8.toNat)
    else return cut (← Ops.str x).points
  | 'b' => return cut ((← fieldBytes x).map UInt8.toNat)
  | 'r' =>
    if bytes then return cut (← asciiRepr x).points else return cut (← Ops.repr x).points
  | 'a' => return cut (← asciiRepr x).points
  | 'd' | 'i' | 'u' | 'o' | 'x' | 'X' => do fieldInteger f (← fieldNumber f x)
  | 'e' | 'E' | 'f' | 'F' | 'g' | 'G' => return fieldReal f (← fieldFloat x)
  | _ =>
    -- a single character
    let limit : Int := if bytes then 256 else 0x110000
    let tooLarge : Exec (List Nat) :=
      raiseError .overflowError (if bytes then "%c arg not in range(256)"
        else "%c arg not in range(0x110000)")
    let refuse : Exec (List Nat) :=
      typeError (if bytes then "%c requires an integer in range(256) or a single byte"
        else "%c requires int or char")
    let single := fieldText { f with precision := none } false [] []
    match ← dataOf x with
    | .str t =>
      match bytes, t.points with
      | false, [p] => return single [p]
      | _, _ => refuse
    | .bytes bs | .bytearray bs =>
      match bytes, bs with
      | true, [b] => return single [b.toNat]
      | _, _ => refuse
    | _ =>
      match ← index? x with
      | some n => if n < 0 || n ≥ limit then tooLarge else return single [n.toNat]
      | none => refuse

/-- The key of a field up to the closing bracket that matches; `none` if there is none. -/
def fieldKey : List Nat → (depth : Nat) → (acc : List Nat) → Option (List Nat × List Nat)
  | [], _, _ => none
  | p :: ps, depth, acc =>
    if p == 41 then
      match depth with
      | 0 => some (acc.reverse, ps)
      | d + 1 => fieldKey ps d (p :: acc)
    else fieldKey ps (if p == 40 then depth + 1 else depth) (p :: acc)

/-- The flags at the front of a field. -/
def fieldFlags (f : Field) : List Nat → Field × List Nat
  | [] => (f, [])
  | p :: ps =>
    match Char.ofNat p with
    | '-' => fieldFlags { f with left := true } ps
    | '+' => fieldFlags { f with plus := true } ps
    | ' ' => fieldFlags { f with blank := true } ps
    | '#' => fieldFlags { f with alternate := true } ps
    | '0' => fieldFlags { f with zero := true } ps
    | _ => (f, p :: ps)

/-- A width or precision: digits, or an argument. -/
def fieldCount (ps : List Nat) (s : Filling) : Exec (Option Int × List Nat × Filling) := do
  match ps with
  | 42 :: ps => do
    let (x, s) ← nextField s
    match ← int? x with
    | some n => return (some n, ps, s)
    | none => typeError "* wants int"
  | _ =>
    let ds := ps.takeWhile Text.isDigit
    if ds.isEmpty then return (none, ps, s)
    else
      return (some (ds.foldl (fun (n : Int) p => n * 10 + (p - 48 : Nat)) 0), ps.drop ds.length, s)

/-- Fills a template; `total` is its length. `fuel` bounds the number of fields. -/
def fillTemplate (bytes : Bool) (total : Nat) : (fuel : Nat) → List Nat → Filling →
    (acc : List Nat) → Exec (List Nat × Filling)
  | 0, ps, s, acc => return (acc.reverse ++ ps, s)
  | fuel + 1, ps, s, acc => do
    let text := ps.takeWhile (· != 37)
    let acc := text.reverse ++ acc
    match ps.drop text.length with
    | [] => return (acc.reverse, s)
    | _ :: ps =>
      let (ps, s) ← match ps with
        | 40 :: ps =>
          match s.mapping with
          | none => typeError "format requires a mapping"
          | some m =>
            match fieldKey ps 0 [] with
            | none => valueError "incomplete format key"
            | some (key, ps) =>
              let k ← if bytes then newBytes (key.map Nat.toUInt8) else newText ⟨key⟩
              pure (ps, { s with args := [← getItem m k], named := true })
        | _ => pure (ps, s)
      let (f, ps) := fieldFlags default ps
      let (width, ps, s) ← fieldCount ps s
      let f := match width with
        | some n => { f with left := f.left || n < 0, width := n.natAbs }
        | none => f
      let (precision, ps, s) ← match ps with
        | 46 :: ps => do
          let (n, ps, s) ← fieldCount ps s
          pure (some (n.getD 0).toNat, ps, s)
        | _ => pure (none, ps, s)
      let ps := match ps with
        | 104 :: ps | 108 :: ps | 76 :: ps => ps
        | _ => ps
      match ps with
      | [] => valueError "incomplete format"
      | 37 :: ps => fillTemplate bytes total fuel ps s (37 :: acc)
      | p :: ps => do
        let f := { f with precision, kind := Char.ofNat p, place := total - ps.length - 1 }
        let (x, s) ← nextField s
        let known := "sradiuoxXeEfFgGc".toList.contains f.kind || (bytes && f.kind == 'b')
        if !known then
          valueError ("unsupported format character '" ++
            (if 31 ≤ p && p < 126 then String.singleton f.kind else "?") ++ "' (0x" ++
            String.ofList (Nat.toDigits 16 p) ++ ") at index " ++ toString f.place)
        fillTemplate bytes total fuel ps s ((← fillField bytes f x).reverse ++ acc)

/-- Whether an object can be subscripted, so that it may name the values of a template. -/
def namesValues (r : Ref) : Exec Bool := do
  match ← dataOf r with
  | .tuple _ | .str _ => return false
  | .list _ | .dict _ | .defaultDict _ _ | .proxy _ | .range _ _ _ | .memory _ _ => return true
  | .bytes _ | .bytearray _ => return true
  | _ =>
    match ← class? r with
    | some _ => return false
    | none => return (← userSpecial? r "__getitem__").isSome

/-- A template with its `%` fields filled. -/
def formatTemplate (bytes : Bool) (ps : List Nat) (arg : Ref) : Exec (List Nat) := do
  let names ← namesValues arg
  let mapping := if names && !(bytes && (← bytes? arg).isSome) then some arg else none
  let args ← match ← dataOf arg with
    | .tuple items => pure items
    | _ => pure [arg]
  let (out, s) ← fillTemplate bytes ps.length (ps.length + 1) ps ⟨args, mapping, false⟩ []
  if !s.args.isEmpty && mapping.isNone then
    typeError ("not all arguments converted during " ++ (if bytes then "bytes" else "string") ++
      " formatting")
  return out

end

end GuestBridge.Guest
