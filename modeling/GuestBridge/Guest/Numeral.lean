import GuestBridge.Guest.Arguments
import GuestBridge.Script.Lexer
import GuestBridge.Text.Classes
import GuestBridge.Text.Search

/-!
# Numbers from text

What the constructors of numbers make of a text. White space around a number counts for nothing,
underscores may stand between digits, and the decimal digits of all scripts are digits.
-/

namespace GuestBridge.Guest

open Number Script

/-- The characters of a number without the white space around them; digits of other scripts become
those of the basic alphabet. -/
def numeralChars (ps : List Nat) : List Char :=
  (Text.Search.trim Text.isSpacePoint true true ps).map fun p =>
    match Text.decimalValue? p with
    | some d => Char.ofNat (48 + d)
    | none => if p < 128 then Char.ofNat p else '?'

/-- A sign and what follows it. -/
def signOf : List Char → Bool × List Char
  | '-' :: cs => (true, cs)
  | '+' :: cs => (false, cs)
  | cs => (false, cs)

/-- The value of a digit up to the letter `z`, 36 for other characters. -/
def wideDigit (c : Char) : Nat :=
  if c.isAlphanum then digitValue (if c.isUpper then c.toLower else c) else 36

/-- The base that a prefix gives, and what follows the prefix; an underscore may follow it. -/
def basePrefix (base : Nat) (cs : List Char) : Option (Nat × List Char) :=
  let after (b : Nat) (r : List Char) : Option (Nat × List Char) :=
    if base == 0 || base == b then
      some (b, match r with
        | '_' :: r => r
        | r => r)
    else none
  match cs with
  | '0' :: 'x' :: r | '0' :: 'X' :: r => after 16 r
  | '0' :: 'o' :: r | '0' :: 'O' :: r => after 8 r
  | '0' :: 'b' :: r | '0' :: 'B' :: r => after 2 r
  | _ => none

/-- How reading an integer ends: with the integer, with too many digits, or without a number. -/
inductive IntegerReading
  | number (n : Int)
  | tooLong (digits : Nat)
  | malformed

/-- The integer that code points denote to a base; base zero reads the prefix. -/
def readInteger (base : Nat) (ps : List Nat) : IntegerReading :=
  let (negative, cs) := signOf (numeralChars ps)
  let found := basePrefix base cs
  let (b, digits) := found.getD (if base == 0 then 10 else base, cs)
  let leadingZero := base == 0 && found.isNone && digits.head? == some '0'
  if digits.head? == some '_' then .malformed
  else
    let (ds, rest) := digitRun (fun c => wideDigit c < b) digits
    if ds.isEmpty || !rest.isEmpty then .malformed
    else if leadingZero && ds.any (· != '0') then .malformed
    else if ds.length > Num.maxDigits && !(b == 2 || b == 4 || b == 8 || b == 16 || b == 32) then
      .tooLong ds.length
    else
      let n : Int := ofDigits b (ds.map fun c => if c.isUpper then c.toLower else c)
      .number (if negative then -n else n)

/-- A floating-point number without a sign at the front of characters, and what follows it. -/
def unsignedFloat? (cs : List Char) : Option (Nat × List Char) :=
  let lower := cs.map Char.toLower
  if "infinity".toList.isPrefixOf lower then some (binary64.infinity, cs.drop 8)
  else if "inf".toList.isPrefixOf lower then some (binary64.infinity, cs.drop 3)
  else if "nan".toList.isPrefixOf lower then some (binary64.notANumber, cs.drop 3)
  else
    let number (r : List Char) : List Char × List Char :=
      if r.head? == some '_' then ([], r) else digitRun Char.isDigit r
    let (whole, rest) := number cs
    let (fraction, rest) := match rest with
      | '.' :: r => number r
      | r => ([], r)
    if whole.isEmpty && fraction.isEmpty then none
    else
      let (exponent, rest) := (exponentPart? rest).getD (0, rest)
      some (decimalBits (ofDigits 10 (whole ++ fraction)) (exponent - fraction.length), rest)

/-- A floating-point number with its sign at the front of characters, and what follows it. -/
def signedFloat? (cs : List Char) : Option (Nat × List Char) :=
  let (negative, cs) := signOf cs
  (unsignedFloat? cs).map fun (b, rest) => (withSign binary64 negative b, rest)

/-- The floating-point number that code points denote. -/
def readFloat? (ps : List Nat) : Option Nat :=
  match signedFloat? (numeralChars ps) with
  | some (b, []) => some b
  | _ => none

/-- The complex number that characters denote: a real part, an imaginary part, or both. -/
def complexOf? (cs : List Char) : Option (Nat × Nat) :=
  let isUnit (c : Char) : Bool := c == 'j' || c == 'J'
  let one : Nat := 0x3FF0000000000000
  -- a unit after an optional sign
  let bareUnit (cs : List Char) : Option Nat :=
    let (negative, rest) := signOf cs
    match rest with
    | [c] => if isUnit c then some (withSign binary64 negative one) else none
    | _ => none
  let startsWithSign (cs : List Char) : Bool := cs.head? == some '+' || cs.head? == some '-'
  match bareUnit cs with
  | some im => some (0, im)
  | none =>
    match signedFloat? cs with
    | none => none
    | some (re, []) => some (re, 0)
    | some (re, [c]) => if isUnit c then some (0, re) else none
    | some (re, rest) =>
      if startsWithSign rest then
        match bareUnit rest with
        | some im => some (re, im)
        | none =>
          match signedFloat? rest with
          | some (im, [c]) => if isUnit c then some (re, im) else none
          | _ => none
      else none

/-- The complex number that code points denote; brackets may stand around it. -/
def readComplex? (ps : List Nat) : Option (Nat × Nat) :=
  let blank (c : Char) : Bool := Text.isSpacePoint c.toNat
  let inner := match numeralChars ps with
    | '(' :: cs =>
      match cs.reverse with
      | ')' :: cs => some ((cs.dropWhile blank).reverse.dropWhile blank)
      | _ => none
    | cs => some cs
  inner.bind complexOf?

section
variable [Ops]

/-- The integer part of a floating-point number. -/
def floatToInt (bits : Nat) : Exec Int := do
  if binary64.isNaN bits then valueError "cannot convert float NaN to integer"
  else if !binary64.isFinite bits then
    raiseError .overflowError "cannot convert float infinity to integer"
  else return truncate binary64 bits

/-- The integer that the text in an object denotes. -/
def integerOfText (base : Nat) (r : Ref) (ps : List Nat) : Exec Int := do
  match readInteger base ps with
  | .number n => return n
  | .tooLong digits =>
    valueError ("Exceeds the limit (4300 digits) for integer string conversion: value has " ++
      toString digits ++ " digits; use sys.set_int_max_str_digits() to increase the limit")
  | .malformed => do
    raiseRef (← newError .valueError
      [← newText (Text.ofString ("invalid literal for int() with base " ++ toString base ++ ": ") ++
        (← Ops.repr r))])

/-- The integer that an object converts to. -/
def toInteger (r : Ref) : Exec Int := do
  let refuse : Exec Int := do
    typeError ("int() argument must be a string, a bytes-like object or a real number, not '" ++
      (← typeNameOf r) ++ "'")
  match ← callSpecial? r "__int__" [] with
  | some v =>
    match ← int? v with
    | some n => return n
    | none => typeError ("__int__ returned non-int (type " ++ (← typeNameOf v) ++ ")")
  | none =>
    match ← dataOf r with
    | .int n => return n
    | .float b => floatToInt b
    | .str t => integerOfText 10 r t.points
    | .bytes bs | .bytearray bs => integerOfText 10 r (bs.map UInt8.toNat)
    | _ =>
      match ← index? r with
      | some n => return n
      | none =>
        match ← callSpecial? r "__trunc__" [] with
        | none => refuse
        | some v =>
          match ← index? v with
          | some n => return n
          | none =>
            typeError ("__trunc__ returned non-Integral (type " ++ (← typeNameOf v) ++ ")")

/-- The pattern of an integer, which must not be too large. -/
def intToFloat (n : Int) : Exec Nat :=
  match Num.ofInt n with
  | .ok b => return b
  | .error e => raiseNum e

/-- The floating-point number that an object converts to, text aside; `none` if it is no
number. -/
def realNumber? (r : Ref) : Exec (Option Nat) := do
  match ← callSpecial? r "__float__" [] with
  | some v =>
    match ← dataOf v with
    | .float b => return some b
    | _ =>
      typeError ((← typeNameOf r) ++ ".__float__ returned non-float (type " ++
        (← typeNameOf v) ++ ")")
  | none =>
    match ← dataOf r with
    | .float b => return some b
    | .int n => some <$> intToFloat n
    | _ =>
      match ← index? r with
      | some n => some <$> intToFloat n
      | none => return none

/-- The floating-point number that an object converts to. -/
def toFloat (r : Ref) : Exec Nat := do
  match ← realNumber? r with
  | some b => return b
  | none =>
    let read (ps : List Nat) : Exec Nat := do
      match readFloat? ps with
      | some b => return b
      | none =>
        raiseRef (← newError .valueError
          [← newText ("could not convert string to float: " ++ (← Ops.repr r))])
    match ← dataOf r with
    | .str t => read t.points
    | .bytes bs | .bytearray bs => read (bs.map UInt8.toNat)
    | _ =>
      typeError ("float() argument must be a string or a real number, not '" ++
        (← typeNameOf r) ++ "'")

/-- The complex number that an object stands for; `none` if it is no number. -/
def complexNumber? (r : Ref) : Exec (Option (Nat × Nat)) := do
  match ← callSpecial? r "__complex__" [] with
  | some v =>
    match ← dataOf v with
    | .complex re im => return some (re, im)
    | _ => typeError ("__complex__ returned non-complex (type " ++ (← typeNameOf v) ++ ")")
  | none =>
    match ← dataOf r with
    | .complex re im => return some (re, im)
    | _ => return (← realNumber? r).map fun b => (b, 0)

/-- The complex number that the arguments of its constructor give. -/
def complexFrom (a : Args) : Exec (Nat × Nat) := do
  let vs ← bindNamed "complex" (.optional ["real", "imag"]) a
  let isText (r : Ref) : Exec Bool := do return (← text? r).isSome
  let second := parameter? vs 1
  match parameter? vs 0 with
  | none =>
    match second with
    | none => return (0, 0)
    | some y => combine (0, 0) y
  | some x =>
    match ← dataOf x with
    | .str t =>
      if second.isSome then typeError "complex() can't take second arg if first is a string"
      match readComplex? t.points with
      | some c => return c
      | none => valueError "complex() arg is a malformed string"
    | _ =>
      if let some y := second then
        if ← isText y then typeError "complex() second arg can't be a string"
      match ← complexNumber? x, second with
      | none, _ =>
        typeError ("complex() first argument must be a string or a number, not '" ++
          (← typeNameOf x) ++ "'")
      | some c, none => return c
      | some c, some y => combine c y
where
  /-- A complex number to which another one times the imaginary unit is added. -/
  combine (c : Nat × Nat) (y : Ref) : Exec (Nat × Nat) := do
    if (← text? y).isSome then typeError "complex() second arg can't be a string"
    let add (a b : Nat) : Nat := Num.pattern (Num.host a + Num.host b)
    match ← dataOf y with
    | .complex re im =>
      return (Num.pattern (Num.host c.1 - Num.host im), add c.2 re)
    | _ =>
      match ← realNumber? y with
      | some b => return (c.1, if c.2 == 0 then b else add c.2 b)
      | none =>
        typeError ("complex() second argument must be a number, not '" ++ (← typeNameOf y) ++ "'")

end

end GuestBridge.Guest
