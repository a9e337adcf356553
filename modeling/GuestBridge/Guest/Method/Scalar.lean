import GuestBridge.Guest.Arguments

/-!
# Methods of numbers, generators, exceptions and properties
-/

namespace GuestBridge.Guest

open Number

/-- How many arguments these methods take. -/
def scalarArity (k : Kind) (id : String) : Arity :=
  match k, id with
  | .generator, "send" => .one
  | .generator, "throw" => .between 1 3
  | .property, "getter" | .property, "setter" | .property, "deleter" => .one
  | .property, "__set_name__" => .between 2 2
  | .error _, "with_traceback" | .error _, "add_note" | .error _, "__setstate__" => .one
  | .int, "to_bytes" | .int, "from_bytes" => .any
  | _, "__round__" => .between 0 1
  | .float, "fromhex" => .one
  | _, "__format__" | _, "__reduce_ex__" | _, "__instancecheck__" | _, "__subclasscheck__" => .one
  | _, "__init_subclass__" | _, "__subclasshook__" => .any
  | _, _ => .none

/-- The number of bits of an integer without its sign. -/
def bitLength (n : Int) : Nat := if n == 0 then 0 else n.natAbs.log2 + 1

/-- The bytes of a natural number, the lowest first. -/
def lowBytes : (count n : Nat) → List UInt8
  | 0, _ => []
  | count + 1, n => (n % 256).toUInt8 :: lowBytes count (n / 256)

/-- The integer nearest to a finite pattern, a half to the even one. -/
def roundFloat (bits : Nat) : Int :=
  let (n, d) := toRatio binary64 bits
  let r : Int := roundHalfEven n d
  if binary64.isNegative bits then -r else r

/-- An integer rounded to a multiple of a power of ten, a half to the even one. -/
def roundToTens (n : Int) (digits : Nat) : Int :=
  let unit := Nat.pow 10 digits
  let q : Int := roundHalfEven n.natAbs unit * unit
  if n < 0 then -q else q

/-- A finite pattern rounded to a number of decimal places; `none` if the result is too large. -/
def roundToPlaces (bits : Nat) (digits : Int) : Option Nat :=
  let (n, q) := toRatio binary64 bits
  -- beyond these limits nothing changes, or nothing is left
  if digits > 330 then some bits
  else if digits < -330 then some (withSign binary64 (binary64.isNegative bits) 0)
  else
    let rounded := if digits ≥ 0 then
        ofRatio? binary64 (roundHalfEven (n * Nat.pow 10 digits.toNat) q) (Nat.pow 10 digits.toNat)
      else
        let unit := Nat.pow 10 (-digits).toNat
        ofRatio? binary64 (roundHalfEven n (q * unit) * unit) 1
    rounded.map (withSign binary64 (binary64.isNegative bits))

/-- A floating-point number in hexadecimal digits. -/
def hexFloat (bits : Nat) : List Char :=
  let sign := if binary64.isNegative bits then ['-'] else []
  let e := binary64.exponentField bits
  let m := binary64.mantissaField bits
  if binary64.isNaN bits then "nan".toList
  else if !binary64.isFinite bits then sign ++ "inf".toList
  else
    let ds := Nat.toDigits 16 m
    let fraction := List.replicate (13 - ds.length) '0' ++ ds
    let (lead, power) : Char × Int :=
      if e == 0 then ('0', if m == 0 then 0 else -1022) else ('1', (e : Int) - 1023)
    if e == 0 && m == 0 then sign ++ "0x0.0p+0".toList
    else
      sign ++ '0' :: 'x' :: lead :: '.' :: fraction ++ 'p' :: (if power < 0 then '-' else '+') ::
        Nat.toDigits 10 power.natAbs

section
variable [Ops]

/-- The order of bytes that an argument names: whether the lowest comes first. -/
def byteOrderArg (shown : String) (r : Option Ref) : Exec Bool := do
  match r with
  | none => return false
  | some r =>
    match (← textArg shown "argument 'byteorder'" r).lossy with
    | "little" => return true
    | "big" => return false
    | _ => valueError "byteorder must be either 'little' or 'big'"

/-- A flag among arguments. -/
def flagArg (r : Option Ref) : Exec Bool := do
  match r with
  | none => return false
  | some r => isTrue r

/-- The bytes of an integer, as its method gives them. -/
def integerBytes (n : Int) (a : Args) : Exec Ref := do
  let vs ← bindNamed "to_bytes" ⟨["length", "byteorder", "signed"], 0, 2⟩ a
  let count ← match parameter? vs 0 with
    | some r => sizeArg r
    | none => pure 1
  let little ← byteOrderArg "to_bytes()" (parameter? vs 1)
  let isSigned ← flagArg (parameter? vs 2)
  if count < 0 then valueError "length argument must be non-negative"
  if n < 0 && !isSigned then
    raiseError .overflowError "can't convert negative int to unsigned"
  let size := 8 * count.toNat
  let fits := if isSigned then
      if size == 0 then n == 0 else -(Nat.pow 2 (size - 1) : Int) ≤ n && n < Nat.pow 2 (size - 1)
    else n < Nat.pow 2 size
  if !fits then raiseError .overflowError "int too big to convert"
  let bs := lowBytes count.toNat (n % Nat.pow 2 size).toNat
  newBytes (if little then bs else bs.reverse)

/-- The integer of bytes, as the method of the type gives it. -/
def integerOfBytes (a : Args) : Exec Int := do
  let vs ← bindNamed "from_bytes" ⟨["bytes", "byteorder", "signed"], 1, 2⟩ a
  let little ← byteOrderArg "from_bytes()" (parameter? vs 1)
  let isSigned ← flagArg (parameter? vs 2)
  let source := (parameter? vs 0).getD noneRef
  let bs ← match ← bytes? source with
    | some bs => pure bs
    | none => do
      let convertible := match ← dataOf source with
        | .str _ | .int _ => false
        | _ => true
      let iterable : Exec Bool := do return (← iter? source).isSome
      if ← pure convertible <&&> iterable then bytesFrom source
      else typeError ("cannot convert '" ++ (← typeNameOf source) ++ "' object to bytes")
  let bs := if little then bs.reverse else bs
  let n : Int := ((bs.foldl (fun n b => n * 256 + b.toNat) 0 : Nat) : Int)
  let negative := isSigned && (bs.head?.map UInt8.toNat).getD 0 ≥ 128
  return if negative then n - Nat.pow 2 (8 * bs.length) else n

/-- A method of integers. -/
def intMethod (n : Int) (id : String) (a : Args) : Exec Ref := do
  match id with
  | "bit_length" => newInt (bitLength n)
  | "bit_count" =>
    newInt (((List.range (bitLength n)).countP fun i => n.natAbs.testBit i : Nat) : Int)
  | "conjugate" | "__ceil__" | "__floor__" | "__trunc__" => newInt n
  | "__round__" =>
    match a.at? 0 with
    | none => newInt n
    | some d =>
      let d ← index d
      newInt (if d ≥ 0 then n else roundToTens n (-d).toNat)
  | "as_integer_ratio" => newTuple [← newInt n, ← newInt 1]
  | "__getnewargs__" => newTuple [← newInt n]
  | "__sizeof__" => newInt (24 + 4 * max 1 ((bitLength n + 29) / 30))
  | "to_bytes" => integerBytes n a
  | _ => raiseError .notImplementedError id

/-- A method of floating-point numbers. -/
def floatMethod (bits : Nat) (id : String) (a : Args) : Exec Ref := do
  let whole (what : String) (f : Nat → Int) : Exec Ref := do
    if binary64.isNaN bits then valueError ("cannot convert " ++ (if what == "integer"
      then "float " else "") ++ "NaN to " ++ what)
    else if !binary64.isFinite bits then
      raiseError .overflowError ("cannot convert " ++ (if what == "integer" then "float infinity"
        else "Infinity") ++ " to " ++ what)
    else newInt (f bits)
  match id with
  | "is_integer" => return boolRef (toInt? binary64 bits).isSome
  | "conjugate" => newFloat bits
  | "__trunc__" => whole "integer" (truncate binary64)
  | "__floor__" => whole "integer" fun b => let (n, d) := Num.ratio b; n.fdiv d
  | "__ceil__" => whole "integer" fun b => let (n, d) := Num.ratio b; -((-n).fdiv d)
  | "__round__" =>
    match (a.at? 0).filter (!isNone ·) with
    | none => whole "integer" roundFloat
    | some d =>
      let d ← index d
      if !binary64.isFinite bits then newFloat bits
      else
        match roundToPlaces bits d with
        | some b => newFloat b
        | none => raiseError .overflowError "rounded value too large to represent"
  | "as_integer_ratio" =>
    if !binary64.isFinite bits then whole "integer ratio" fun _ => 0
    else
      let (n, d) := Num.ratio bits
      let g := Nat.gcd n.natAbs d
      newTuple [← newInt (n / g), ← newInt ((d / g : Nat) : Int)]
  | "hex" => newStr (String.ofList (hexFloat bits))
  | "__getnewargs__" => newTuple [← newFloat bits]
  | _ => raiseError .notImplementedError id

/-- A method of complex numbers. -/
def complexMethod (self : Ref) (re im : Nat) (id : String) : Exec Ref := do
  match id with
  | "conjugate" => newNum (.complex re (withSign binary64 (!binary64.isNegative im)
      (im % binary64.signBit)))
  | "__complex__" => return self
  | "__getnewargs__" => newTuple [← newFloat re, ← newFloat im]
  | _ => raiseError .notImplementedError id

/-- The exception object that a class or an exception stands for when it is raised. -/
def exceptionFrom? (r : Ref) : Exec (Option Ref) := do
  match ← dataOf r with
  | .error _ => return some r
  | _ =>
    match ← class? r with
    | some c =>
      if ← c.extendsKind (.error .baseException) then
        let v ← Ops.call r (.of [])
        match ← dataOf v with
        | .error _ => return some v
        | _ =>
          typeError ("calling " ++ (← Ops.repr r).lossy ++
            " should have returned an instance of BaseException, not " ++
            (← Ops.repr (← classOf v).ref).lossy)
      else return none
    | none => return none

/-- A method of generators. -/
def generatorMethod (r : Ref) (id : String) (a : Args) : Exec Ref := do
  let finish (x : Resumed) : Exec Ref :=
    match x with
    | .yielded v => return v
    | .finished v => stopIteration v
  match id with
  | "send" => do finish (← resume r (.ok (a.at 0)))
  | "throw" =>
    let given ← match a.at? 1 with
      | some v => if isNone v then pure (a.at 0) else match ← dataOf v with
        | .error _ => pure v
        | _ => Ops.call (a.at 0) (.of [v])
      | none => pure (a.at 0)
    match ← exceptionFrom? given with
    | some e =>
      let trace := match ← dataOf e with
        | .error d => d.trace
        | _ => []
      match ← dataOf r with
      | .generator _ _ (some _) false _ => setGeneratorFrame r none false
      | _ => pure ()
      finish (← resume r (.error (e, trace)))
    | none =>
      typeError ("exceptions must be classes or instances deriving from BaseException, not " ++
        (← typeNameOf given))
  | "close" =>
    closeGenerator r
    return noneRef
  | _ => raiseError .notImplementedError id

/-- A method of exceptions. -/
def errorMethod (r : Ref) (e : ErrorData) (id : String) (a : Args) : Exec Ref := do
  match id with
  | "with_traceback" =>
    discard <| setErrorAttribute r e "__traceback__" (a.at 0)
    return r
  | "add_note" =>
    match ← text? (a.at 0) with
    | some _ =>
      match ← ownAttr? r "__notes__" with
      | some notes =>
        match ← dataOf notes with
        | .list items => setData notes (.list (items.push (a.at 0)))
        | _ => pure ()
      | none => putAttr r "__notes__" (← newList [a.at 0])
      return noneRef
    | none => typeError ("note must be a str, not '" ++ (← typeNameOf (a.at 0)) ++ "'")
  | "__reduce__" => do newTuple ((← classOf r).ref :: [← newTuple e.args])
  | _ => return noneRef

/-- A new property. Without a text of its own, its text is that of the function that reads it. -/
def newProperty (c : Class) (get set delete : Option Ref) (doc : Option Ref) : Exec Ref := do
  let r ← alloc { cls := c, data := .property get set delete }
  let text ← match doc.filter (!isNone ·), get with
    | some d, _ => pure d
    | none, some g => pure ((← getAttr? g "__doc__").getD noneRef)
    | none, none => pure noneRef
  putSlot r "__doc__" text
  return r

/-- A method of properties: each makes a property with one part replaced. -/
def propertyMethod (self : Ref) (get set delete : Option Ref) (id : String) (a : Args) :
    Exec Ref := do
  let c ← classOf self
  let f := some (a.at 0)
  -- a text that came from the reading function comes from it again
  let own := orNone (← slot? self "__doc__")
  let inherited ← match get with
    | some g => pure ((← getAttr? g "__doc__").getD noneRef == own)
    | none => pure false
  let doc := if inherited then none else some own
  let derived (get set delete : Option Ref) : Exec Ref := do
    let made ← newProperty c get set delete doc
    if let some n := ← slot? self "__set_name__" then putSlot made "__set_name__" n
    return made
  match id with
  | "getter" => derived f set delete
  | "setter" => derived get f delete
  | "deleter" => derived get set f
  | _ => do
    putSlot self "__set_name__" (a.at 1)
    return noneRef

end

end GuestBridge.Guest
