import GuestBridge.Guest.Kind
import GuestBridge.Number.Shortest
import GuestBridge.Script.Syntax

/-!
# Arithmetic of the guest

Integers of any size, binary floating point and complex numbers. An operation on two kinds of number
happens in the wider one. Everything here is a function on numbers; objects come in elsewhere.
-/

namespace GuestBridge.Guest

open Number Script

/-- A number of the guest; floating-point parts are bit patterns. -/
inductive Num
  | int (n : Int)
  | float (bits : Nat)
  | complex (re im : Nat)
  deriving DecidableEq, Repr, Inhabited

/-- Why an operation on numbers fails. -/
inductive NumError
  | zeroDivision (message : String)
  | overflow (message : String)
  /-- The result of a power is out of range. -/
  | outOfRange
  | value (message : String)
  /-- No memory could hold the result. -/
  | tooLarge
  deriving DecidableEq, Repr, Inhabited

namespace Num

/-- The host's floating-point number of a pattern. -/
def host (bits : Nat) : Float := Float.ofBits bits.toUInt64

/-- The pattern of a host floating-point number. -/
def pattern (x : Float) : Nat := x.toBits.toNat

/-- The pattern of `+0.0`. -/
def zero : Nat := 0

/-- Whether a pattern is one of the two zeros. -/
def isZero (bits : Nat) : Bool := bits == 0 || bits == binary64.signBit

/-- The pattern of an integer, if it is not too large. -/
def ofInt (n : Int) : Except NumError Nat :=
  match ofInt? binary64 n with
  | some b => .ok b
  | none => .error (.overflow "int too large to convert to float")

/-- A finite pattern as a signed quotient. -/
def ratio (bits : Nat) : Int × Nat :=
  let (n, d) := toRatio binary64 bits
  (if binary64.isNegative bits then -(n : Int) else n, d)

/-- The remainder of finite patterns with the sign of the first, `y` not being zero. -/
def remainder (x y : Nat) : Nat :=
  let (n, d) := toRatio binary64 x
  let (m, e) := toRatio binary64 y
  withSign binary64 (binary64.isNegative x)
    ((ofRatio? binary64 ((n * e) % (m * d)) (d * e)).getD 0)

/-- The remainder with the sign of the first pattern, any of the two being infinite or not a number;
`y` is not zero. -/
def plainRemainder (x y : Nat) : Nat :=
  if binary64.isNaN x || binary64.isNaN y || !binary64.isFinite x then binary64.notANumber
  else if binary64.isFinite y then remainder x y
  else x

/-- The remainder with the sign of the divisor, which is not zero. -/
def modulo (x y : Nat) : Nat :=
  let r := plainRemainder x y
  if isZero r then withSign binary64 (binary64.isNegative y) 0
  else if (host y < 0) != (host r < 0) then pattern (host r + host y)
  else r

/-- The quotient rounded down; the divisor is not zero. -/
def floorQuotient (x y : Nat) : Nat :=
  let r := plainRemainder x y
  let q := (host x - host r) / host y
  let q := if !isZero r && (host y < 0) != (host r < 0) then q - 1 else q
  if q == 0 then withSign binary64 (binary64.isNegative x != binary64.isNegative y) 0
  else
    let f := q.floor
    pattern (if q - f > 0.5 then f + 1 else f)

/-- The quotient of integers, rounded to the nearest pattern. -/
def quotient (a b : Int) : Except NumError Nat :=
  if b == 0 then .error (.zeroDivision "division by zero")
  else
    match ofRatio? binary64 a.natAbs b.natAbs with
    | some bits => .ok (withSign binary64 ((a < 0) != (b < 0)) bits)
    | none => .error (.overflow "integer division result too large for a float")

/-- The integer part of the square root of `n`. -/
def squareRoot (n : Nat) : Nat :=
  if n < 2 then n
  else
    -- Newton's iteration from above descends to the root
    let start := Nat.pow 2 (n.log2 / 2 + 1)
    (List.range (n.log2 + 2)).foldl (fun r _ =>
      let next := (r + n / r) / 2
      if next < r then next else r) start

/-- The length of the hypotenuse over two finite patterns, rounded once. -/
def finiteHypotenuse (x y : Nat) : Nat :=
  let (n, d) := toRatio binary64 x
  let (m, e) := toRatio binary64 y
  -- both denominators are powers of two, so the sum of squares is a quotient by a square
  let den := max d e
  let sum := Nat.pow (n * (den / d)) 2 + Nat.pow (m * (den / e)) 2
  let scale := Nat.pow 2 120
  let root := squareRoot (sum * Nat.pow scale 2)
  -- a root that is not exact lies strictly between two neighbours
  let root := if Nat.pow root 2 == sum * Nat.pow scale 2 then 2 * root else 2 * root + 1
  (ofRatio? binary64 root (2 * den * scale)).getD binary64.infinity

/-- The length of the hypotenuse over two patterns. -/
def hypotenuse (x y : Nat) : Nat :=
  let infinite (b : Nat) : Bool := !binary64.isFinite b && !binary64.isNaN b
  if infinite x || infinite y then binary64.infinity
  else if binary64.isNaN x || binary64.isNaN y then binary64.notANumber
  else finiteHypotenuse x y

/-- A complex number of host parts. -/
structure Plane where
  re : Float
  im : Float

/-- The product of complex numbers. -/
def Plane.mul (a b : Plane) : Plane :=
  ⟨a.re * b.re - a.im * b.im, a.re * b.im + a.im * b.re⟩

/-- The quotient of complex numbers; `none` if the divisor is zero. Top and bottom are first
divided by the larger part of the divisor. -/
def Plane.div? (a b : Plane) : Option Plane :=
  if b.re.abs ≥ b.im.abs then
    if b.re.abs == 0 then none
    else
      let ratio := b.im / b.re
      let den := b.re + b.im * ratio
      some ⟨(a.re + a.im * ratio) / den, (a.im - a.re * ratio) / den⟩
  else if b.im.abs ≥ b.re.abs then
    let ratio := b.re / b.im
    let den := b.re * ratio + b.im
    some ⟨(a.re * ratio + a.im) / den, (a.im * ratio - a.re) / den⟩
  else
    let nan := host binary64.notANumber
    some ⟨nan, nan⟩

/-- A power with a small natural exponent, by repeated squaring: `r` is what the lower bits of the
exponent give and `p` the power of the bit that comes next. -/
def Plane.powFrom : (fuel exponent : Nat) → (r p : Plane) → Plane
  | 0, _, r, _ => r
  | fuel + 1, exponent, r, p =>
    if exponent == 0 then r
    else
      powFrom fuel (exponent / 2) (if exponent % 2 == 1 then r.mul p else r) (p.mul p)

/-- The general power of complex numbers; `none` for zero to a negative or complex power. -/
def Plane.general? (a b : Plane) : Option Plane :=
  if b.re == 0 && b.im == 0 then some ⟨1, 0⟩
  else if a.re == 0 && a.im == 0 then
    if b.im != 0 || b.re < 0 then none else some ⟨0, 0⟩
  else
    let size := host (hypotenuse (pattern a.re) (pattern a.im))
    let angle := Float.atan2 a.im a.re
    let len := size.pow b.re
    let phase := angle * b.re
    let (len, phase) :=
      if b.im != 0 then (len / (angle * b.im).exp, phase + b.im * size.log) else (len, phase)
    some ⟨len * phase.cos, len * phase.sin⟩

/-- The power of complex numbers. -/
def Plane.power (a b : Plane) : Except NumError Num :=
  let small := b.im == 0 && b.re == b.re.floor && b.re.abs ≤ 100
  let result := if small then
      let n := b.re.abs.toUInt64.toNat
      let r := powFrom 8 n ⟨1, 0⟩ a
      if b.re > 0 then some r else (Plane.mk 1 0).div? r
    else general? a b
  match result with
  | none => .error (.zeroDivision "0.0 to a negative or complex power")
  | some r =>
    if r.re.isInf || r.im.isInf then .error (.overflow "complex exponentiation")
    else .ok (.complex (pattern r.re) (pattern r.im))

/-- Whether a number is an odd integer. -/
def isOddWhole (x : Float) : Bool := pattern x |> fun b =>
  match toInt? binary64 b with
  | some n => n % 2 == 1
  | none => false

/-- A power of floating-point numbers. -/
def power (x y : Nat) : Except NumError Num :=
  let (a, b) := (host x, host y)
  let ok (r : Float) : Except NumError Num := .ok (.float (pattern r))
  if b == 0 then ok 1
  else if a.isNaN then ok a
  else if b.isNaN then ok (if a == 1 then 1 else b)
  else if b.isInf then
    if a.abs == 1 then ok 1
    else if (b > 0) == (a.abs > 1) then ok b.abs
    else ok 0
  else if a.isInf then
    if b > 0 then ok (if isOddWhole b then a else a.abs)
    else .ok (.float (if isOddWhole b then withSign binary64 (a < 0) 0 else 0))
  else if a == 0 then
    if b < 0 then .error (.zeroDivision "0.0 cannot be raised to a negative power")
    else if isOddWhole b then ok a else ok 0
  else if a < 0 && b != b.floor then Plane.power ⟨a, 0⟩ ⟨b, 0⟩
  else
    let negative := a < 0 && isOddWhole b
    let size := if a.abs == 1 then 1 else a.abs.pow b
    if size.isInf then .error .outOfRange else ok (if negative then -size else size)

/-- The bits of integers, combined; negative numbers have infinitely many leading ones. -/
def bitwise (f : Bool → Bool → Bool) (a b : Int) : Int :=
  let width := max a.natAbs.log2 b.natAbs.log2 + 2
  let modulus : Int := Nat.pow 2 width
  let (x, y) := ((a % modulus).toNat, (b % modulus).toNat)
  let bits := (List.range width).foldl
    (fun (n : Nat) i => if f (x.testBit i) (y.testBit i) then n + Nat.pow 2 i else n) 0
  if bits.testBit (width - 1) then (bits : Int) - modulus else bits

/-- The number of bits that no integer may have. -/
def bitLimit : Nat := Nat.pow 2 32

/-- The natural power of an integer. -/
def naturalPower (a : Int) (n : Nat) : Except NumError Num :=
  if a.natAbs ≤ 1 then .ok (.int (if n == 0 then 1 else if n % 2 == 0 then a.natAbs else a))
  else if a.natAbs.log2 * n ≥ bitLimit then .error .tooLarge
  else .ok (.int (Int.pow a n))

/-- An integer with its bits moved up. The number of digits, of thirty bits each, is limited even
where there is memory. -/
def shiftUp (a : Int) (n : Nat) : Except NumError Num :=
  if a == 0 then .ok (.int 0)
  else if n / 30 ≥ Nat.pow 2 61 - 8 then .error (.overflow "too many digits in integer")
  else if n ≥ bitLimit then .error .tooLarge
  else .ok (.int (a * Nat.pow 2 n))

/-- An integer with its bits moved down; the lowest ones are lost. -/
def shiftDown (a : Int) (n : Nat) : Int :=
  if n > a.natAbs.log2 then (if a < 0 then -1 else 0) else a.fdiv (Nat.pow 2 n)

/-- An operation on integers. -/
def integerOp (op : BinaryOp) (a b : Int) : Except NumError Num :=
  match op with
  | .add => .ok (.int (a + b))
  | .sub => .ok (.int (a - b))
  | .mul => .ok (.int (a * b))
  | .div => (quotient a b).map .float
  | .floorDiv =>
    if b == 0 then .error (.zeroDivision "integer division or modulo by zero")
    else .ok (.int (a.fdiv b))
  | .mod =>
    if b == 0 then .error (.zeroDivision "integer modulo by zero") else .ok (.int (a.fmod b))
  | .pow =>
    if b ≥ 0 then naturalPower a b.toNat
    else do power (← ofInt a) (← ofInt b)
  | .bitAnd => .ok (.int (bitwise (· && ·) a b))
  | .bitOr => .ok (.int (bitwise (· || ·) a b))
  | .bitXor => .ok (.int (bitwise (· != ·) a b))
  | .shiftLeft =>
    if b < 0 then .error (.value "negative shift count") else shiftUp a b.toNat
  | .shiftRight =>
    if b < 0 then .error (.value "negative shift count") else .ok (.int (shiftDown a b.toNat))

/-- An operation on floating-point numbers; `none` where there is none. -/
def floatOp (op : BinaryOp) (a b : Nat) : Option (Except NumError Num) :=
  let ok (x : Nat) : Option (Except NumError Num) := some (.ok (.float x))
  let zero (message : String) : Option (Except NumError Num) :=
    some (.error (.zeroDivision message))
  match op with
  | .add => ok (pattern (host a + host b))
  | .sub => ok (pattern (host a - host b))
  | .mul => ok (pattern (host a * host b))
  | .div => if isZero b then zero "float division by zero" else ok (pattern (host a / host b))
  | .floorDiv => if isZero b then zero "float floor division by zero" else ok (floorQuotient a b)
  | .mod => if isZero b then zero "float modulo" else ok (modulo a b)
  | .pow => some (power a b)
  | _ => none

/-- An operation on complex numbers; `none` where there is none. -/
def complexOp (op : BinaryOp) (a b c d : Nat) : Option (Except NumError Num) :=
  let (x, y) := (Plane.mk (host a) (host b), Plane.mk (host c) (host d))
  let ok (z : Plane) : Option (Except NumError Num) :=
    some (.ok (.complex (pattern z.re) (pattern z.im)))
  match op with
  | .add => ok ⟨x.re + y.re, x.im + y.im⟩
  | .sub => ok ⟨x.re - y.re, x.im - y.im⟩
  | .mul => ok (x.mul y)
  | .div =>
    match x.div? y with
    | some z => ok z
    | none => some (.error (.zeroDivision "complex division by zero"))
  | .pow => some (x.power y)
  | _ => none

/-- A number as a floating-point number, complex ones aside. -/
def asFloat : Num → Except NumError Nat
  | .int n => ofInt n
  | .float b => .ok b
  | .complex re _ => .ok re

/-- A number as a complex one. -/
def asComplex : Num → Except NumError (Nat × Nat)
  | .complex re im => .ok (re, im)
  | x => do return (← x.asFloat, 0)

/-- An operation on two numbers; `none` where there is none for their kinds. -/
def binary (op : BinaryOp) : Num → Num → Option (Except NumError Num)
  | .int a, .int b => some (integerOp op a b)
  | .complex a b, y =>
    match y.asComplex with
    | .ok (c, d) => complexOp op a b c d
    | .error e => some (.error e)
  | x, .complex c d =>
    match x.asComplex with
    | .ok (a, b) => complexOp op a b c d
    | .error e => some (.error e)
  | x, y =>
    match x.asFloat, y.asFloat with
    | .ok a, .ok b => floatOp op a b
    | .error e, _ | _, .error e => if (floatOp op 0 0).isSome then some (.error e) else none

/-- The opposite number. -/
def neg : Num → Num
  | .int n => .int (-n)
  | .float b => .float (if b < binary64.signBit then b + binary64.signBit else b - binary64.signBit)
  | .complex re im => .complex (pattern (-(host re))) (pattern (-(host im)))

/-- Whether a number is not zero. -/
def truth : Num → Bool
  | .int n => n != 0
  | .float b => !isZero b
  | .complex re im => !isZero re || !isZero im

/-- How a finite or infinite pattern compares with an integer. -/
def compareFloatInt (bits : Nat) (n : Int) : Ordering :=
  if !binary64.isFinite bits then (if binary64.isNegative bits then .lt else .gt)
  else
    let (p, q) := ratio bits
    compare p (n * q)

/-- How two numbers that are not complex compare; `none` if one of them is not a number. -/
def compare? : Num → Num → Option Ordering
  | .int a, .int b => some (compare a b)
  | .float x, .int n => if binary64.isNaN x then none else some (compareFloatInt x n)
  | .int n, .float x => if binary64.isNaN x then none else some (compareFloatInt x n).swap
  | .float x, .float y =>
    if binary64.isNaN x || binary64.isNaN y then none
    else if host x < host y then some .lt
    else if host x == host y then some .eq
    else some .gt
  | _, _ => none

/-- Whether two numbers are equal. -/
def equal : Num → Num → Bool
  | .complex a b, .complex c d => host a == host c && host b == host d
  | .complex a b, y => isZero b && compare? (.float a) y == some .eq
  | x, .complex c d => isZero d && compare? x (.float c) == some .eq
  | x, y => compare? x y == some .eq

/-! ### Hashes -/

/-- The prime by which hashes of numbers are reduced. -/
def hashPrime : Int := Nat.pow 2 61 - 1

/-- A reduced hash; `-1` is not one. -/
def reduceHash (n : Int) : Int :=
  let h := if n < 0 then -((-n) % hashPrime) else n % hashPrime
  if h == -1 then -2 else h

/-- The hash of a pattern, which agrees with that of an equal integer. -/
def hashFloat (bits : Nat) : Int :=
  if binary64.isNaN bits then 0
  else if !binary64.isFinite bits then (if binary64.isNegative bits then -314159 else 314159)
  else
    let (p, q) := ratio bits
    let shift := (61 - q.log2 % 61) % 61
    reduceHash (p * Nat.pow 2 shift)

/-- The hash of a number; equal numbers have equal hashes. -/
def hash : Num → Int
  | .int n => reduceHash n
  | .float b => hashFloat b
  | .complex re im => if isZero im then hashFloat re else
    let h := (hashFloat re + 1000003 * hashFloat im) % Nat.pow 2 64
    let h := if h ≥ Nat.pow 2 63 then h - Nat.pow 2 64 else h
    if h == -1 then -2 else h

/-! ### Text -/

/-- A part of a complex number: like a floating-point number, without a fraction of zero. -/
def complexPart (bits : Nat) : String :=
  let s := guestForm.render binary64 bits
  if s.endsWith ".0" then String.ofList (s.toList.take (s.length - 2)) else s

/-- The text of a number. -/
def text : Num → String
  | .int n => toString n
  | .float b => guestForm.render binary64 b
  | .complex re im =>
    let i := complexPart im
    if re == 0 then i ++ "j"
    else "(" ++ complexPart re ++ (if i.startsWith "-" then "" else "+") ++ i ++ "j)"

/-- The largest number of digits that an integer may have to be written as text. -/
def maxDigits : Nat := 4300

/-- Whether an integer has too many digits to be written. -/
def isTooLong (n : Int) : Bool := n.natAbs ≥ Nat.pow 10 maxDigits

end Num

end GuestBridge.Guest
