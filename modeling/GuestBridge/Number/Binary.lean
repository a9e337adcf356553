/-!
# Binary floating point

A finite binary number of a format is `m · 2^q` with a bounded mantissa. This module reads bit
patterns as such numbers, rounds a quotient of naturals to the nearest pattern (a tie goes to the
even mantissa), and moves between the two formats that the bridge knows.

Everything is stated on bit patterns, so that what a number denotes is exact integer arithmetic.
-/

namespace GuestBridge.Number

/-- A binary interchange format: the number of stored mantissa bits and of exponent bits. -/
structure Format where
  mantissaBits : Nat
  exponentBits : Nat
  deriving DecidableEq, Repr

/-- The 64-bit format. -/
def binary64 : Format := ⟨52, 11⟩

/-- The 32-bit format. -/
def binary32 : Format := ⟨23, 8⟩

namespace Format

/-- The exponent field of infinities and of what is not a number. -/
def special (f : Format) : Nat := Nat.pow 2 f.exponentBits - 1

/-- The exponent of the unit in the last place of the smallest numbers, negated. -/
def lowest (f : Format) : Nat := Nat.pow 2 (f.exponentBits - 1) - 2 + f.mantissaBits

/-- The pattern of infinity, without its sign. -/
def infinity (f : Format) : Nat := f.special * Nat.pow 2 f.mantissaBits

/-- A quiet pattern that is not a number. -/
def notANumber (f : Format) : Nat := f.infinity + Nat.pow 2 (f.mantissaBits - 1)

/-- The sign bit alone. -/
def signBit (f : Format) : Nat := Nat.pow 2 (f.mantissaBits + f.exponentBits)

/-- The exponent field of a pattern. -/
def exponentField (f : Format) (bits : Nat) : Nat :=
  bits / Nat.pow 2 f.mantissaBits % Nat.pow 2 f.exponentBits

/-- The mantissa field of a pattern. -/
def mantissaField (f : Format) (bits : Nat) : Nat :=
  bits % Nat.pow 2 f.mantissaBits

/-- Whether the sign bit is set. -/
def isNegative (f : Format) (bits : Nat) : Bool :=
  bits / f.signBit % 2 == 1

/-- Whether the pattern denotes a number that is not infinite. -/
def isFinite (f : Format) (bits : Nat) : Bool :=
  f.exponentField bits != f.special

/-- Whether the pattern is not a number. -/
def isNaN (f : Format) (bits : Nat) : Bool :=
  f.exponentField bits == f.special && f.mantissaField bits != 0

/-- The mantissa `m` of a finite pattern, which denotes `m · 2^q` up to its sign. -/
def mantissa (f : Format) (bits : Nat) : Nat :=
  if f.exponentField bits == 0 then f.mantissaField bits
  else f.mantissaField bits + Nat.pow 2 f.mantissaBits

/-- The exponent `q` of a finite pattern, which denotes `m · 2^q` up to its sign. -/
def exponent (f : Format) (bits : Nat) : Int :=
  (max (f.exponentField bits) 1 : Int) - 1 - f.lowest

end Format

/-- `n / d` rounded to the nearest integer, a tie to the even one. -/
def roundHalfEven (n d : Nat) : Nat :=
  let q := n / d
  let r := n % d
  if 2 * r < d then q
  else if d < 2 * r then q + 1
  else q + q % 2

/-- The exponent of the last place when `n / d`, both positive, is written with the format's
precision: the mantissa then has one bit more than is stored, unless the number is too small. -/
def lastPlace (f : Format) (n d : Nat) : Int :=
  let guess : Int := (Nat.log2 n : Int) - Nat.log2 d
  let top : Int :=
    if guess ≥ 0 then (if n < d * Nat.pow 2 guess.toNat then guess - 1 else guess)
    else (if n * Nat.pow 2 (-guess).toNat < d then guess - 1 else guess)
  max (top - f.mantissaBits) (-(f.lowest : Int))

/-- The pattern, without sign, of the number nearest to `n / d`; `none` past the largest finite
number. -/
def ofRatio? (f : Format) (n d : Nat) : Option Nat :=
  if n = 0 ∨ d = 0 then some 0
  else
    let q := lastPlace f n d
    let m := if q ≥ 0 then roundHalfEven n (d * Nat.pow 2 q.toNat)
      else roundHalfEven (n * Nat.pow 2 (-q).toNat) d
    let bits :=
      if m < Nat.pow 2 f.mantissaBits then m
      else ((q + f.lowest).toNat + 1) * Nat.pow 2 f.mantissaBits + (m - Nat.pow 2 f.mantissaBits)
    if bits < f.infinity then some bits else none

/-- Puts a sign on an unsigned pattern. -/
def withSign (f : Format) (negative : Bool) (bits : Nat) : Nat :=
  if negative then bits + f.signBit else bits

/-- The pattern nearest to an integer; `none` past the largest finite number. -/
def ofInt? (f : Format) (n : Int) : Option Nat :=
  (ofRatio? f n.natAbs 1).map (withSign f (n < 0))

/-- A finite pattern as a quotient of naturals, without sign. -/
def toRatio (f : Format) (bits : Nat) : Nat × Nat :=
  let q := f.exponent bits
  if q ≥ 0 then (f.mantissa bits * Nat.pow 2 q.toNat, 1)
  else (f.mantissa bits, Nat.pow 2 (-q).toNat)

/-- The integer that a pattern denotes, if it denotes one. -/
def toInt? (f : Format) (bits : Nat) : Option Int :=
  if f.isFinite bits then
    let (n, d) := toRatio f bits
    if n % d == 0 then
      some (if f.isNegative bits then -((n / d : Nat) : Int) else ((n / d : Nat) : Int))
    else none
  else none

/-- The integer next to a finite pattern on the side of zero. -/
def truncate (f : Format) (bits : Nat) : Int :=
  let (n, d) := toRatio f bits
  if f.isNegative bits then -((n / d : Nat) : Int) else ((n / d : Nat) : Int)

/-- The nearest pattern of another format; what is too large becomes infinite. -/
def convert (source target : Format) (bits : Nat) : Nat :=
  withSign target (source.isNegative bits) <|
    if source.isNaN bits then
      target.infinity + max (Nat.pow 2 (target.mantissaBits - 1))
        (if target.mantissaBits ≤ source.mantissaBits then
          source.mantissaField bits / Nat.pow 2 (source.mantissaBits - target.mantissaBits)
        else source.mantissaField bits * Nat.pow 2 (target.mantissaBits - source.mantissaBits))
    else if source.isFinite bits then
      let (n, d) := toRatio source bits
      (ofRatio? target n d).getD target.infinity
    else target.infinity

end GuestBridge.Number
