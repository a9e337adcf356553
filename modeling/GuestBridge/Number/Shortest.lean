import GuestBridge.Number.Binary
import GuestBridge.Text.Points

/-!
# Shortest decimals

The shortest decimal that reads back as a given finite binary number. On the decimal grid of one
digit, then two, and so on, the two neighbours of the number are tested against the interval of
reals that round to it; the first grid with a hit wins, and of two hits the nearer one.

## Main definitions

* `Number.shortest` — digits and decimal exponent;
* `Number.FloatForm` and `Number.FloatForm.render` — a way to write numbers, and the writing.
-/

namespace GuestBridge.Number

/-- `10 ^ e` as a quotient of naturals. -/
def powerOfTen (e : Int) : Nat × Nat :=
  if e ≥ 0 then (Nat.pow 10 e.toNat, 1) else (1, Nat.pow 10 (-e).toNat)

/-- The exponent of the leading decimal digit of the positive quotient `n / d`. -/
def leadingExponent (n d : Nat) : Int :=
  let guess : Int := ((Nat.toDigits 10 n).length : Int) - (Nat.toDigits 10 d).length
  let (p, q) := powerOfTen guess
  if n * q < d * p then guess - 1 else guess

/-- The interval of reals that round to a positive finite pattern, as bounds `low / den` and
`high / den` around `mid / den`; the ends belong to it when `closed`. -/
structure Rounding where
  low : Nat
  mid : Nat
  high : Nat
  den : Nat
  closed : Bool

/-- The reals that round to the pattern `bits`. -/
def roundingOf (f : Format) (bits : Nat) : Rounding :=
  let m := f.mantissa bits
  let q := f.exponent bits
  let down := if f.mantissaField bits == 0 && f.exponentField bits > 1 then 1 else 2
  let (scale, den) := if q ≥ 0 then (Nat.pow 2 q.toNat, 4) else (1, 4 * Nat.pow 2 (-q).toNat)
  ⟨(4 * m - down) * scale, 4 * m * scale, (4 * m + 2) * scale, den, m % 2 == 0⟩

/-- Whether the decimal `c · 10^e` rounds to the pattern. -/
def Rounding.covers (r : Rounding) (c : Nat) (e : Int) : Bool :=
  let (p, q) := powerOfTen e
  let x := c * p * r.den
  if r.closed then r.low * q ≤ x && x ≤ r.high * q else r.low * q < x && x < r.high * q

/-- Tries grids with `digits` and more digits, `fuel` of them. -/
def shortestFrom (r : Rounding) (lead : Int) : (fuel digits : Nat) → Nat × Int
  | 0, digits =>
    let e := lead + 1 - digits
    let (p, q) := powerOfTen e
    (r.mid * q / (r.den * p), e)
  | fuel + 1, digits =>
    let e := lead + 1 - digits
    let (p, q) := powerOfTen e
    let c := r.mid * q / (r.den * p)
    let below := r.covers c e && c != 0
    let above := r.covers (c + 1) e
    if below && above then
      -- the nearer of the two; a tie goes to the even digit
      let twice := 2 * r.mid * q
      let half := (2 * c + 1) * r.den * p
      (if twice < half || (twice == half && c % 2 == 0) then c else c + 1, e)
    else if below then (c, e)
    else if above then (c + 1, e)
    else shortestFrom r lead fuel (digits + 1)

/-- Removes trailing zeros of a positive coefficient, at most `fuel` of them. -/
def stripZeros : (fuel : Nat) → Nat × Int → Nat × Int
  | 0, x => x
  | fuel + 1, (c, e) => if c % 10 == 0 && c != 0 then stripZeros fuel (c / 10, e + 1) else (c, e)

/-- Coefficient and decimal exponent of the shortest decimal that rounds to a finite pattern that
is not zero. -/
def shortest (f : Format) (bits : Nat) : Nat × Int :=
  let r := roundingOf f bits
  stripZeros 20 (shortestFrom r (leadingExponent r.mid r.den) 20 1)

/-- How floating-point numbers are written: which exponents of the leading digit are written
positionally, and how many digits the exponent has at least. An exponent always has a sign. -/
structure FloatForm where
  positionalFrom : Int
  positionalBelow : Int
  exponentDigits : Nat
  deriving DecidableEq, Repr

/-- The guest's form: positional from `10^-4` to below `10^16`, two exponent digits. -/
def guestForm : FloatForm := ⟨-4, 16, 2⟩

/-- The host's form: always positional. -/
def hostForm : FloatForm := ⟨-400, 400, 1⟩

/-- Positional writing of the digits `ds` whose first one stands at exponent `lead`; a number
without a fraction ends in `.0`. -/
def positional (ds : List Char) (lead : Int) : List Char :=
  if lead < 0 then
    '0' :: '.' :: List.replicate (-lead - 1).toNat '0' ++ ds
  else
    let whole := lead.toNat + 1
    let fraction := ds.drop whole
    ds.take whole ++ List.replicate (whole - ds.length) '0' ++ '.' ::
      (if fraction.isEmpty then ['0'] else fraction)

/-- Scientific writing of the digits `ds` whose first one stands at exponent `lead`. -/
def scientific (form : FloatForm) (ds : List Char) (lead : Int) : List Char :=
  let whole := ds.take 1 ++ (if ds.length > 1 then '.' :: ds.drop 1 else [])
  let e := Nat.toDigits 10 lead.natAbs
  let sign := if lead < 0 then ['-'] else ['+']
  whole ++ 'e' :: sign ++ List.replicate (form.exponentDigits - e.length) '0' ++ e

/-- A pattern in the given form. -/
def FloatForm.render (form : FloatForm) (f : Format) (bits : Nat) : String :=
  if f.isNaN bits then "nan"
  else
    let sign := if f.isNegative bits then ['-'] else []
    String.ofList <| sign ++
      if !f.isFinite bits then "inf".toList
      else if f.mantissa bits == 0 then "0.0".toList
      else
        let (c, e) := shortest f bits
        let ds := Nat.toDigits 10 c
        let lead := e + ds.length - 1
        if form.positionalFrom ≤ lead && lead < form.positionalBelow then positional ds lead
        else scientific form ds lead

end GuestBridge.Number
