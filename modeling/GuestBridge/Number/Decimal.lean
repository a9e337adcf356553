import GuestBridge.Number.Shortest

/-!
# Decimals of a given length

A finite binary number rounded to a given number of decimal places, or to a given number of
significant digits. The rounding works on the exact value, and a tie goes to the even digit.
-/

namespace GuestBridge.Number

/-- The digits of `n`, at least `width` of them. -/
def digitsOf (n width : Nat) : List Char :=
  let ds := Nat.toDigits 10 n
  List.replicate (width - ds.length) '0' ++ ds

/-- The size of a finite pattern in units of `10 ^ -places`, rounded. -/
def inPlaces (f : Format) (bits places : Nat) : Nat :=
  let (n, d) := toRatio f bits
  roundHalfEven (n * Nat.pow 10 places) d

/-- The whole part and the `places` digits after the point of a finite pattern, without sign. -/
def fixedDigits (f : Format) (bits places : Nat) : List Char × List Char :=
  let ds := digitsOf (inPlaces f bits places) (places + 1)
  (ds.take (ds.length - places), ds.drop (ds.length - places))

/-- The first `count` digits of a finite pattern, `count` being positive, and the decimal exponent
of the first of them. -/
def leadingDigits (f : Format) (bits count : Nat) : List Char × Int :=
  let (n, d) := toRatio f bits
  if n == 0 then (List.replicate count '0', 0)
  else
    let lead := leadingExponent n d
    let (p, q) := powerOfTen (lead + 1 - count)
    let c := roundHalfEven (n * q) (d * p)
    -- rounding may carry into one digit more
    if c < Nat.pow 10 count then (digitsOf c count, lead)
    else (digitsOf (c / 10) count, lead + 1)

/-- The exponent of a number in scientific form: a sign and at least two digits. -/
def exponentText (e : Int) : List Char :=
  'e' :: (if e < 0 then '-' else '+') :: digitsOf e.natAbs 2

/-- A whole part and a fraction with the point between them, which is left out before an empty
fraction unless `keepPoint`. -/
def withPoint (keepPoint : Bool) (whole fraction : List Char) : List Char :=
  if fraction.isEmpty && !keepPoint then whole else whole ++ '.' :: fraction

/-- A finite pattern, without sign, with a given number of places. -/
def fixedText (f : Format) (bits places : Nat) (keepPoint : Bool) : List Char :=
  let (whole, fraction) := fixedDigits f bits places
  withPoint keepPoint whole fraction

/-- A finite pattern, without sign, in scientific form with a given number of places. -/
def scientificText (f : Format) (bits places : Nat) (keepPoint : Bool) : List Char :=
  let (ds, e) := leadingDigits f bits (places + 1)
  withPoint keepPoint (ds.take 1) (ds.drop 1) ++ exponentText e

/-- Removes the zeros at the end of a fraction. -/
def trimZeros (ds : List Char) : List Char :=
  (ds.reverse.dropWhile (· == '0')).reverse

/-- Digits, the first of which stands at exponent `lead`, in positional form. -/
def positionalText (ds : List Char) (lead : Int) (keepPoint : Bool) : List Char :=
  if lead < 0 then withPoint keepPoint ['0'] (List.replicate (-lead - 1).toNat '0' ++ ds)
  else
    let n := lead.toNat + 1
    withPoint keepPoint (ds.take n ++ List.replicate (n - ds.length) '0') (ds.drop n)

/-- A finite pattern, without sign, with a given number of significant digits: in positional form
unless its exponent is small or reaches `most`. Zeros at the end are left out unless `keepZeros`. -/
def generalText (f : Format) (bits count : Nat) (most : Int) (keepZeros pointZero : Bool) :
    List Char :=
  let count := max count 1
  let (ds, lead) := leadingDigits f bits count
  let shown := if keepZeros then ds else
    match trimZeros ds with
    | [] => ['0']
    | ds => ds
  if lead < -4 || most ≤ lead then
    withPoint keepZeros (shown.take 1) (shown.drop 1) ++ exponentText lead
  else
    let text := positionalText shown lead keepZeros
    if pointZero && !text.contains '.' then text ++ ['.', '0'] else text

end GuestBridge.Number
