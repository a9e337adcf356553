import GuestBridge.Json.Reader

/-!
# Numbers in JSON texts

Integers that fit into 64 bits are read exactly. Any other number becomes a 64-bit floating-point
number: the first digits, as many as fit into 64 bits, are rounded to a floating-point number, which
is then multiplied or divided by a rounded power of ten. A number past the largest finite one is
refused.
-/

namespace GuestBridge.Json.Scan

open Number

/-- The greatest integer that is read exactly. -/
def wordLimit : Nat := Nat.pow 2 64 - 1

/-- The greatest exponent that is taken in digit by digit. -/
def exponentLimit : Nat := Nat.pow 2 31 - 1

/-- The greatest power of ten that is a finite number. -/
def powerLimit : Nat := 308

/-- The pattern nearest to a natural number. -/
def nearest (n : Nat) : Nat := (ofRatio? binary64 n 1).getD binary64.infinity

/-- The rounded product of a number and a power of ten; `none` past the largest finite number. -/
def timesPower (bits k : Nat) : Option Nat :=
  let (n, d) := toRatio binary64 bits
  let (p, q) := toRatio binary64 (nearest (Nat.pow 10 k))
  ofRatio? binary64 (n * p) (d * q)

/-- The rounded quotient of a number by a power of ten. -/
def overPower (bits k : Nat) : Nat :=
  let (n, d) := toRatio binary64 bits
  let (p, q) := toRatio binary64 (nearest (Nat.pow 10 k))
  (ofRatio? binary64 (n * q) (d * p)).getD binary64.infinity

/-- The number `bits · 10^exponent`, in steps of at most `10^308`; `none` if it is too large. `fuel`
bounds the number of steps down, of which four reach zero from anywhere. -/
def scaled : (fuel : Nat) → (bits : Nat) → (exponent : Int) → Option Nat
  | 0, bits, _ => some bits
  | fuel + 1, bits, exponent =>
    if exponent.natAbs ≤ powerLimit then
      if 0 ≤ exponent then timesPower bits exponent.natAbs
      else some (overPower bits exponent.natAbs)
    else if bits == 0 then some 0
    else if 0 ≤ exponent then none
    else scaled fuel (overPower bits powerLimit) (exponent + powerLimit)

/-- A floating-point number of a sign, leading digits and an exponent. -/
def floatOf (negative : Bool) (significand : Nat) (exponent : Int) : Scan Found := do
  match scaled 5 (nearest significand) exponent with
  | some bits => return .float (withSign binary64 negative bits)
  | none => fail .numberOutOfRange

/-- The value of a digit. -/
def digitValue (b : UInt8) : Nat := b.toNat - 48

/-- Adds digits to a number as long as it fits into 64 bits; the digits that are left over come
back too. -/
def takeWord : (n : Nat) → List UInt8 → Nat × List UInt8
  | n, [] => (n, [])
  | n, d :: ds =>
    let m := 10 * n + digitValue d
    if m ≤ wordLimit then takeWord m ds else (n, d :: ds)

/-- Takes the digits of an exponent; `none` if there are too many for it to matter. -/
def exponentDigits : (fuel : Nat) → (e : Nat) → Scan (Option Nat)
  | 0, e => return some e
  | fuel + 1, e => do
    match ← peek with
    | some b =>
      if isDigit b then
        advance
        let e := 10 * e + digitValue b
        if e ≤ exponentLimit then exponentDigits fuel e else return none
      else return some e
    | none => return some e

/-- Takes an exponent from its letter on and gives the number that it completes. -/
def exponentPart (negative : Bool) (significand : Nat) (exponent : Int) : Scan Found := do
  advance
  let sign ← peek
  if sign == some 43 || sign == some 45 then advance
  match ← next with
  | none => fail .endInValue
  | some b =>
    if !isDigit b then fail .invalidNumber
    else
      match ← exponentDigits ((← get).rest.length + 1) (digitValue b) with
      | some e =>
        floatOf negative significand (if sign == some 45 then exponent - e else exponent + e)
      | none =>
        if significand != 0 && sign != some 45 then fail .numberOutOfRange
        else
          skipDigits
          return .float (withSign binary64 negative 0)

/-- Completes a number after its digits: with an exponent, if there is one. -/
def completeFloat (negative : Bool) (significand : Nat) (exponent : Int) : Scan Found := do
  let b ← peek
  if b == some 101 || b == some 69 then exponentPart negative significand exponent
  else floatOf negative significand exponent

/-- Takes a fraction from its point on and gives the number that it completes. -/
def fractionPart (negative : Bool) (significand : Nat) (exponent : Int) : Scan Found := do
  advance
  let ds := (← get).rest.takeWhile isDigit
  let (significand, left) := takeWord significand ds
  if ds.isEmpty then
    match ← peek with
    | some _ => failNext .invalidNumber
    | none => fail .endInValue
  else
    modify (Reader.skip ds.length)
    completeFloat negative significand (exponent - (ds.length - left.length : Nat))

/-- Takes a number after its sign. -/
def number (negative : Bool) : Scan Found := do
  match ← next with
  | none => fail .endInValue
  | some b =>
    if !isDigit b then fail .invalidNumber
    else if b == 48 then
      match (← peek).map isDigit with
      | some true => failNext .invalidNumber
      | _ => complete 0 []
    else
      let (n, left) := takeWord (digitValue b) (← digits)
      complete n left
where
  /-- Completes a number after its leading digits; `left` are those that did not fit. -/
  complete (n : Nat) (left : List UInt8) : Scan Found := do
    let b ← peek
    if b == some 46 then fractionPart negative n left.length
    else if b == some 101 || b == some 69 then exponentPart negative n left.length
    else if !left.isEmpty then floatOf negative n left.length
    else if !negative then return .integer n
    else if n == 0 || n > Nat.pow 2 63 then return .float (withSign binary64 true (nearest n))
    else return .integer (-n)

end GuestBridge.Json.Scan
