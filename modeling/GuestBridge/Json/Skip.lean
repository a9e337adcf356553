import GuestBridge.Json.Number

/-!
# Values in JSON texts

Two ways to pass a value by: saying what kind it is, where another kind was expected, and skipping
it, where nothing depends on it. Skipping checks the grammar and nothing else; numbers of any size
pass.
-/

namespace GuestBridge.Json.Scan

/-! ### Unexpected values -/

/-- Takes a value that has no business here as far as is needed to say what it is. -/
def foundValue (b : UInt8) : Scan Found := do
  if b == 110 then
    advance
    word "ull".toUTF8.toList
    return .null
  else if b == 116 then
    advance
    word "rue".toUTF8.toList
    return .boolean true
  else if b == 102 then
    advance
    word "alse".toUTF8.toList
    return .boolean false
  else if b == 45 then
    advance
    number true
  else if isDigit b then number false
  else if b == 34 then
    advance
    return .string (← string)
  else if b == 91 then return .sequence
  else if b == 123 then return .map
  else failNext .expectedValue

/-- Refuses the value that comes next, which starts with `b`. -/
def refuse {α : Type} (b : UInt8) (expected : String) : Scan α := do
  fail (.invalidType (← foundValue b) expected)

/-! ### Skipping -/

/-- Skips an exponent from its letter on. -/
def skipExponent : Scan Unit := do
  advance
  let sign ← peek
  if sign == some 43 || sign == some 45 then advance
  match (← next).map isDigit with
  | some true => skipDigits
  | _ => fail .invalidNumber

/-- Skips an exponent if there is one. -/
def skipExponentIfAny : Scan Unit := do
  let b ← peek
  if b == some 101 || b == some 69 then skipExponent

/-- Skips a number after its sign. -/
def skipNumber : Scan Unit := do
  match ← next with
  | some b =>
    if b == 48 then
      if (← peek).map isDigit == some true then failNext .invalidNumber
    else if isDigit b then skipDigits
    else fail .invalidNumber
    if (← peek) == some 46 then
      advance
      if (← digits).isEmpty then failNext .invalidNumber
    skipExponentIfAny
  | none => fail .invalidNumber

/-- A list or an object that is being skipped. -/
inductive Enclosing
  | list
  | object
  deriving DecidableEq, Repr, Inhabited

/-- The byte that ends what encloses. -/
def Enclosing.close : Enclosing → UInt8
  | list => 93
  | object => 125

/-- Skips a value without parts, or enters one with parts. -/
def skipLeaf (b : UInt8) : Scan (Option Enclosing) := do
  if b == 110 then
    advance
    word "ull".toUTF8.toList
    return none
  else if b == 116 then
    advance
    word "rue".toUTF8.toList
    return none
  else if b == 102 then
    advance
    word "alse".toUTF8.toList
    return none
  else if b == 45 then
    advance
    skipNumber
    return none
  else if isDigit b then
    skipNumber
    return none
  else if b == 34 then
    advance
    skipString
    return none
  else if b == 91 then
    advance
    return some .list
  else if b == 123 then
    advance
    return some .object
  else failNext .expectedValue

/-- Goes past the ends of what encloses the value that was skipped last, innermost first, up to the
place of the next value. The answer is what encloses that value, and nothing if all has ended.
`afterValue` says whether a value came before, so that a comma may follow. -/
def skipEnds : (afterValue : Bool) → List Enclosing → Scan (List Enclosing)
  | _, [] => return []
  | afterValue, e :: es => do
    match ← peekPastBlanks with
    | none => failNext (match e with
      | .list => .endInList
      | .object => .endInObject)
    | some b =>
      if b == 44 && afterValue then
        advance
        return e :: es
      else if b == e.close then
        advance
        skipEnds true es
      else if afterValue then
        failNext (match e with
          | .list => .expectedListEnd
          | .object => .expectedObjectEnd)
      else return e :: es

/-- Skips the key of an entry and its colon. -/
def skipKey : Scan Unit := do
  match ← peekPastBlanks with
  | some b => if b == 34 then advance else failNext .keyNotString
  | none => failNext .endInObject
  skipString
  match ← peekPastBlanks with
  | some b => if b == 58 then advance else failNext .expectedColon
  | none => failNext .endInObject

/-- Skips values until everything that encloses them has ended. `fuel` bounds their number. -/
def skipFrom : (fuel : Nat) → List Enclosing → Scan Unit
  | 0, _ => return ()
  | fuel + 1, es => do
    match ← peekPastBlanks with
    | none => failNext .endInValue
    | some b =>
      let entered ← skipLeaf b
      match ← skipEnds entered.isNone (entered.toList ++ es) with
      | [] => return ()
      | e :: es =>
        if e == .object then skipKey
        skipFrom fuel (e :: es)

/-- Skips a value. -/
def skipValue : Scan Unit := do skipFrom ((← get).rest.length + 1) []

end GuestBridge.Json.Scan
