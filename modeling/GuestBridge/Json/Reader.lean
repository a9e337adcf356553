import GuestBridge.Number.Shortest
import GuestBridge.Text.Quoted

/-!
# Reading JSON texts

A reader stands at a place of a text, given as bytes. This module reads the smallest parts: blanks,
words, and strings with their escapes. A reader keeps its place when something fails, because what
encloses the failed part still goes on to look for its end.
-/

namespace GuestBridge.Json

/-! ### Faults

What can be wrong with a JSON text, either by itself or as a value of an expected kind, and how that
is said. A problem is a fault with the place at which it was found; places count bytes.
-/

/-- A value that was found where another kind was expected. -/
inductive Found
  | null
  | boolean (b : Bool)
  | integer (n : Int)
  /-- A floating-point number, by its 64-bit pattern. -/
  | float (bits : Nat)
  | string (s : String)
  | sequence
  | map
  deriving DecidableEq, Repr, Inhabited

/-- What can be wrong with a text. -/
inductive Fault
  | endInList
  | endInObject
  | endInString
  | endInValue
  | expectedColon
  | expectedListEnd
  | expectedObjectEnd
  | expectedWord
  | expectedValue
  | invalidEscape
  | invalidNumber
  | numberOutOfRange
  | controlCharacter
  | keyNotString
  | loneSurrogate
  | trailingComma
  | trailingCharacters
  | unfinishedSurrogate
  | invalidType (found : Found) (expected : String)
  | duplicateField (name : String)
  deriving DecidableEq, Repr, Inhabited

/-- How messages write floating-point numbers. -/
def numberForm : Number.FloatForm := ⟨-5, 16, 1⟩

/-- A found value in a message. -/
def Found.text : Found → String
  | null => "null"
  | boolean b => "boolean `" ++ toString b ++ "`"
  | integer n => "integer `" ++ toString n ++ "`"
  | float bits => "floating point `" ++ numberForm.render Number.binary64 bits ++ "`"
  | string s => "string " ++ Text.escaped s
  | sequence => "sequence"
  | map => "map"

/-- The message of a fault. -/
def Fault.text : Fault → String
  | endInList => "EOF while parsing a list"
  | endInObject => "EOF while parsing an object"
  | endInString => "EOF while parsing a string"
  | endInValue => "EOF while parsing a value"
  | expectedColon => "expected `:`"
  | expectedListEnd => "expected `,` or `]`"
  | expectedObjectEnd => "expected `,` or `\x7d`"
  | expectedWord => "expected ident"
  | expectedValue => "expected value"
  | invalidEscape => "invalid escape"
  | invalidNumber => "invalid number"
  | numberOutOfRange => "number out of range"
  | controlCharacter => "control character (\\u0000-\\u001F) found while parsing a string"
  | keyNotString => "key must be a string"
  | loneSurrogate => "lone leading surrogate in hex escape"
  | trailingComma => "trailing comma"
  | trailingCharacters => "trailing characters"
  | unfinishedSurrogate => "unexpected end of hex escape"
  | invalidType found expected => "invalid type: " ++ found.text ++ ", expected " ++ expected
  | duplicateField name => "duplicate field `" ++ name ++ "`"

/-- A fault with its place. -/
structure Problem where
  fault : Fault
  line : Nat
  column : Nat
  deriving DecidableEq, Repr, Inhabited

/-- A problem in one line. -/
def Problem.text (p : Problem) : String :=
  p.fault.text ++ " at line " ++ toString p.line ++ " column " ++ toString p.column

/-- A place in a text: the bytes before it, last one first, and those after it. -/
structure Reader where
  done : List UInt8
  rest : List UInt8
  deriving DecidableEq, Repr, Inhabited

namespace Reader

/-- The reader at the start of a text. -/
def start (text : String) : Reader := ⟨[], text.toUTF8.toList⟩

/-- The line and column after some bytes, given last one first: lines count from one, columns are
the number of bytes since the last line break. -/
def placeAfter (bytes : List UInt8) : Nat × Nat :=
  (bytes.count 10 + 1, (bytes.takeWhile (· != 10)).length)

/-- A problem at the place of the reader. -/
def problem (r : Reader) (f : Fault) : Problem :=
  let (line, column) := placeAfter r.done
  ⟨f, line, column⟩

/-- A problem with the byte that comes next. -/
def problemNext (r : Reader) (f : Fault) : Problem :=
  let (line, column) := placeAfter (r.rest.head?.toList ++ r.done)
  ⟨f, line, column⟩

/-- Goes past a number of bytes. -/
def skip : (count : Nat) → Reader → Reader
  | count + 1, ⟨done, b :: rest⟩ => skip count ⟨b :: done, rest⟩
  | _, r => r

end Reader

/-- Reading a part of a text. -/
abbrev Scan := ExceptT Problem (StateM Reader)

namespace Scan

/-- The byte that comes next, if there is one. -/
def peek : Scan (Option UInt8) := do return (← get).rest.head?

/-- Goes past one byte. -/
def advance : Scan Unit := modify (Reader.skip 1)

/-- Takes the next byte. -/
def next : Scan (Option UInt8) := do
  let b ← peek
  advance
  return b

/-- Fails at the place reached. -/
def fail {α : Type} (f : Fault) : Scan α := do throw ((← get).problem f)

/-- Fails because of the byte that comes next. -/
def failNext {α : Type} (f : Fault) : Scan α := do throw ((← get).problemNext f)

/-- Whether a byte is a blank. -/
def isBlank (b : UInt8) : Bool := b == 32 || b == 10 || b == 9 || b == 13

/-- Whether a byte is a decimal digit. -/
def isDigit (b : UInt8) : Bool := 48 ≤ b && b ≤ 57

/-- Goes past blanks and looks at the next byte. -/
def peekPastBlanks : Scan (Option UInt8) := do
  modify fun r => r.skip (r.rest.takeWhile isBlank).length
  peek

/-- Takes the digits that come next. -/
def digits : Scan (List UInt8) := do
  let ds := (← get).rest.takeWhile isDigit
  modify (Reader.skip ds.length)
  return ds

/-- Goes past the digits that come next. -/
def skipDigits : Scan Unit := modify fun r => r.skip (r.rest.takeWhile isDigit).length

/-- Takes the given bytes, the rest of a word. -/
def word : List UInt8 → Scan Unit
  | [] => return ()
  | b :: bs => do
    match ← next with
    | none => fail .endInValue
    | some c => if c == b then word bs else fail .expectedWord

/-! ### Strings -/

/-- The value of a hexadecimal digit. -/
def hexValue? (b : UInt8) : Option Nat :=
  if isDigit b then some (b.toNat - 48)
  else if 97 ≤ b && b ≤ 102 then some (b.toNat - 87)
  else if 65 ≤ b && b ≤ 70 then some (b.toNat - 55)
  else none

/-- The number that hexadecimal digits write. -/
def hexNumber? (ds : List UInt8) : Option Nat :=
  ds.foldl (fun n d => do return 16 * (← n) + (← hexValue? d)) (some 0)

/-- Takes four hexadecimal digits. -/
def hexEscape : Scan Nat := do
  let ds := (← get).rest.take 4
  modify (Reader.skip 4)
  if ds.length < 4 then fail .endInString
  else
    match hexNumber? ds with
    | some n => return n
    | none => fail .invalidEscape

/-- Looks at the next byte inside a string. -/
def peekInString : Scan UInt8 := do
  match ← peek with
  | some b => return b
  | none => fail .endInString

/-- Takes a byte that has to come next for a pair of surrogates. -/
def surrogatePart (b : UInt8) : Scan Unit := do
  let c ← peekInString
  advance
  if c != b then fail .unfinishedSurrogate

/-- Takes an escape by number, with its second half if it is a leading surrogate. -/
def unicodeEscape : Scan Char := do
  let n ← hexEscape
  if 0xDC00 ≤ n && n ≤ 0xDFFF then fail .loneSurrogate
  else if n < 0xD800 || 0xDBFF < n then return Char.ofNat n
  else
    surrogatePart 92
    surrogatePart 117
    let m ← hexEscape
    if m < 0xDC00 || 0xDFFF < m then fail .loneSurrogate
    else return Char.ofNat (0x10000 + (n - 0xD800) * 0x400 + (m - 0xDC00))

/-- The character of an escape by one letter. -/
def letterEscape? (b : UInt8) : Option Char :=
  [(34, '"'), (92, '\\'), (47, '/'), (98, '\x08'), (102, '\x0c'), (110, '\n'), (114, '\r'),
    (116, '\t')].lookup b.toNat

/-- Takes the rest of an escape. -/
def escape : Scan Char := do
  let b ← peekInString
  advance
  if b == 117 then unicodeEscape
  else
    match letterEscape? b with
    | some c => return c
    | none => fail .invalidEscape

/-- Takes the rest of an escape of which only the form matters. -/
def skipEscape : Scan Unit := do
  let b ← peekInString
  advance
  if b == 117 then do
    let _ ← hexEscape
  else if (letterEscape? b).isNone then fail .invalidEscape

/-- Whether a byte ends a run of plain characters in a string. -/
def endsRun (b : UInt8) : Bool := b == 34 || b == 92 || b < 32

/-- Takes the rest of a string with its closing quote, after the bytes `taken`. `fuel` bounds the
number of escapes. -/
def stringFrom : (fuel : Nat) → (taken : List UInt8) → Scan (List UInt8)
  | 0, taken => return taken
  | fuel + 1, taken => do
    let run := (← get).rest.takeWhile fun b => !endsRun b
    modify (Reader.skip run.length)
    let taken := taken ++ run
    match ← peek with
    | none => fail .endInString
    | some b =>
      advance
      if b == 34 then return taken
      else if b == 92 then
        let c ← escape
        stringFrom fuel (taken ++ (String.ofList [c]).toUTF8.toList)
      else fail .controlCharacter

/-- Takes the rest of a string after its opening quote. -/
def string : Scan String := do
  let bytes ← stringFrom ((← get).rest.length + 1) []
  return (String.fromUTF8? ⟨bytes.toArray⟩).getD ""

/-- Goes past the rest of a string. `fuel` bounds the number of escapes. -/
def skipStringFrom : (fuel : Nat) → Scan Unit
  | 0 => return ()
  | fuel + 1 => do
    modify fun r => r.skip (r.rest.takeWhile fun b => !endsRun b).length
    match ← peek with
    | none => fail .endInString
    | some b =>
      if b == 34 then advance
      else if b == 92 then
        advance
        skipEscape
        skipStringFrom fuel
      else fail .controlCharacter

/-- Goes past the rest of a string. -/
def skipString : Scan Unit := do skipStringFrom ((← get).rest.length + 1)

end Scan

end GuestBridge.Json
