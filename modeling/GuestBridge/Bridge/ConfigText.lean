import GuestBridge.Bridge.Config
import GuestBridge.Files.Directory
import GuestBridge.Json.Skip

/-!
# Configurations as JSON texts

A configuration is written as an object whose fields may come in any order, or as a list of the
values of its fields in their own order. Fields that are missing keep their standard values, fields
of other names are skipped, and a field that comes twice is refused.
-/

namespace GuestBridge.Bridge

open Json

namespace SessionConfig

/-! ### Values of fields -/

/-- Looks at the byte with which a value starts. -/
def startOfValue : Scan UInt8 := do
  match ← Scan.peekPastBlanks with
  | some b => return b
  | none => Scan.failNext .endInValue

/-- Takes a string. -/
def stringValue (expected : String) : Scan String := do
  let b ← startOfValue
  if b == 34 then
    Scan.advance
    Scan.string
  else Scan.refuse b expected

/-- Takes a truth value. -/
def boolValue : Scan Bool := do
  let b ← startOfValue
  if b == 116 then
    Scan.advance
    Scan.word "rue".toUTF8.toList
    return true
  else if b == 102 then
    Scan.advance
    Scan.word "alse".toUTF8.toList
    return false
  else Scan.refuse b "a boolean"

/-- Goes to the next element of a list; the answer is whether there is one. -/
def toElement (first : Bool) : Scan Bool := do
  match ← Scan.peekPastBlanks with
  | none => Scan.failNext .endInList
  | some b =>
    if b == 93 then return false
    else if first then return true
    else if b == 44 then
      Scan.advance
      match ← Scan.peekPastBlanks with
      | some c => if c == 93 then Scan.failNext .trailingComma else return true
      | none => Scan.failNext .endInValue
    else Scan.failNext .expectedListEnd

/-- Takes the end of a list after its last element. -/
def endList : Scan Unit := do
  match ← Scan.peekPastBlanks with
  | none => Scan.failNext .endInList
  | some b =>
    if b == 93 then Scan.advance
    else if b == 44 then
      Scan.advance
      match ← Scan.peekPastBlanks with
      | some c => Scan.failNext (if c == 93 then .trailingComma else .trailingCharacters)
      | none => Scan.failNext .trailingCharacters
    else Scan.failNext .trailingCharacters

/-- Takes the end of an object after its last entry. -/
def endObject : Scan Unit := do
  match ← Scan.peekPastBlanks with
  | none => Scan.failNext .endInObject
  | some b =>
    if b == 125 then Scan.advance
    else Scan.failNext (if b == 44 then .trailingComma else .trailingCharacters)

/-- Takes the paths of a list from its next element on. `fuel` bounds their number. -/
def pathsFrom : (fuel : Nat) → (first : Bool) → Scan (List String)
  | 0, _ => return []
  | fuel + 1, first => do
    if ← toElement first then
      let dir ← stringValue "path string"
      return dir :: (← pathsFrom fuel false)
    else return []

/-- Takes a list of paths. -/
def pathsValue : Scan (List String) := do
  let b ← startOfValue
  if b == 91 then
    Scan.advance
    let paths ← pathsFrom ((← get).rest.length + 1) true
    endList
    return paths
  else Scan.refuse b "a sequence"

/-! ### Fields -/

/-- The fields of a configuration. -/
inductive Field
  | scriptName | captureOutput | searchPaths | threadName
  deriving DecidableEq, Repr, Inhabited

/-- All fields in their order. -/
def Field.all : List Field := [.scriptName, .captureOutput, .searchPaths, .threadName]

/-- The name of a field. -/
def Field.name : Field → String
  | scriptName => "script_name"
  | captureOutput => "capture_output"
  | searchPaths => "search_paths"
  | threadName => "thread_name"

/-- Takes the value of a field. -/
def Field.value (c : SessionConfig) : Field → Scan SessionConfig
  | scriptName => do return { c with scriptName := ← stringValue "a string" }
  | captureOutput => do return { c with captureOutput := ← boolValue }
  | searchPaths => do return { c with searchPaths := ← pathsValue }
  | threadName => do return { c with threadName := ← stringValue "a string" }

/-- Takes the values of fields from a list, as many as there are. -/
def listed (first : Bool) (c : SessionConfig) : List Field → Scan SessionConfig
  | [] => return c
  | f :: fs => do
    if ← toElement first then listed false (← f.value c) fs else return c

/-- Goes to the key of the next entry; the answer is whether there is one. -/
def toKey (first : Bool) : Scan Bool := do
  match ← Scan.peekPastBlanks with
  | none => Scan.failNext .endInObject
  | some b =>
    if b == 125 then return false
    else if first then
      if b == 34 then return true else Scan.failNext .keyNotString
    else if b == 44 then
      Scan.advance
      match ← Scan.peekPastBlanks with
      | some c =>
        if c == 34 then return true
        else Scan.failNext (if c == 125 then .trailingComma else .keyNotString)
      | none => Scan.failNext .endInValue
    else Scan.failNext .expectedObjectEnd

/-- Takes the colon of an entry. -/
def colon : Scan Unit := do
  match ← Scan.peekPastBlanks with
  | some b => if b == 58 then Scan.advance else Scan.failNext .expectedColon
  | none => Scan.failNext .endInObject

/-- Takes the entries of an object; the answer names the field that came twice, if one did, and
reading stops there. `fuel` bounds the number of entries. -/
def entries : (fuel : Nat) → (seen : List Field) → (first : Bool) → SessionConfig →
    Scan (Except Field SessionConfig)
  | 0, _, _, c => return .ok c
  | fuel + 1, seen, first, c => do
    if ← toKey first then
      Scan.advance
      let key ← Scan.string
      match Field.all.find? (·.name == key) with
      | some f =>
        if seen.contains f then return .error f
        else
          colon
          entries fuel (f :: seen) false (← f.value c)
      | none =>
        colon
        Scan.skipValue
        entries fuel seen false c
    else return .ok c

/-- Takes an object of fields. What is said of a field that comes twice is placed where the object
would have had to end. -/
def object : Scan SessionConfig := do
  match ← entries ((← get).rest.length + 1) [] true .standard with
  | .ok c =>
    endObject
    return c
  | .error f =>
    tryCatch endObject fun _ => pure ()
    Scan.fail (.duplicateField f.name)

/-- Takes a configuration. -/
def value : Scan SessionConfig := do
  let b ← startOfValue
  if b == 91 then
    Scan.advance
    let c ← listed true .standard Field.all
    endList
    return c
  else if b == 123 then
    Scan.advance
    object
  else Scan.refuse b "struct SessionConfig"

/-- Takes a configuration that is the whole text. -/
def wholeText : Scan SessionConfig := do
  let c ← value
  match ← Scan.peekPastBlanks with
  | none => return c
  | some _ => Scan.failNext .trailingCharacters

/-- The configuration that a text writes. -/
def ofJson? (text : String) : Except Problem SessionConfig :=
  (wholeText.run (Reader.start text)).1

end SessionConfig

/-! ### Configurations in files

Loading a configuration from a text or from a file, and what can go wrong with that: the file cannot
be read, or its text is no configuration.
-/

/-- Why a configuration could not be loaded. -/
inductive ConfigError
  | unreadable (path : String) (fault : Files.Fault)
  | invalid (problem : Json.Problem)
  deriving DecidableEq, Repr, Inhabited

namespace ConfigError

/-- The name of the kind of an error. -/
def kindName : ConfigError → String
  | unreadable _ _ => "Io"
  | invalid _ => "Parse"

/-- What lies behind an error, in one line. -/
def cause : ConfigError → String
  | unreadable _ fault => fault.text
  | invalid problem => problem.text

/-- An error in one line. -/
def text : ConfigError → String
  | unreadable path _ => "cannot read config file " ++ path
  | invalid problem => "invalid config: " ++ problem.text

end ConfigError

namespace SessionConfig

/-- The configuration that a text writes. -/
def ofText (text : String) : Except ConfigError SessionConfig :=
  (ofJson? text).mapError .invalid

/-- The configuration in a file, given what came of reading it. -/
def ofFile (path : String) (contents : Except Files.Fault String) :
    Except ConfigError SessionConfig :=
  match contents with
  | .ok text => ofText text
  | .error fault => .error (.unreadable path fault)

end SessionConfig

end GuestBridge.Bridge
