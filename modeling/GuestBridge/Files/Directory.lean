/-!
# Files in a directory

A directory as far as programs read from it: files with their bytes and directories, by their paths.
Reading says why it fails in the system's own words.
-/

namespace GuestBridge.Files

/-- Why a file could not be read. -/
inductive Fault
  | notFound
  | notDirectory
  | isDirectory
  | nameTooLong
  /-- The bytes of the file are no text. -/
  | notText
  /-- The path itself holds a zero byte. -/
  | badPath
  /-- Any other reason, in the system's words. -/
  | other (message : String)
  deriving DecidableEq, Repr, Inhabited

/-- A reason in the system's words. -/
def Fault.text : Fault → String
  | notFound => "No such file or directory (os error 2)"
  | notDirectory => "Not a directory (os error 20)"
  | isDirectory => "Is a directory (os error 21)"
  | nameTooLong => "File name too long (os error 36)"
  | notText => "stream did not contain valid UTF-8"
  | badPath => "file name contained an unexpected NUL byte"
  | other message => message

/-- What is found under a path. -/
inductive Entry
  | file (bytes : List UInt8)
  | directory
  deriving DecidableEq, Repr, Inhabited

/-- A directory: what it holds, by paths relative to it. -/
structure Directory where
  entries : List (String × Entry)
  deriving Repr, Inhabited

/-- The text that bytes encode. -/
def decode (bytes : List UInt8) : Except Fault String :=
  match String.fromUTF8? ⟨bytes.toArray⟩ with
  | some s => .ok s
  | none => .error .notText

namespace Directory

/-- What is found under the parts of a path. A path that others go through is a directory. -/
def find? (d : Directory) (parts : List String) : Option Entry :=
  let path := "/".intercalate parts
  if parts.isEmpty then some .directory
  else
    match d.entries.lookup path with
    | some e => some e
    | none =>
      if d.entries.any fun (name, _) => name.startsWith (path ++ "/") then some .directory else none

/-- Where a walk through directories stands: at a path from the directory, or outside of it. -/
inductive Place
  | inside (path : List String)
  | outside
  deriving DecidableEq, Repr, Inhabited

/-- The place one directory up. Nothing leads back in from outside. -/
def Place.parent : Place → Place
  | inside [] | outside => outside
  | inside path => inside path.dropLast

/-- The place of a name in the directory at a place; outside, no name is known. -/
def Place.child (name : String) : Place → Option Place
  | inside path => some (inside (path ++ [name]))
  | outside => none

/-- What is found at a place. -/
def at? (d : Directory) : Place → Option Entry
  | .inside path => d.find? path
  | .outside => some .directory

/-- The most bytes that a single name has. -/
def longestName : Nat := 255

/-- The most bytes that a path has, its end included. -/
def longestPath : Nat := 4096

/-- Follows the parts of a path from a place. A name is looked up only in a directory, and one that
is too long is refused there. -/
def follow (d : Directory) (here : Place) : List String → Except Fault Entry
  | [] =>
    match d.at? here with
    | some e => .ok e
    | none => .error .notFound
  | part :: parts =>
    match d.at? here with
    | none => .error .notFound
    | some (.file _) => .error .notDirectory
    | some .directory =>
      if part == "" || part == "." then d.follow here parts
      else if part == ".." then d.follow here.parent parts
      else if part.utf8ByteSize > longestName then .error .nameTooLong
      else
        match here.child part with
        | some place => d.follow place parts
        | none => .error .notFound

/-- The bytes of the file under a path. -/
def read (d : Directory) (path : String) : Except Fault (List UInt8) :=
  if path == "" then .error .notFound
  else if path.contains (Char.ofNat 0) then .error .badPath
  else if path.utf8ByteSize ≥ longestPath then .error .nameTooLong
  else
    match d.follow (if path.startsWith "/" then .outside else .inside []) (path.splitOn "/") with
    | .ok (.file bytes) => .ok bytes
    | .ok .directory => .error .isDirectory
    | .error e => .error e

/-- The text of the file under a path. -/
def readText (d : Directory) (path : String) : Except Fault String :=
  d.read path >>= decode

end Directory

end GuestBridge.Files
