import GuestBridge.Guest.Arguments
import GuestBridge.Text.Encoding

/-!
# Encoding and decoding

Texts become bytes and bytes texts in an encoding that a script names. What cannot be encoded or
decoded is treated as a policy says that the script names, too; the policy is looked for only when
it is needed.
-/

namespace GuestBridge.Guest

open Text

/-- Raises the error for an encoding that is not known. -/
def unknownEncoding {α : Type} (name : String) : Exec α :=
  raiseError .lookupError ("unknown encoding: " ++ name)

/-- Raises the error for a policy that is not known. -/
def unknownPolicy {α : Type} (name : String) : Exec α :=
  raiseError .lookupError ("unknown error handler name '" ++ name ++ "'")

/-- Raises the error for a place that cannot be encoded or decoded. -/
def raiseCoding {α : Type} (k : ErrorKind) (encoding : String) (object : Ref) (f : CodingFault) :
    Exec α := do
  raiseRef (← newError k [← newStr encoding, object, ← newInt f.start, ← newInt f.stop,
    ← newStr f.reason])

/-- The bytes of a text in an encoding. -/
def encodeWith (encoding policy : String) (t : Text) : Exec (List UInt8) := do
  match Encoding.ofName? encoding with
  | none => unknownEncoding encoding
  | some e =>
    match encode e (fun _ => none) t with
    | .ok bs => return bs
    | .error _ =>
      match encodePolicy? e policy with
      | none => unknownPolicy policy
      | some p =>
        match encode e p t with
        | .ok bs => return bs
        | .error f => do raiseCoding .unicodeEncodeError e.name (← newText t) f

/-- The text of bytes in an encoding. -/
def decodeWith (encoding policy : String) (bs : List UInt8) : Exec Text := do
  match Encoding.ofName? encoding with
  | none => unknownEncoding encoding
  | some e =>
    match decode e (fun _ => none) bs with
    | .ok t => return t
    | .error _ =>
      match decodePolicy? policy with
      | none => unknownPolicy policy
      | some p =>
        match decode e p bs with
        | .ok t => return t
        | .error f => do raiseCoding .unicodeDecodeError e.name (← newBytes bs) f

section
variable [Ops]

/-- The names of an encoding and a policy among the arguments of a function. -/
def codingArgs (shown : String) (encoding policy : Option Ref) : Exec (String × String) := do
  let name (r : Option Ref) (what usual : String) : Exec String := do
    match r with
    | none => return usual
    | some r => return (← textArg (shown ++ "()") ("argument '" ++ what ++ "'") r).lossy
  let e ← name encoding "encoding" "utf-8"
  return (e, ← name policy "errors" "strict")

end

end GuestBridge.Guest
