import GuestBridge.Bridge.Diagnostic
import GuestBridge.Guest.Object

/-!
# Handles and errors

A handle is the host's reference to an object of the guest. It belongs to the session that made it
and counts as one reference for as long as it exists. An error is what a failed operation of the
bridge gives: one of five kinds, each with the handles and the diagnostic that belong to it.
-/

namespace GuestBridge.Bridge

open Guest (Ref)

/-- The number of a session, in the order of their starts. -/
abbrev SessionId := Nat

/-- The host's reference to an object of the guest. -/
structure Handle where
  object : Ref
  /-- The session that made the handle. -/
  session : SessionId
  /-- The name of the object's type, once it has been asked for. -/
  typeTag : Option String
  deriving DecidableEq, Repr, Inhabited

/-- What can hold handles. -/
class HasHandles (α : Type) where
  handles : α → List Handle

/-- Whether two handles refer to the same object. -/
def Handle.same (a b : Handle) : Bool := a.object == b.object

/-- A handle in debugging texts. -/
def Handle.debug (h : Handle) : String :=
  debugOpenRecord "Handle" <|
    ("id", "ObjectId(" ++ toString (140000000000000 + h.object.id * 16) ++ ")") ::
      match h.typeTag with
      | some t => [("type", Text.escaped t)]
      | none => []

/-- Why an operation of the bridge failed. -/
inductive Error
  /-- Code of the guest raised an exception. -/
  | foreignException (exception : Handle) (traceback : Option Handle) (diagnostic : Diagnostic)
  /-- The object cannot be called, or cannot be iterated over. -/
  | invalidCall (callee : Handle) (reason : String)
  /-- A module could not be found or loaded. -/
  | invalidModule (name : String) (diagnostic : Diagnostic)
  /-- A container has no entry for a key or index. -/
  | indexError (container : Handle) (key : String) (diagnostic : Diagnostic)
  /-- A script could not be compiled. -/
  | runError (failure : Handle) (diagnostic : Diagnostic)
  deriving DecidableEq, Repr, Inhabited

namespace Error

/-- The stable name of the kind of an error. -/
def kindName : Error → String
  | foreignException _ _ _ => "foreign_exception"
  | invalidCall _ _ => "invalid_call"
  | invalidModule _ _ => "invalid_module"
  | indexError _ _ _ => "index_error"
  | runError _ _ => "run_error"

/-- The diagnostic of the exception behind an error; a rejected call has none. -/
def diagnostic? : Error → Option Diagnostic
  | foreignException _ _ d | invalidModule _ d | indexError _ _ d | runError _ d => some d
  | invalidCall _ _ => none

/-- The handle on the traceback of an exception. -/
def traceback? : Error → Option Handle
  | foreignException _ t _ => t
  | _ => none

/-- The handle on the object that an error is about. -/
def payload? : Error → Option Handle
  | foreignException e _ _ => some e
  | invalidCall c _ => some c
  | invalidModule _ _ => none
  | indexError c _ _ => some c
  | runError f _ => some f

/-- The handles that an error holds. -/
def handles (e : Error) : List Handle := e.payload?.toList ++ e.traceback?.toList

instance : HasHandles Error := ⟨handles⟩

/-- An error in one line. -/
def text : Error → String
  | foreignException _ _ d => d.summary
  | invalidCall _ reason => "invalid call: " ++ reason
  | invalidModule name d => "cannot resolve module '" ++ name ++ "': " ++ d.summary
  | indexError _ key d => "no entry " ++ key ++ " in container: " ++ d.summary
  | runError _ d => "run failed: " ++ d.summary

/-- The full report of an error: with the traceback, where the error is an exception. -/
def render : Error → String
  | foreignException _ _ d | runError _ d => d.render
  | e => e.text

/-- An error in debugging texts. -/
def debug : Error → String
  | foreignException e t d =>
    debugRecord "ForeignException"
      [("exception", e.debug), ("traceback", debugOption Handle.debug t),
      ("diagnostic", d.debug)]
  | invalidCall c reason =>
    debugRecord "InvalidCall" [("callee", c.debug), ("reason", Text.escaped reason)]
  | invalidModule name d =>
    debugRecord "InvalidModule" [("name", Text.escaped name), ("diagnostic", d.debug)]
  | indexError c key d =>
    debugRecord "IndexError" [("container", c.debug), ("key", Text.escaped key),
      ("diagnostic", d.debug)]
  | runError f d => debugRecord "RunError" [("failure", f.debug), ("diagnostic", d.debug)]

end Error

/-- Failures of a session itself, as opposed to operations in it. -/
inductive SessionError
  /-- Another session is running. -/
  | alreadyRunning
  /-- The session has been stopped and takes no more jobs. -/
  | finalized
  /-- The guest could not be prepared. -/
  | startup (message : String)
  /-- The job did not finish in time; it goes on, and its result is dropped. -/
  | timedOut
  /-- The job panicked; the session goes on. -/
  | jobPanicked
  /-- Asked from inside a job of the same session, where waiting would never end. -/
  | reentrant
  /-- The owner of the session is gone. -/
  | ownerPanicked
  deriving DecidableEq, Repr, Inhabited

namespace SessionError

/-- A failure of a session in one line. -/
def text : SessionError → String
  | alreadyRunning => "an interpreter session is already running"
  | finalized => "session has been stopped"
  | startup message => "interpreter startup failed: " ++ message
  | timedOut => "timed out waiting for job"
  | jobPanicked => "job panicked on the owner thread"
  | reentrant => "cannot wait on the session from its own owner thread"
  | ownerPanicked => "session owner thread panicked"

/-- A failure of a session in debugging texts. -/
def debug : SessionError → String
  | alreadyRunning => "AlreadyRunning"
  | finalized => "Finalized"
  | startup message => "Startup(" ++ Text.escaped message ++ ")"
  | timedOut => "TimedOut"
  | jobPanicked => "JobPanicked"
  | reentrant => "Reentrant"
  | ownerPanicked => "OwnerPanicked"

end SessionError

end GuestBridge.Bridge
