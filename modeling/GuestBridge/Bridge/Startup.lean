import GuestBridge.Bridge.Config
import GuestBridge.Bridge.Evaluate

/-!
# Starting and ending a session's stay in the guest

A session starts by making its dictionary of globals, putting its directories in front of the
module search path and, if it captures output, putting its sink in place of the guest's output
stream. It ends by putting the stream back and emptying its dictionary; each of these happens even
if the other fails.
-/

namespace GuestBridge.Bridge

open Guest (Ref Raised Kind)

variable {σ : Type} [GuestState σ]

/-- The text of the function that passes repeated keywords on: it unpacks both dictionaries, so that
whoever is called sees the repeats. -/
def keywordCallSource : String := "lambda f, a, k, extra: f(*a, **k, **extra)"

/-- Inserts directories into a list, the first one at the given position. -/
def insertPaths (path : Ref) : (position : Nat) → List String → Crossing σ Unit
  | _, [] => return ()
  | position, dir :: dirs => do
    let d ← request (.newStr dir)
    request (.insert path position d)
    insertPaths path (position + 1) dirs

/-- Puts directories in front of the module search path. -/
def extendSearch (sys : Ref) (dirs : List String) : Crossing σ Unit := do
  if dirs.isEmpty then return ()
  else
    let path ← request (.getAttr sys "path")
    request (.expect path .list)
    insertPaths path 0 dirs

/-- Puts the sink of a session in place of the output stream, and gives that stream. -/
def installSink (s : SessionId) (sys : Ref) : Crossing σ Ref := do
  let previous ← request (.getAttr sys "stdout")
  let sink ← request (.newSink s)
  request (.setAttr sys "stdout" sink)
  return previous

/-- Puts a sink in place of the output stream if output is to be captured. -/
def replaceOutput (s : SessionId) (sys : Ref) (capture : Bool) : Crossing σ (Option Ref) :=
  if capture then some <$> installSink s sys else pure none

/-- Prepares the guest for a session. -/
def startRuntime (s : SessionId) (config : SessionConfig) : Crossing σ Runtime := do
  let builtins ← importNow "builtins"
  let name ← request (.newStr "__main__")
  let globals ← request (.newDict [("__builtins__", builtins), ("__name__", name)])
  let sys ← importNow "sys"
  extendSearch sys config.searchPaths
  let keywordCall ← request (.evaluate keywordCallSource)
  let previousOutput ← replaceOutput s sys config.captureOutput
  return ⟨config.scriptName, builtins, globals, [], keywordCall, previousOutput⟩

/-- An exception in one line, for the host. -/
def raisedText (e : Raised) : StateM (World σ) String := do
  let name ← askOr (.typeName e.value) id "BaseException"
  let message ← askOr (.str e.value) Text.lossy "<exception str() failed>"
  return name ++ ": " ++ message

/-- Starts a session's stay in the guest; the answer is the reason if that fails. -/
def enterGuest (s : SessionId) (config : SessionConfig) : StateM (World σ) (Option String) := do
  match ← (startRuntime s config).run with
  | .ok rt =>
    modify fun w => (rt.refs.foldl World.hold w).modifySession s fun st =>
      { st with runtime := some rt }
    return none
  | .error (.failed e) => return some (← raisedText e)
  | .error (.panicked message) => return some message

/-- Puts the output stream back that a session replaced. -/
def restoreOutput (rt : Runtime) : Crossing σ Unit := do
  match rt.previousOutput with
  | none => return ()
  | some previous =>
    let sys ← importNow "sys"
    request (.setAttr sys "stdout" previous)

/-- Notes that the output stream could not be put back. -/
def noteRestored : Except (Stop Raised) Unit → StateM (World σ) Unit
  | .error (.failed e) => do
    note .warn "could not restore interpreter state" [("error", ← raisedText e)]
  | _ => return ()

/-- Ends a session's stay in the guest: the output stream is put back and the globals are emptied.
An exception while putting the stream back is noted and stops nothing. -/
def leaveGuest (s : SessionId) : StateM (World σ) Unit := fun w =>
  match (w.session s).runtime with
  | none => ((), w)
  | some rt =>
    let (restored, w) := (restoreOutput rt).run w
    let (_, w) := ask? (.clear rt.globals) w
    noteRestored restored ((w.dropAll rt.refs).modifySession s fun st => { st with runtime := none })

end GuestBridge.Bridge
