import GuestBridge.Bridge.ConfigText
import GuestBridge.CommandLine.Arguments
import GuestBridge.Session.System

/-!
# Running a script from the command line

The command runs one script in a session of its own. It prints what the script wrote, then the
result that was asked for; reports on failures go to the error stream and make the command fail.
-/

namespace GuestBridge.CommandLine

open Bridge Session

/-- What a run of the command prints, and whether it succeeds. -/
structure Printed where
  succeeded : Bool
  output : String
  errors : String
  deriving DecidableEq, Repr, Inhabited

/-- A failure before anything has been printed. -/
def Printed.failure (message : String) : Printed := ⟨false, "", "error: " ++ message ++ "\n"⟩

/-- A script to be run and the name whose value is its result. -/
structure Script where
  source : String
  result : Option String
  deriving Inhabited

/-- How a script ends: with the text that shows its result, if it has one, or with an error. -/
abbrev ScriptEnd := Except Error (Option String)

instance : HasHandles ScriptEnd where
  handles
    | .ok _ => []
    | .error e => e.handles

variable {σ : Type} [GuestState σ]

/-- Runs a script and shows its result. -/
def Script.run (cx : Context) (s : Script) : Boundary σ (Option String) := do
  match ← execute cx s.source s.result with
  | none => return none
  | some h =>
    let r ← always (h.repr cx).run
    always (releaseIn cx h)
    match r with
    | .ok text => return some text
    | .error e => throw e

/-- What the owner does for the job. What nobody holds any more when the script has ended dies before
the job does. -/
def Script.carryOut (sys : System σ Script ScriptEnd) (s : SessionId) (script : Script) :
    Ending ScriptEnd × System σ Script ScriptEnd :=
  let (r, world) := (script.run ⟨s⟩).run sys.world
  let sys := { sys with world := (world.ask .settle).2 }
  match r with
  | .ok text => (.returned (.ok text), sys)
  | .error (.failed e) => (.returned (.error e), sys)
  | .error (.panicked message) => (.panicked message, sys)

/-- Runs a script as the one job of a session. -/
def runJob (sys : System σ Script ScriptEnd) (s : SessionId) (script : Script) :
    Except SessionError ScriptEnd × System σ Script ScriptEnd :=
  match sys.submit .host s script with
  | .error e => (.error e, sys)
  | .ok (ticket, sys) =>
    match sys.take s with
    | none => (.error .ownerPanicked, sys)
    | some (job, sys) =>
      let (ending, sys) := job.carryOut sys s
      match (sys.complete s ending).bind fun sys => sys.wait s ticket with
      | some answer => answer
      | none => (.error .ownerPanicked, sys)

/-- Stops the session at the end. -/
def endSession (sys : System σ Script ScriptEnd) (s : SessionId) : System σ Script ScriptEnd :=
  match sys.close .host s with
  | .ok (_, sys) => ((sys.exit s).getD sys).noteStopped s
  | .error _ => sys

/-- What is printed for the end of a script, after the text that it wrote. -/
def report (result : Option String) (written : String) : ScriptEnd → Printed
  | .ok (some shown) => ⟨true, written ++ shown ++ "\n", ""⟩
  | .ok none =>
    match result with
    | some name => ⟨false, written, "error: script did not set '" ++ name ++ "'\n"⟩
    | none => ⟨true, written, ""⟩
  | .error e => ⟨false, written, e.render ++ "\n"⟩

/-- The configuration of the session: as loaded, with the script's path for its name unless another
one was chosen. -/
def sessionConfig (args : Arguments) (loaded : SessionConfig) : SessionConfig :=
  if loaded.scriptName = defaultScriptName then { loaded with scriptName := args.script }
  else loaded

/-- Runs a script in a session. -/
def runSession (sys : System σ Script ScriptEnd) (args : Arguments) (config : SessionConfig)
    (source : String) : Printed × System σ Script ScriptEnd :=
  match sys.start config with
  | (.error e, sys) => (.failure e.text, sys)
  | (.ok s, sys) =>
    match runJob sys s ⟨source, args.result⟩ with
    | (.error e, sys) => (.failure e.text, endSession sys s)
    | (.ok r, sys) =>
      let printed := report args.result (sys.output s) r
      let sys := (sys.clearOutput s).modifyWorld (World.releaseAll · .host (HasHandles.handles r))
      (printed, endSession sys s)

/-- Runs the command in a world without sessions. `read` gives the texts of files. -/
def run (world : World σ) (args : List String) (read : String → Except Files.Fault String) :
    Printed × System σ Script ScriptEnd :=
  let idle : System σ Script ScriptEnd := ⟨world, false, []⟩
  match Arguments.read args with
  | .error e => (.failure e.text, idle)
  | .ok args =>
    match read args.script with
    | .error fault => (.failure ("cannot read " ++ args.script ++ ": " ++ fault.text), idle)
    | .ok source =>
      let loaded := match args.config with
        | some path => SessionConfig.ofFile path (read path)
        | none => .ok .standard
      match loaded with
      | .error e => (.failure (e.text ++ ": " ++ e.cause), idle)
      | .ok config => runSession idle args (sessionConfig args config) source

end GuestBridge.CommandLine
