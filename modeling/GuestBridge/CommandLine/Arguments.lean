/-!
# Arguments of the command line

A command line names one script and may name, before or after it, the result to print and a
configuration file; of repeated options the last one counts. The value of an option is whatever
argument follows it.
-/

namespace GuestBridge.CommandLine

/-- How the command is used. -/
def usage : String := "usage: tether <script.py> [--result NAME] [--config FILE]"

/-- What a command line asks for. -/
structure Arguments where
  script : String
  result : Option String
  config : Option String
  deriving DecidableEq, Repr, Inhabited

/-- What is wrong with a command line. -/
inductive Misuse
  | missingResultName
  | missingConfigFile
  /-- Help is asked for. -/
  | help
  | unknownOption (option : String)
  | unexpectedArgument (argument : String)
  /-- No script is named. -/
  | missingScript
  deriving DecidableEq, Repr, Inhabited

/-- What is told about a command line that is refused. -/
def Misuse.text : Misuse → String
  | missingResultName => "--result needs a variable name"
  | missingConfigFile => "--config needs a file path"
  | help | missingScript => usage
  | unknownOption option => "unknown option " ++ option ++ "\n" ++ usage
  | unexpectedArgument argument => "unexpected argument " ++ argument ++ "\n" ++ usage

/-- What has been read of a command line. -/
structure Partial where
  script : Option String := none
  result : Option String := none
  config : Option String := none
  deriving DecidableEq, Repr, Inhabited

/-- Reads the arguments that follow. -/
def Partial.read (p : Partial) : List String → Except Misuse Arguments
  | [] =>
    match p.script with
    | some script => .ok ⟨script, p.result, p.config⟩
    | none => .error .missingScript
  | "--result" :: rest =>
    match rest with
    | [] => .error .missingResultName
    | v :: rest => Partial.read { p with result := some v } rest
  | "--config" :: rest =>
    match rest with
    | [] => .error .missingConfigFile
    | v :: rest => Partial.read { p with config := some v } rest
  | arg :: rest =>
    if arg = "-h" ∨ arg = "--help" then .error .help
    else if arg.startsWith "--" then .error (.unknownOption arg)
    else
      match p.script with
      | none => Partial.read { p with script := some arg } rest
      | some _ => .error (.unexpectedArgument arg)

/-- Reads a command line. -/
def Arguments.read (args : List String) : Except Misuse Arguments := Partial.read {} args

end GuestBridge.CommandLine
