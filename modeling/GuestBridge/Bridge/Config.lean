import GuestBridge.Bridge.Diagnostic

/-!
# Configuration of sessions

What can be chosen for a session: the name under which its scripts are compiled, whether its output
is captured, where it looks for modules first, and the name of its owner.
-/

namespace GuestBridge.Bridge

/-- The file name of scripts if none is chosen. -/
def defaultScriptName : String := "<tether>"

/-- The name of the owner thread if none is chosen. -/
def defaultThreadName : String := "tether-owner"

/-- What can be chosen for a session. -/
structure SessionConfig where
  /-- The file name under which scripts are compiled. -/
  scriptName : String := defaultScriptName
  /-- Whether what scripts print is kept for the host. -/
  captureOutput : Bool := true
  /-- Directories in which modules are looked for first, in order. -/
  searchPaths : List String := []
  /-- The name of the owner thread. -/
  threadName : String := defaultThreadName
  deriving DecidableEq, Repr, Inhabited

namespace SessionConfig

/-- The configuration in which nothing is chosen. -/
def standard : SessionConfig := {}

/-- Adds a directory after those added before. -/
def addSearchPath (c : SessionConfig) (dir : String) : SessionConfig :=
  { c with searchPaths := c.searchPaths ++ [dir] }

/-- A configuration in debugging texts. -/
def debug (c : SessionConfig) : String :=
  debugRecord "SessionConfig" [("script_name", Text.escaped c.scriptName),
    ("capture_output", toString c.captureOutput),
    ("search_paths", "[" ++ ", ".intercalate (c.searchPaths.map Text.escaped) ++ "]"),
    ("thread_name", Text.escaped c.threadName)]

end SessionConfig

end GuestBridge.Bridge
