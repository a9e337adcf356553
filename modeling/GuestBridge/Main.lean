import GuestBridge.Bridge.Console
import GuestBridge.Bridge.Interpreter
import GuestBridge.CommandLine.Run

/-!
# The program

Runs the command on files of the system. Text that a script prints past the capture of its session
comes out after the run.
-/

open GuestBridge

/-- A failure of the system to read a file. -/
def faultOf : IO.Error → Files.Fault
  | .noFileOrDirectory _ _ _ => .notFound
  | e => .other (toString e)

/-- Reads a file of the system. -/
def readFile (path : String) : IO (Except Files.Fault String) := do
  match ← (IO.FS.readBinFile path).toBaseIO with
  | .ok bytes => return Files.decode bytes.toList
  | .error e => return .error (faultOf e)

/-- Reads the files that a command line names. -/
def readNamed (args : List String) : IO (List (String × Except Files.Fault String)) := do
  match CommandLine.Arguments.read args with
  | .error _ => return []
  | .ok a => (a.script :: a.config.toList).mapM fun path => do return (path, ← readFile path)

/-- Runs the command with the arguments of the program. -/
def main (args : List String) : IO UInt32 := do
  let files ← readNamed args
  let read := fun path => (files.lookup path).getD (.error .notFound)
  let (console, world) := (Bridge.World.new (Guest.initialMachine [] [])).outputStream
  let (printed, sys) := CommandLine.run world args read
  IO.print (sys.world.collectedText console).1
  IO.print printed.output
  IO.eprint printed.errors
  return if printed.succeeded then 0 else 1
