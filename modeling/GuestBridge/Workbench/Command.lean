import GuestBridge.Workbench.Report

/-!
# Commands

What a workbench can be told to do inside a job, each command with the names and values that it
works on, and what it answers. Where a command makes a handle, the job says under which name the
handle is kept; where it fails, the job says the same of the error.
-/

namespace GuestBridge.Workbench

open Bridge

/-- A value in a command: handles are given by their names, maps by entries in order. -/
structure Operand where
  type : HostType
  value : type.ValueWith String

/-- A command to be performed inside a job. -/
inductive Command
  /-- Scripts and modules. -/
  | execute (source : String) (result : Option String)
  | evaluate (expression : String)
  | importModule (name : String)
  | importFrom (module symbol : String)
  /-- Objects of the session. -/
  | globals
  | builtins
  | none
  /-- Values. -/
  | toForeign (value : Operand)
  | extract (on : String) (types : List HostType)
  /-- Runs a script, evaluates an expression and reads its value as each type. -/
  | inspect (setup : Option String) (expression : String) (types : List HostType)
  /-- Sends each value and reads it back as the same type. -/
  | roundTrip (values : List Operand)
  /-- Questions about an object. -/
  | typeName (on : String)
  | repr (on : String)
  | str (on : String)
  | isTruthy (on : String)
  | isNone (on : String)
  | isInstance (on cls : String)
  | same (on other : String)
  | debug (on : String)
  /-- Handles. -/
  | clone (on : String)
  | adopt (on : String)
  | release (on : String)
  | markRetention (on : String)
  | retentionChange (on : String)
  | liveHandles
  /-- Attributes, calls and items. -/
  | member (on name : String)
  | hasMember (on name : String)
  | setMember (on name : String) (value : Operand)
  | call (on : String) (args : List Operand) (keywords : List (String × Operand))
  | callMethod (on name : String) (args : List Operand) (keywords : List (String × Operand))
  | subscript (on : String) (key : Operand)
  | setSubscript (on : String) (key value : Operand)
  | deleteSubscript (on : String) (key : Operand)
  | length (on : String)
  /-- Views. -/
  | iterate (on view : String)
  | advance (view : String)
  | viewState (view : String)
  | cursor (view : String) (limit : Nat)
  | debugView (view : String)
  | dropView (view : String)
  /-- Mappings. -/
  | mapEmpty (map : String)
  | mapNew (on map : String)
  | mapContains (map : String) (key : Operand)
  | mapGet (map : String) (key : Operand)
  | mapSet (map : String) (key value : Operand)
  | mapRemove (map : String) (key : Operand)
  | mapKeys (map : String)
  | mapLength (map : String)
  | mapIsEmpty (map : String)
  | mapHandle (map : String)
  | mapIntoHandle (map : String)
  /-- Sequences. -/
  | seqNew (on seq : String)
  | seqGet (seq : String) (index : Sequence.Index)
  | seqSet (seq : String) (index : Sequence.Index) (value : Operand)
  | seqPush (seq : String) (value : Operand)
  | seqLength (seq : String)
  | seqIsEmpty (seq : String)
  | seqHandle (seq : String)
  | seqIntoHandle (seq : String)
  /-- Errors that were kept. -/
  | errorPayload (error : String)
  | errorTraceback (error : String)
  | errorDebug (error : String)
  | dropError (error : String)
  /-- The owner itself. -/
  | threadName
  | panic (message : String)

/-- A command with the names under which its handle or its error is kept. -/
structure Job where
  command : Command
  keep : Option String
  keepError : Option String

/-- An element that a cursor gave, or its error, or its end. -/
inductive CursorItem
  | element (d : Description)
  | failed (e : ErrorReport)
  | ended

/-- What a command answers. -/
inductive Answer
  | nothing
  | flag (b : Bool)
  | number (n : Int)
  | text (s : String)
  | object (d : Description)
  /-- An object that need not be there. -/
  | objectIfAny (d : Option Description)
  | objects (ds : List Description)
  | readings (rs : List Reading)
  | inspected (value : Description) (rs : List Reading)
  | trips (ts : List (Except ErrorReport (Description × Reading)))
  | items (is : List CursorItem)
  | someText (s : String)
  | refusals (es : List SessionError)
  /-- How many of many jobs succeeded. -/
  | succeeded (n : Nat)
  deriving Inhabited

end GuestBridge.Workbench
