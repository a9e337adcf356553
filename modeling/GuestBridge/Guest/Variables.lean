import GuestBridge.Guest.Heap

/-!
# Variables of functions

A running function keeps its variables in its frame, and those that it shares with functions inside
it or around it in cells. A function that is made takes the cells of the variables that it uses
along, so that a variable lives as long as anything that uses it.
-/

namespace GuestBridge.Guest

/-- What a frame has. -/
def Frame.data (f : Frame) : Exec FrameData := do
  match ← dataOf f.store with
  | .frame d => return d
  | _ => return default

/-- The value in a cell, if it has one. -/
def cellValue (cell : Ref) : Exec (Option Ref) := do
  match ← dataOf cell with
  | .cell v => return v
  | _ => return none

/-- A new cell. -/
def newCell (value : Option Ref) : Exec Ref := alloc (.of .cell (.cell value))

/-- The value of a variable, if it has one. -/
def readVariable (f : Frame) (id : String) : Exec (Option Ref) := do
  match f.cells.lookup id with
  | some c => cellValue c
  | none => return (← f.data).locals.lookup id

/-- Variables after one has been given a value, or its value has been taken away. -/
def changedVariables (id : String) (value : Option Ref) (names : List (String × Ref)) :
    List (String × Ref) :=
  match value with
  | none => names.filter (·.1 != id)
  | some v =>
    if (names.lookup id).isSome then names.map fun (n, w) => if n == id then (n, v) else (n, w)
    else (id, v) :: names

/-- Gives a variable a value, or takes its value away. -/
def writeVariable (f : Frame) (id : String) (value : Option Ref) : Exec Unit := do
  match f.cells.lookup id with
  | some c => setData c (.cell value)
  | none =>
    let d ← f.data
    setData f.store (.frame { d with locals := changedVariables id value d.locals })

/-- The values of the variables that a function sees: its own, as they stand in its code, those that
it shares, and those of the functions around it. -/
def FrameData.seen (d : FrameData) : Exec (List (String × Ref)) := do
  let c := (← get).code.getD d.unit default
  let own := c.locals.filter fun id => (d.cells.lookup id).isNone || c.parameters.contains id
  let ids := (own ++ c.shared ++ c.outer).eraseDups
  let values ← ids.mapM fun id => do
    match d.cells.lookup id with
    | some cell => return (id, ← cellValue cell)
    | none => return (id, d.locals.lookup id)
  return values.filterMap fun (id, v) => v.map fun v => (id, v)

end GuestBridge.Guest
