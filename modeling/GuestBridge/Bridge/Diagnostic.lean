import GuestBridge.Text.Quoted

/-!
# Diagnostics

What is kept of an exception of the guest as plain text: the name of its type, its message and its
traceback. A diagnostic can be shown without going back to the guest.

## Main statements

* `Diagnostic.render_eq` — a full report is the traceback, if there is one, and then the summary.
-/

namespace GuestBridge.Bridge

/-- An exception of the guest as text. -/
structure Diagnostic where
  /-- The qualified name of the exception's type. -/
  typeName : String
  /-- The text of the exception, possibly empty. -/
  message : String
  /-- The traceback as the guest prints it, if the exception passed through a frame. -/
  traceback : Option String
  deriving DecidableEq, Repr, Inhabited

namespace Diagnostic

/-- The type and, unless it is empty, the message. -/
def summary (d : Diagnostic) : String :=
  if d.message.isEmpty then d.typeName else d.typeName ++ ": " ++ d.message

/-- The traceback followed by the summary, in the guest's own layout. -/
def render (d : Diagnostic) : String :=
  match d.traceback with
  | some t => t ++ d.summary
  | none => d.summary

/-- A report is the traceback, or nothing, and then the summary. -/
theorem render_eq (d : Diagnostic) : d.render = d.traceback.getD "" ++ d.summary := by
  cases h : d.traceback <;> simp [render, h]

end Diagnostic

/-! ### Debugging texts -/

/-- An optional value in a debugging text. -/
def debugOption {α : Type} (f : α → String) : Option α → String
  | some a => "Some(" ++ f a ++ ")"
  | none => "None"

/-- A record in a debugging text: its name and its fields. -/
def debugRecord (name : String) (fields : List (String × String)) : String :=
  name ++ " \x7b " ++ ", ".intercalate (fields.map fun (id, v) => id ++ ": " ++ v) ++ " \x7d"

/-- A record of which not all fields are shown. -/
def debugOpenRecord (name : String) (fields : List (String × String)) : String :=
  name ++ " \x7b " ++ String.join (fields.map fun (id, v) => id ++ ": " ++ v ++ ", ") ++ ".. \x7d"

/-- A diagnostic with all its fields. -/
def Diagnostic.debug (d : Diagnostic) : String :=
  debugRecord "Diagnostic" [("type_name", Text.escaped d.typeName),
    ("message", Text.escaped d.message), ("traceback", debugOption Text.escaped d.traceback)]

end GuestBridge.Bridge
