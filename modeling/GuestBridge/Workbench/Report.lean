import GuestBridge.Bridge.View

/-!
# Describing objects and errors

What a workbench tells about objects and errors once its handles on them are gone: plain data. An
object is described by the name of its type and the text that shows it, an error by its texts and
by a description of what it is about. Descriptions are made inside a job, because showing an object
runs code of the guest.
-/

namespace GuestBridge.Workbench

open Bridge

/-! ### What a workbench keeps

A workbench keeps what its commands make under names: handles, errors, views, mappings, sequences
and counts of references. All sessions share the names.
-/

/-- Things under names; a name stands for one thing at a time. -/
abbrev Named (α : Type) := List (String × α)

namespace Named

variable {α : Type}

/-- The thing under a name. -/
def get? (l : Named α) (name : String) : Option α := l.lookup name

/-- Takes a name away. -/
def erase (l : Named α) (name : String) : Named α := l.filter (·.1 != name)

/-- Puts a thing under a name, in place of the one before. -/
def put (l : Named α) (name : String) (a : α) : Named α := (name, a) :: l.erase name

@[simp] theorem get?_put (l : Named α) (name : String) (a : α) :
    (l.put name a).get? name = some a := by
  simp [put, get?]

end Named

/-- What a workbench keeps. -/
structure Store where
  handles : Named Handle := []
  errors : Named Error := []
  views : Named View := []
  mappings : Named Mapping := []
  sequences : Named Sequence := []
  /-- Counts of references that were taken down, by the name of the handle. -/
  marks : Named Nat := []
  deriving Inhabited

/-- What is told about an object. -/
structure Description where
  typeName : String
  /-- The text that shows the object, or the text of the error if that fails. -/
  shown : Except String String
  deriving Inhabited

/-- What was read from an object. -/
structure Reading where
  type : HostType
  value : Option (type.ValueWith Description)

/-- What an error is about. -/
inductive Subject
  | exception (object : Description) (hasTraceback : Bool)
  | callee (object : Description) (reason : String)
  | module (name : String)
  | container (object : Description) (key : String)
  | failure (typeName : String)

/-- What is told about an error. -/
structure ErrorReport where
  kindName : String
  text : String
  full : String
  diagnostic : Option Diagnostic
  subject : Subject

/-- A step of a job of the workbench: an operation of the bridge that also sees the store. -/
abbrev Work (σ : Type) := ExceptT (Stop Error) (StateM (World σ × Store))

variable {σ : Type}

/-- An operation of the bridge as a step of a job. -/
def bridge {α : Type} (x : Boundary σ α) : Work σ α := fun (w, st) =>
  let (r, w) := x w
  (r, (w, st))

/-- A step that cannot fail. -/
def surely {α : Type} (x : StateM (World σ) α) : Work σ α := bridge (always x)

/-- The store. -/
def store : Work σ Store := do return (← get).2

/-- Changes the store. -/
def modifyStore (f : Store → Store) : Work σ Unit := modify fun (w, st) => (w, f st)

/-- Releases handles inside a job. -/
def discardHandles (cx : Context) (hs : List Handle) : Work σ Unit := surely (releaseAllIn cx hs)

/-- An operation whose error is an ordinary answer; a panic goes on. -/
def attempt {α : Type} (x : Boundary σ α) : Work σ (Except Error α) := do
  match ← surely x.run with
  | .ok a => return .ok a
  | .error (.failed e) => return .error e
  | .error (.panicked message) => throw (.panicked message)

variable [GuestState σ]

/-- Describes the object of a handle. -/
def describe (cx : Context) (h : Handle) : Work σ Description := do
  let (typeName, _) ← bridge (h.typeName cx)
  match ← attempt (h.repr cx) with
  | .ok text => return ⟨typeName, .ok text⟩
  | .error e =>
    discardHandles cx e.handles
    return ⟨typeName, .error e.text⟩

/-- Describes the object of a handle that is not needed any more. -/
def describeLast (cx : Context) (h : Handle) : Work σ Description := do
  let d ← describe cx h
  discardHandles cx [h]
  return d

/-- What an error is about. -/
def subjectOf (cx : Context) : Error → Work σ Subject
  | .foreignException e t _ => do return .exception (← describe cx e) t.isSome
  | .invalidCall c reason => do return .callee (← describe cx c) reason
  | .invalidModule name _ => return .module name
  | .indexError c key _ => do return .container (← describe cx c) key
  | .runError f _ => do return .failure (← bridge (f.typeName cx)).1

/-- Describes an error. -/
def reportError (cx : Context) (e : Error) : Work σ ErrorReport := do
  return ⟨e.kindName, e.text, e.render, e.diagnostic?, ← subjectOf cx e⟩

/-- Reads the object of a handle as a value of a type and describes the handles in it. -/
def readAs (cx : Context) (h : Handle) (t : HostType) : Work σ Reading := do
  match ← bridge (h.extract cx t) with
  | none => return ⟨t, none⟩
  | some v =>
    let described ← t.traverse (describe cx) v
    discardHandles cx (t.handles v)
    return ⟨t, some described⟩

end GuestBridge.Workbench
