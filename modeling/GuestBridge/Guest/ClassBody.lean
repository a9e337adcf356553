import GuestBridge.Guest.Names
import GuestBridge.Guest.Running

/-!
# Class bodies

A class statement makes a function of its body and hands it on, with the name and the bases, to what
the built-in names give for making classes. The body runs with the names that the metaclass
prepared. Any other function may be handed on, too; it keeps its names to itself.
-/

namespace GuestBridge.Guest

open Script

section
variable [Ops]

/-- The variables of a frame that code inside it uses. -/
def Frame.around (f : Frame) (code : Code) : List (String × Ref) :=
  code.outer.filterMap fun id => (f.cells.lookup id).map fun c => (id, c)

/-- What a function made in a frame has: its unit, the defaults of its parameters, and its
annotations. -/
def functionData (f : Frame) (number : Nat) (defaults : List Ref)
    (keywordDefaults : List (String × Ref)) (annotations : Option Ref) : Exec FunctionData := do
  let code := (← get).code.getD number default
  let doc ← match code.doc with
    | some t => newText t
    | none => pure noneRef
  return {
    unit := number, globals := f.globals
    closure := f.around code
    defaults, keywordDefaults, name := code.name
    qualifiedName := code.qualifiedName, moduleName := ← getName f.globals "__name__"
    doc, annotations }

/-- The name of the module in which a class body stands. -/
def moduleOfBody (globals : Ref) : Exec Ref := do
  match ← getName globals "__name__" with
  | some n => return n
  | none =>
    match ← builtinName? globals "__name__" with
    | some n => return n
    | none => undefinedName "__name__"

/-- Runs the function that is the body of a class and makes the class; `call` runs a function that
was not written as one. -/
def classOfBody (d : FunctionData) (call : Exec Unit) (id : String) (given : List Ref)
    (keywords : List (Text × Ref)) : Exec Ref := do
  let bases ← resolveBases given
  let isMetaclass (k : Text × Ref) : Bool := k.1 == "metaclass"
  let maker ← classMaker ((keywords.find? isMetaclass).map (·.2)) bases
  let keywords := keywords.filter (!isMetaclass ·)
  let body ← preparedNames maker id bases keywords
  let code := (← get).code.getD d.unit default
  let own ← code.shared.mapM fun id => do return (id, ← newCell none)
  if code.kind == .classBody then
    putName body "__module__" (← moduleOfBody d.globals)
    putName body "__qualname__" (← newStr code.qualifiedName)
    discard <| Ops.run
      (← startFrame ⟨d.unit, code.line, d.globals, some body, [], own ++ d.closure, none⟩)
  else call
  if bases != given then putName body "__orig_bases__" (← newTuple given)
  let r ← finishClass maker id bases keywords body
  for (_, c) in own do setData c (.cell (some r))
  return r

/-- Makes a class of a function, a name and bases, which are given as arguments. -/
def classFromArgs (a : Args) : Exec Ref := do
  match a.positional with
  | f :: name :: given =>
    match ← dataOf f, ← text? name with
    | .function d, some n =>
      classOfBody d (discard <| Ops.call f (.of [])) n.lossy given a.keywords
    | .function _, none => typeError "__build_class__: name is not a string"
    | _, _ => typeError "__build_class__: func must be a function"
  | _ => typeError "__build_class__: not enough arguments"

end

end GuestBridge.Guest
