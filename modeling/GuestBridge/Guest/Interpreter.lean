import GuestBridge.Guest.Step

/-!
# The interpreter

The operations that built-in behaviour refers to, tied together. The depth of calls is bounded: at
the bound every operation raises `RecursionError`, so the interpreter is defined by recursion on the
number of calls that may still be nested.
-/

namespace GuestBridge.Guest

section
variable [Ops]

/-- Calls a function of a script. -/
def callFunction (r : Ref) (f : FunctionData) (a : Args) : Exec Ref := do
  let frame ← callFrame r f a
  if ((← get).code.getD f.unit default).isGenerator then newGenerator f frame
  else
    match ← runFrame frame with
    | .returned v => return v
    | .yielded v _ => return v

/-- Calls an object. -/
def callAny (r : Ref) (a : Args) : Exec Ref := do
  match ← dataOf r with
  | .function f => callFunction r f a
  | .method g self =>
    match ← dataOf g with
    | .function f => callFunction g f ⟨self :: a.positional, a.keywords⟩
    | _ => callObject r a
  | _ => callObject r a

end

/-- What happens when calls are nested too deeply; the message ends in what was tried. -/
def tooDeep {α : Type} (what : String) : Exec α :=
  raiseError .recursionError ("maximum recursion depth exceeded" ++ what)

/-- A call that is nested too deeply. -/
def callTooDeep (r : Ref) : Exec Ref := do
  match ← dataOf r with
  | .function _ | .method _ _ => tooDeep ""
  | _ => tooDeep " while calling a Python object"

/-- Operations that make no calls at all. -/
@[reducible] def noOperations : Ops :=
  ⟨fun r _ => callTooDeep r, fun _ => tooDeep "",
    fun _ => tooDeep " while getting the repr of an object",
    fun _ => tooDeep " while getting the str of an object", fun _ => tooDeep "",
    fun _ _ _ => tooDeep " in comparison", fun _ _ => tooDeep " in comparison",
    fun _ => tooDeep "", fun _ _ => tooDeep " in __instancecheck__"⟩

/-- The operations that make their calls by the given ones. -/
@[reducible, noinline] def operationsOver (o : Ops) : Ops :=
  ⟨@callAny o, @runFrame o, @reprObject o, @strObject o, @hashObject o, @compareObjects o,
    @equalObjects o, @nextObject o, @isInstance o⟩

/-- The operations with a number of calls that may be nested. -/
@[reducible] def operations : (depth : Nat) → Ops
  | 0 => noOperations
  | depth + 1 => operationsOver (operations depth)

/-- The number of calls that may be nested. -/
def maxDepth : Nat := 1000

/-- The operations of the interpreter. -/
@[reducible, noinline] def interpreter : Ops := operations maxDepth

end GuestBridge.Guest
