import GuestBridge.Guest.Attribute

/-!
# Names in running code

Where the names of a script are found while it runs: in the dictionary of the module or class body,
in the module's dictionary, among the built-in names, or among the variables of the running function
and of the functions around it. Constants are here, too: each constant of a unit of code is one
object.
-/

namespace GuestBridge.Guest

open Script

/-! ### Constants -/

/-- Whether a string looks like a name; constants of this form are interned. -/
def isNameLike (t : Text) : Bool :=
  t.points.all fun p =>
    (48 ≤ p && p ≤ 57) || (65 ≤ p && p ≤ 90) || p == 95 || (97 ≤ p && p ≤ 122)

/-- A new object for a constant. -/
def newConstant : Literal → Exec Ref
  | .none => return noneRef
  | .bool b => return boolRef b
  | .int n => newInt n
  | .float bits => newFloat bits
  | .imaginary bits => alloc (.of .complex (.complex 0 bits))
  | .str t => if isNameLike t then intern t else newText t
  | .bytes bs => newBytes bs
  | .ellipsis => return ellipsisRef

/-- The one object of a constant in a unit of code. -/
def constant (unit : Nat) (c : Literal) : Exec Ref := do
  match c with
  | .none => return noneRef
  | .bool b => return boolRef b
  | _ =>
    match ((← get).constants.getD unit []).lookup c with
    | some r => return r
    | none =>
      let r ← newConstant c
      modify fun m =>
        let grown := m.constants ++ Array.replicate (unit + 1 - m.constants.size) []
        { m with constants := grown.modify unit ((c, r) :: ·) }
      return r

/-! ### Names of a module or class body -/

/-- Raises the error for a name that is not defined. -/
def undefinedName {α : Type} (id : String) : Exec α := do
  let r ← newError .nameError [← newStr ("name '" ++ id ++ "' is not defined")]
  putSlot r "name" (← newStr id)
  raiseRef r

/-- A built-in name as seen from a module. -/
def builtinName? (globals : Ref) (id : String) : Exec (Option Ref) := do
  match ← getName globals "__builtins__" with
  | none => getName (← get).builtins id
  | some b =>
    match ← dataOf b with
    | .module d => getName d id
    | _ => getName b id

/-- A name of the module, or else a built-in name. -/
def loadGlobal (globals : Ref) (id : String) : Exec Ref := do
  match ← getName globals id with
  | some v => return v
  | none =>
    match ← builtinName? globals id with
    | some v => return v
    | none => undefinedName id

/-- A name of the module or class body that runs, or else one of the module. -/
def loadName (f : Frame) (id : String) : Exec Ref := do
  match f.names with
  | none => loadGlobal f.globals id
  | some d =>
    match ← getName d id with
    | some v => return v
    | none => loadGlobal f.globals id

/-- Takes a name out of a dictionary. -/
def deleteName (dict : Ref) (id : String) : Exec Unit := do
  unless ← removeName dict id do undefinedName id

/-! ### Variables of functions -/

/-- Raises the error for a variable of the running function that has no value. -/
def unboundLocal {α : Type} (id : String) : Exec α :=
  raiseError .unboundLocalError
    ("cannot access local variable '" ++ id ++ "' where it is not associated with a value")

/-- Raises the error for a variable of an enclosing function that has no value. -/
def unboundOuter {α : Type} (id : String) : Exec α := do
  let r ← newError .nameError [← newStr ("cannot access free variable '" ++ id ++
    "' where it is not associated with a value in enclosing scope")]
  putSlot r "name" (← newStr id)
  raiseRef r

/-- The value of a variable of the running function. -/
def loadLocal (f : Frame) (id : String) : Exec Ref := do
  match ← readVariable f id with
  | some v => return v
  | none => unboundLocal id

/-- The value of a variable of an enclosing function. -/
def loadOuter (f : Frame) (id : String) : Exec Ref := do
  match ← readVariable f id with
  | some v => return v
  | none => unboundOuter id

end GuestBridge.Guest
