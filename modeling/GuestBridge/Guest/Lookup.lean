import GuestBridge.Guest.Heap
import GuestBridge.Guest.Members

/-!
# Looking names up in classes

A name is looked up in the classes of a class's order, first match. What is found is a value that
the class holds or something that a built-in type defines.
-/

namespace GuestBridge.Guest

/-- What a class defines under a name. -/
inductive Found
  | value (r : Ref)
  | member (k : Kind) (m : MemberKind)
  | missing
  deriving Inhabited

/-- The data of a class made by a script. -/
def classData (r : Ref) : Exec ClassData := do
  match ← dataOf r with
  | .cls c => return c
  | _ => return default

/-- What a class itself defines under a name. -/
def Class.own (c : Class) (id : String) : Exec Found := do
  match c with
  | .builtin k =>
    match k.member? id with
    | some m => return .member k m
    | none => return .missing
  | .user r =>
    match (← classData r).names.lookup id with
    | some v => return .value v
    | none => return .missing

/-- What the first of several classes that defines a name defines. -/
def findIn (id : String) : List Class → Exec Found
  | [] => return .missing
  | c :: cs => do
    match ← c.own id with
    | .missing => findIn id cs
    | f => return f

/-- What a class or one that it extends defines under a name. -/
def Class.find (c : Class) (id : String) : Exec Found := do
  findIn id (← c.order)

/-- Whether anything is found. -/
def Found.isFound : Found → Bool
  | .missing => false
  | _ => true

/-- What the class of an object defines under a name; operators look there only. -/
def special (r : Ref) (id : String) : Exec Found := do
  (← classOf r).find id

/-- The value that a script has given to a special method of an object, if it did so. -/
def userSpecial? (r : Ref) (id : String) : Exec (Option Ref) := do
  match ← classOf r with
  | .builtin _ => return none
  | c =>
    match ← c.find id with
    | .value v => return some v
    | _ => return none

/-- Whether instances of a built-in type have attributes of their own. -/
def Kind.hasAttrs : Kind → Bool
  | .function | .module | .simpleNamespace | .textBuffer | .orderedDict | .error _ => true
  | _ => false

/-- Whether instances of a class have attributes of their own beyond named slots. -/
def Class.hasAttrs : Class → Exec Bool
  | .builtin k => return k.hasAttrs
  | .user r => return (← classData r).hasAttrs

/-- The name of a class by itself. -/
def Class.shortName : Class → Exec String
  | .builtin k => return k.name
  | .user r => return (← classData r).name

/-- The qualified name of a class. -/
def Class.qualifiedName : Class → Exec String
  | .builtin k => return k.name
  | .user r => return (← classData r).qualifiedName

/-- The module of a class, as an object. -/
def Class.module : Class → Exec Ref
  | .builtin k => newStr k.moduleName
  | .user r => do
    match (← classData r).names.lookup "__module__" with
    | some m => return m
    | none => newStr "builtins"

end GuestBridge.Guest
