import GuestBridge.Script.Syntax

/-!
# Code of guest scripts

What a script is compiled to: units of instructions for a stack machine, one unit for the script
itself and one for each function, class body and comprehension in it. Jump targets are labels; a
unit lists the position of each.
-/

namespace GuestBridge.Script

/-- Instructions of the stack machine. The comments show the top of the stack at the right. -/
inductive Instr
  /-- Pushes a constant. -/
  | const (c : Literal)
  /-- Names of a module or class body. -/
  | loadName (id : String)
  | storeName (id : String)
  | deleteName (id : String)
  /-- Names of the module in which the code stands. -/
  | loadGlobal (id : String)
  | storeGlobal (id : String)
  | deleteGlobal (id : String)
  /-- Variables of the running function. -/
  | loadLocal (id : String)
  | storeLocal (id : String)
  | deleteLocal (id : String)
  /-- Variables of the enclosing functions. -/
  | loadOuter (id : String)
  | storeOuter (id : String)
  | deleteOuter (id : String)
  /-- A name of a class body that an enclosing function also has. -/
  | loadNameOrOuter (id : String)
  /-- Attributes: `o ⊢ v`, `v o ⊢`, `o ⊢`. -/
  | loadAttr (id : String)
  | storeAttr (id : String)
  | deleteAttr (id : String)
  /-- Subscripts: `o k ⊢ v`, `v o k ⊢`, `o k ⊢`. -/
  | loadItem
  | storeItem
  | deleteItem
  | unary (op : UnaryOp)
  | binary (op : BinaryOp)
  | augment (op : BinaryOp)
  | compare (op : CompareOp)
  | buildTuple (n : Nat)
  | buildList (n : Nat)
  | buildSet (n : Nat)
  /-- Puts the elements of a set of constants where sets of constants have them. -/
  | settleSet
  | buildSlice (hasStep : Bool)
  | buildDict
  /-- Adds the top to the collection `depth` places below it. -/
  | listAppend (depth : Nat)
  | setAdd (depth : Nat)
  /-- Puts `k v` into the dictionary `depth` places below. -/
  | dictPut (depth : Nat)
  /-- Adds the elements of the top to the list under it. -/
  | listExtend
  | setExtend
  /-- Takes over the entries of the top into the dictionary under it. -/
  | dictUpdate
  /-- The same for keyword arguments; a name given twice is refused. -/
  | dictMerge
  | listToTuple
  /-- The text of a value: `v ⊢ t`, or `v spec ⊢ t` with a format specification. -/
  | format (conversion : Conversion) (hasSpec : Bool)
  | concat (n : Nat)
  | jump (label : Nat)
  | jumpIfFalse (label : Nat)
  | jumpIfTrue (label : Nat)
  /-- Jumps and keeps the top, or drops it and goes on. -/
  | jumpIfFalseKeep (label : Nat)
  | jumpIfTrueKeep (label : Nat)
  | getIter
  /-- Pushes the next element, or drops the iterator and jumps. -/
  | forIter (label : Nat)
  | unpack (n : Nat)
  | unpackStar (before after : Nat)
  /-- `f a₁ … aₙ b₁ … bₖ ⊢ v`, the last ones being values of keywords. -/
  | call (positional : Nat) (keywords : List String)
  /-- `f args kwargs ⊢ v` with a list and a dictionary. -/
  | callSpread
  /-- Makes a function from the values of defaults, of defaults of keyword-only parameters and of
  annotations. -/
  | makeFunction (unit : Nat) (defaults : Nat) (keywordDefaults annotations : List String)
  /-- Makes a class from its bases and keyword arguments, or from a list and a dictionary of
them. -/
  | makeClass (unit : Nat) (id : String) (bases : Nat) (keywords : List String)
  | makeClassSpread (unit : Nat) (id : String)
  | returnValue
  | yieldValue
  | pop
  | dup
  | dupTwo
  /-- Brings the third from the top to the top: `a b c ⊢ b c a`. -/
  | rotate (n : Nat)
  | raiseError (args : Nat)
  | assertionError (hasMessage : Bool)
  /-- Opens a region that a loop, an `except` or a `finally` guards. -/
  | openLoop (label : Nat)
  | openExcept (label : Nat)
  | openFinal (label : Nat)
  /-- Closes the innermost region. -/
  | closeRegion
  /-- Enters the `finally` part without anything pending. -/
  | enterFinal
  /-- Does what was pending when the `finally` part was entered. -/
  | endFinal
  /-- `e k ⊢`: goes on if the exception `e` is of kind `k`, else jumps with `e`. -/
  | matchException (label : Nat)
  /-- Ends the handling of an exception. -/
  | endHandler
  /-- Raises again the exception being handled. -/
  | reraise
  | breakLoop
  | continueLoop (label : Nat) (keep : Nat)
  /-- Imports a module, `level` packages up, of which the given names will be asked. -/
  | importModule (path : String) (level : Nat) (names : Option (List String))
  | importFrom (id : String)
  | importAll
  /-- Makes sure that the namespace has a dictionary of annotations. -/
  | setupAnnotations
  deriving Repr, Inhabited

/-- The parameters of a function. -/
structure Signature where
  positionalOnly : List String
  ordinary : List String
  variadic : Option String
  keywordOnly : List String
  keywords : Option String
  deriving Repr, Inhabited, DecidableEq

/-- All parameters that positional arguments can fill. -/
def Signature.positional (s : Signature) : List String :=
  s.positionalOnly ++ s.ordinary

/-- What a unit of code belongs to. -/
inductive UnitKind
  | script | function | classBody
  deriving DecidableEq, Repr, Inhabited

/-- A unit of code. -/
structure Code where
  name : String
  qualifiedName : String
  file : String
  line : Nat
  kind : UnitKind
  signature : Signature
  isGenerator : Bool
  instrs : Array Instr
  lines : Array Nat
  labels : Array Nat
  /-- The number of the first unit of the same script; units refer to each other from there. -/
  base : Nat
  /-- The text that a function starts with. -/
  doc : Option Text
  /-- The variables of its own that code inside it uses, too. -/
  shared : List String := []
  /-- The variables of enclosing functions that it uses, or code inside it. -/
  outer : List String := []
  deriving Repr, Inhabited

/-- The parameters of a function, those that take what is left over last. -/
def Code.parameters (c : Code) : List String :=
  let s := c.signature
  s.positional ++ s.keywordOnly ++ s.variadic.toList ++ s.keywords.toList

/-- The variables of a function: its parameters, and then the others as they are met. -/
def Code.locals (c : Code) : List String :=
  let met := c.instrs.toList.filterMap fun
    | .loadLocal id | .storeLocal id | .deleteLocal id => some id
    | _ => none
  (c.parameters ++ met).eraseDups

/-- The names that a unit can share with the code inside it: the variables of a function, and for a
class body the class itself. -/
def Code.shareable (c : Code) : List String :=
  match c.kind with
  | .script => []
  | .function => c.locals
  | .classBody => ["__class__"]

/-- The variables of enclosing functions that a unit itself uses. What asks for the classes above a
class needs the class around it. -/
def Code.usedOuter (c : Code) : List String :=
  c.instrs.toList.filterMap fun
    | .loadOuter id | .storeOuter id | .deleteOuter id | .loadNameOrOuter id => some id
    | .loadGlobal "super" => some "__class__"
    | _ => none

/-- The numbers of the units directly inside a unit. -/
def Code.inside (c : Code) : List Nat :=
  c.instrs.toList.filterMap fun
    | .makeFunction u _ _ _ | .makeClass u _ _ _ | .makeClassSpread u _ => some u
    | _ => none

/-- Where a jump that keeps a value of the given truth gets to when it passes the jumps that it
would meet, each of which would ask for the truth again: whether it still keeps the value, and the
position. `fuel` bounds the number of jumps. -/
def Code.landing (c : Code) (truth : Bool) : (fuel : Nat) → (position : Nat) → Bool × Nat
  | 0, p => (true, p)
  | fuel + 1, p =>
    let place (label : Nat) : Nat := c.labels.getD label 0
    match truth, c.instrs[p]? with
    | false, some (.jumpIfFalseKeep l) | true, some (.jumpIfTrueKeep l) =>
      c.landing truth fuel (place l)
    | false, some (.jumpIfFalse l) | true, some (.jumpIfTrue l) => (false, place l)
    | false, some (.jumpIfTrueKeep _) | false, some (.jumpIfTrue _)
    | true, some (.jumpIfFalseKeep _) | true, some (.jumpIfFalse _) => (false, p + 1)
    | _, _ => (true, p)

/-- Lets jumps that keep a value lead past jumps that would ask for its truth again. -/
def Code.shortcut (c : Code) : Code :=
  let lead (done : Array Instr × Array Nat) (truth : Bool) (label : Nat) :
      Array Instr × Array Nat :=
    let (keeps, position) := c.landing truth c.instrs.size (c.labels.getD label 0)
    let next := done.2.size
    let i := match keeps, truth with
      | true, false => Instr.jumpIfFalseKeep next
      | true, true => .jumpIfTrueKeep next
      | false, false => .jumpIfFalse next
      | false, true => .jumpIfTrue next
    (done.1.push i, done.2.push position)
  let (instrs, labels) := c.instrs.foldl (fun done i =>
    match i with
    | .jumpIfFalseKeep l => lead done false l
    | .jumpIfTrueKeep l => lead done true l
    | i => (done.1.push i, done.2)) (#[], c.labels)
  { c with instrs, labels }

/-- Finds out which variables units share with the units inside them, which come before them. -/
def shareVariables (units : Array Code) : Array Code :=
  units.foldl (fun done c =>
    let inner := (c.inside.flatMap fun u => (done.getD u default).outer).eraseDups
    let own := c.shareable
    let sorted (ids : List String) := ids.mergeSort fun a b => a ≤ b
    done.push { c with
      shared := sorted (inner.filter own.contains)
      outer := sorted (c.usedOuter ++ inner.filter (!own.contains ·)).eraseDups }) #[]

end GuestBridge.Script
