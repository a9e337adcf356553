import GuestBridge.Guest.Lookup

/-!
# The classes above a class

A class lists the classes that it extends in the order in which they are asked: itself first, each
class before those that it extends, and the bases in the order in which they are written. What the
objects of a class hold is decided by one of its bases; a class takes the place of another only if
the objects of both hold the same things.
-/

namespace GuestBridge.Guest

/-! ### The order of classes -/

/-- Takes away the first class of each list if it is the given one. -/
def dropHead (c : Class) (orders : List (List Class)) : List (List Class) :=
  (orders.map fun o => if o.head? == some c then o.drop 1 else o).filter (!·.isEmpty)

/-- Merges orders so that each stays in order: the next class is the first head that stands in no
tail. `none` if there is no such class; `fuel` bounds the length. -/
def mergeOrders : (fuel : Nat) → List (List Class) → Option (List Class)
  | 0, _ => none
  | fuel + 1, orders =>
    let orders := orders.filter (!·.isEmpty)
    if orders.isEmpty then some []
    else
      match orders.findSome? fun o => o.head?.filter fun c =>
          orders.all fun o' => !(o'.drop 1).contains c with
      | some c => (mergeOrders fuel (dropHead c orders)).map (c :: ·)
      | none => none

/-- The order of a class with the given bases, which have to agree on one. -/
def orderFrom (c : Class) (bases : List Class) : Exec (List Class) := do
  let orders ← bases.mapM Class.order
  match mergeOrders 1000 (orders ++ [bases]) with
  | some above => return c :: above
  | none =>
    let ns ← bases.mapM Class.shortName
    typeError ("Cannot create a consistent method resolution\norder (MRO) for bases " ++
      ", ".intercalate ns)

/-- The classes that extend a class directly, oldest first. -/
def Class.below (c : Class) : Exec (List Ref) := do
  let m ← get
  let own := (List.range m.heap.size).filter fun i =>
    match (m.heap.getD i default).data with
    | .cls d => d.bases.contains c
    | _ => false
  return own.map Ref.mk

/-- Finds the order of a class again, and then those of the classes below it. `fuel` bounds the
height. -/
def refreshOrder : (fuel : Nat) → Ref → Exec Unit
  | 0, _ => return ()
  | fuel + 1, r => do
    let d ← classData r
    setData r (.cls { d with order := ← orderFrom (.user r) d.bases })
    for b in ← (Class.user r).below do
      refreshOrder fuel b

/-! ### Layouts -/

/-- Whether the objects of a built-in type hold more than those of the type above it. -/
def Kind.hasLayout : Kind → Bool
  | .object => false
  | .error k =>
    match k with
    | .baseException | .stopIteration | .systemExit | .importError | .osError | .nameError
    | .attributeError | .syntaxError | .unicodeEncodeError | .unicodeDecodeError
    | .unicodeTranslateError => true
    | _ => false
  | _ => true

/-- The built-in type that decides what the objects of a built-in type hold. -/
def Kind.layout (k : Kind) : Kind :=
  (k.lineage.find? Kind.hasLayout).getD .object

/-- The slots of its own that hold values in the objects of a class. -/
def ClassData.valueSlots (d : ClassData) : List String :=
  d.slots.filter fun id => id != "__dict__" && id != "__weakref__"

/-- The class that decides what the objects of a class hold. `fuel` bounds the height. -/
def Class.layout : (fuel : Nat) → Class → Exec Class
  | 0, c => return c
  | _, .builtin k => return .builtin k.layout
  | fuel + 1, .user r => do
    let d ← classData r
    if !d.valueSlots.isEmpty then return .user r
    let mut best : Class := .builtin .object
    for b in d.bases do
      let l ← b.layout fuel
      if ← l.extends best then best := l
    return best

/-- The base that decides what the objects of a class hold; bases whose objects hold things that do
not go together are refused. -/
def decidingBase (bases : List Class) : Exec Class := do
  let mut best : Class := .builtin .object
  let mut base := bases.headD (.builtin .object)
  for b in bases do
    let l ← b.layout 100
    if ← best.extends l then pure ()
    else if ← l.extends best then
      best := l
      base := b
    else typeError "multiple bases have instance lay-out conflict"
  return base

/-- Whether a class leaves room for weak references to its objects. -/
def Class.allowsWeakReferences (c : Class) : Exec Bool := do
  match c with
  | .builtin t =>
    match t with
    | .type | .function | .method | .module | .set | .frozenset | .generator | .deque
    | .orderedDict | .memoryview | .builtinFunction => return true
    | _ => return false
  | .user _ =>
    match ← c.baseKind with
    | .int | .tuple | .bytes => return false
    | .set | .frozenset | .deque | .orderedDict | .type | .module => return true
    | _ =>
      (← c.order).anyM fun d => do
        match d with
        | .user u =>
          let own ← classData u
          return (own.names.lookup "__slots__").isNone || own.slots.contains "__weakref__"
        | .builtin _ => return false

/-- The highest class whose objects hold the same things as those of a class. `fuel` bounds the
height. -/
def Class.sameLayout : (fuel : Nat) → Class → Exec Class
  | 0, c => return c
  | _, .builtin k => return .builtin k.layout
  | fuel + 1, .user r => do
    let d ← classData r
    let addsAttrs := d.hasAttrs != (← d.base.hasAttrs)
    let addsReferences :=
      (← (Class.user r).allowsWeakReferences) != (← d.base.allowsWeakReferences)
    if !d.valueSlots.isEmpty || addsAttrs || addsReferences then return .user r
    else d.base.sameLayout fuel

/-- Whether two classes add the same to the objects of one class above both. -/
def addSame (c d : Class) : Exec Bool := do
  match c, d with
  | .user a, .user b =>
    let x ← classData a
    let y ← classData b
    return x.base == y.base && x.hasAttrs == y.hasAttrs &&
      x.valueSlots.mergeSort == y.valueSlots.mergeSort
  | _, _ => return false

/-- Whether the objects of a class can be part of a cycle. -/
def Class.canCycle : Class → Bool
  | .user _ => true
  | .builtin k =>
    match k with
    | .object | .int | .float | .complex | .str | .bytes | .bytearray | .bool => false
    | _ => true

/-- Refuses to put one class in the place of another if their objects hold different things. -/
def checkReplaces (id : String) (old new : Class) : Exec Unit := do
  let differs (what : String) : Exec Unit := do
    typeError (id ++ " assignment: '" ++ (← new.fullName) ++ "' " ++ what ++
      " differs from '" ++ (← old.fullName) ++ "'")
  if old.canCycle != new.canCycle then differs "deallocator"
  let a ← old.sameLayout 100
  let b ← new.sameLayout 100
  unless a == b || (← addSame a b) do differs "object layout"

/-! ### Bases -/

/-- The classes among the bases of a class; other objects are refused. -/
def baseClasses (bases : List Ref) : Exec (List Class) :=
  bases.mapM fun b => do
    match ← class? b with
    | some (.builtin k) =>
      if k.isBase then return .builtin k
      else typeError ("type '" ++ k.fullName ++ "' is not an acceptable base type")
    | some c => return c
    | none => typeError "bases must be types"

/-- Gives a class other bases, whose objects have to hold the same things. -/
def replaceBases (r v : Ref) : Exec Unit := do
  let d ← classData r
  match ← dataOf v with
  | .tuple [] => typeError ("can only assign non-empty tuple to " ++ d.name ++ ".__bases__, not ()")
  | .tuple items =>
    for b in items do
      match ← class? b with
      | some c =>
        if ← c.extends (.user r) then typeError "a __bases__ item causes an inheritance cycle"
      | none =>
        typeError (d.name ++ ".__bases__ must be tuple of classes, not '" ++ (← typeNameOf b) ++
          "'")
    let bases ← baseClasses items
    let base ← decidingBase bases
    checkReplaces "__bases__" d.base base
    discard <| orderFrom (.user r) bases
    setData r (.cls { d with bases, base })
    refreshOrder 100 r
  | _ =>
    typeError ("can only assign tuple to " ++ d.name ++ ".__bases__, not " ++ (← typeNameOf v))

end GuestBridge.Guest
