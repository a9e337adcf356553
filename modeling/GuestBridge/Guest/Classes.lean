import GuestBridge.Guest.Arguments
import GuestBridge.Script.Parse
import GuestBridge.Text.Classes

/-!
# Classes of a script

Membership in classes, and the making of new classes.
-/

namespace GuestBridge.Guest

/-! ### Membership -/

section
variable [Ops]

/-- Whether an object belongs to a class, not asking the class's own opinion. -/
def belongsTo (r : Ref) (c : Class) : Exec Bool := do
  (← classOf r).extends c

/-- Whether an object belongs to a class or to one of several. -/
def isInstance (r cls : Ref) : Exec Bool := do
  if (← classOf r).ref == cls then return true
  else
    match ← dataOf cls with
    | .tuple items => items.anyM fun c => Ops.isInstance r c
    | .union items =>
      items.anyM fun c => do
        if isNone c then return isNone r else Ops.isInstance r c
    | d =>
      match ← callSpecial? cls "__instancecheck__" [r] with
      | some v => isTrue v
      | none =>
        match d with
        | .kind k => belongsTo r (.builtin k)
        | .cls _ => belongsTo r (.user cls)
        | .alias _ _ => typeError "isinstance() argument 2 cannot be a parameterized generic"
        | _ => typeError "isinstance() arg 2 must be a type, a tuple of types, or a union"

/-- Whether a class extends a class or one of several; `fuel` bounds how deep these are nested. -/
def isSubclass (c : Class) : (fuel : Nat) → Ref → Exec Bool
  | 0, _ => raiseError .recursionError "maximum recursion depth exceeded in __subclasscheck__"
  | fuel + 1, cls => do
    match ← dataOf cls with
    | .tuple items => items.anyM (isSubclass c fuel)
    | .union items =>
      items.anyM fun d => do
        match ← class? (if isNone d then Kind.noneType.ref else d) with
        | some d => c.extends d
        | none => return false
    | d =>
      match ← callSpecial? cls "__subclasscheck__" [c.ref] with
      | some v => isTrue v
      | none =>
        match d, ← class? cls with
        | _, some d => c.extends d
        | .alias _ _, _ => typeError "issubclass() argument 2 cannot be a parameterized generic"
        | _, none =>
          typeError "issubclass() arg 2 must be a class, a tuple of classes, or a union"

/-! ### New classes -/

/-- What the bases of a class statement stand for: an object that is no class may name others. -/
def resolveBases (bases : List Ref) : Exec (List Ref) := do
  let whole ← newTuple bases
  let parts ← bases.mapM fun b => do
    match ← class? b with
    | some _ => return [b]
    | none =>
      match ← dataOf b with
      | .alias origin _ => return [origin]
      | _ =>
        match ← getAttr? b "__mro_entries__" with
        | none => return [b]
        | some f =>
          match ← dataOf (← Ops.call f (.of [whole])) with
          | .tuple items => return items
          | _ => typeError "__mro_entries__ must return a tuple"
  return parts.flatten

/-- The names of the slots that a class body lists. -/
def slotNames (r : Ref) : Exec (List String) := do
  let items ← match ← text? r with
    | some _ => pure [r]
    | none => elements r
  items.mapM fun s => do
    match ← text? s with
    | some t =>
      let isName := match t.points with
        | [] => false
        | p :: ps => Text.isIdentifierStart p && ps.all Text.isIdentifierContinue
      if isName then return t.lossy else typeError "__slots__ must be identifiers"
    | none => typeError ("__slots__ items must be strings, not '" ++ (← typeNameOf s) ++ "'")

/-- Refuses slots that a class cannot have. -/
def checkSlots (slots : List String) (bases : List Class) (inherited : Bool)
    (names : List (String × Ref)) : Exec Unit := do
  let own := slots.filter fun id => id != "__dict__" && id != "__weakref__"
  for b in bases do
    match ← b.layout 100 with
    | .builtin k =>
      if !slots.isEmpty && (k == .int || k == .tuple || k == .bytes || k == .type) then
        typeError ("nonempty __slots__ not supported for subtype of '" ++ (← b.shortName) ++ "'")
    | .user _ => pure ()
  if slots.count "__dict__" > (if inherited then 0 else 1) then
    typeError "__dict__ slot disallowed: we already got one"
  match own.find? fun id => (names.lookup id).isSome with
  | some id =>
    valueError ((Text.ofString id).quoted.lossy ++ " in __slots__ conflicts with class variable")
  | none => pure ()

/-- Names whose functions are methods of the class or of nothing without being declared so. -/
def wrapImplicit (id : String) (v : Ref) : Exec Ref := do
  match ← dataOf v with
  | .function _ =>
    match id with
    | "__new__" => alloc (.of .staticMethod (.wrapped v))
    | "__init_subclass__" | "__class_getitem__" => alloc (.of .classMethod (.wrapped v))
    | _ => return v
  | _ => return v

/-- Tells a value its name in the class that holds it. -/
def tellName (name : String) (r : Ref) (id : String) (v : Ref) : Exec Unit := do
  let told : Exec Unit := do
    match ← callSpecial? v "__set_name__" [r, ← newStr id], ← dataOf v with
    | none, .property _ _ _ => putSlot v "__set_name__" (← newStr id)
    | _, _ => pure ()
  tryCatch told fun e => do
    let failed ← newError .runtimeError [← newStr ("Error calling __set_name__ on '" ++
      (← typeNameOf v) ++ "' instance " ++ (Text.ofString id).quoted.lossy ++ " in '" ++ name ++
      "'")]
    match ← dataOf failed with
    | .error d => setData failed (.error { d with cause := some e.value, context := some e.value })
    | _ => pure ()
    raiseRef failed

/-- The order of a new class, which its own class may decide. -/
def orderOfClass (kind : Class) (r : Ref) (bases : List Class) (base : Class) :
    Exec (List Class) := do
  match ← kind.find "mro" with
  | .value f =>
    setData r (.cls { (default : ClassData) with bases, base, order := [.user r] })
    let told ← elements (← callValue f r [])
    told.mapM fun c => do
      match ← class? c with
      | some c => return c
      | none => typeError ("mro() returned a non-class ('" ++ (← typeNameOf c) ++ "')")
  | _ => orderFrom (.user r) bases

/-- What a new class holds for the things that its objects hold: its slots, and the dictionary and
the weak references that the objects of its base lack. -/
def partsOf (r : Ref) : Exec (List (String × Ref)) := do
  let c := Class.user r
  let d ← classData r
  let part (k : Kind) (id : String) : Exec (String × Ref) := do
    return (id, ← alloc (.of k (.slotOf c id)))
  let slots ← d.valueSlots.mergeSort.mapM (part .memberDescriptor)
  let attrs ←
    if d.hasAttrs && !(← d.base.hasAttrs) then ["__dict__"].mapM (part .getsetDescriptor)
    else pure []
  let references ←
    if (← c.allowsWeakReferences) && !(← d.base.allowsWeakReferences) then
      ["__weakref__"].mapM (part .getsetDescriptor)
    else pure []
  return slots ++ attrs ++ references

/-- Makes a class. -/
def buildClass (kind : Class) (name : String) (bases : List Ref) (names : List (String × Ref))
    (keywords : List (Text × Ref)) : Exec Ref := do
  let bases ← baseClasses (if bases.isEmpty then [Kind.object.ref] else bases)
  let base ← decidingBase bases
  let slots? ← (names.lookup "__slots__").mapM slotNames
  let inherited ← bases.anyM Class.hasAttrs
  let slots := slots?.getD []
  let slots := slots.map (Script.ownName (some name))
  checkSlots slots bases inherited names
  let hasAttrs := slots?.isNone || inherited || slots.contains "__dict__"
  let slots := slots.filter (· != "__dict__")
  if name.contains '\x00' then valueError "type name must not contain null characters"
  let qualified ← match names.lookup "__qualname__" with
    | some q =>
      match ← text? q with
      | some t => pure t.lossy
      | none => typeError ("type __qualname__ must be a str, not " ++ (← typeNameOf q))
    | none => pure name
  match bases.find? fun b => bases.count b > 1 with
  | some b => typeError ("duplicate base class " ++ (← b.shortName))
  | none => pure ()
  let own ← (names.filter fun (id, _) => id != "__qualname__").mapM fun (id, v) => do
    return (id, ← wrapImplicit id v)
  let r ← alloc { cls := kind, data := .plain }
  let order ← orderOfClass kind r bases base
  setData r (.cls ⟨name, qualified, bases, base, order, own, hasAttrs, slots⟩)
  let parts ← partsOf r
  let doc := if (own.lookup "__doc__").isSome then [] else [("__doc__", noneRef)]
  -- objects that have an equality of their own need a hash of their own
  let hash := if (own.lookup "__eq__").isSome && (own.lookup "__hash__").isNone
    then [("__hash__", noneRef)] else []
  let all := own ++ parts.filter (fun (id, _) => (own.lookup id).isNone) ++ doc ++ hash
  setData r (.cls ⟨name, qualified, bases, base, order, all, hasAttrs, slots⟩)
  for (id, v) in own do
    tellName name r id v
  match ← findIn "__init_subclass__" (order.filter (· != .user r)) with
  | .value f => discard <| Ops.call (← bindClassValue f (.user r)) ⟨[], keywords⟩
  | _ =>
    if !keywords.isEmpty then
      typeError (name ++ ".__init_subclass__() takes no keyword arguments")
  return r

/-- The class that a new class belongs to: the given one or the most derived of the bases'. -/
def derivedMetaclass (given : Class) (bases : List Ref) : Exec Class := do
  let mut best := given
  for b in bases do
    let c ← classOf b
    if ← best.extends c then pure ()
    else if ← c.extends best then best := c
    else
      typeError ("metaclass conflict: the metaclass of a derived class must be a (non-strict) " ++
        "subclass of the metaclasses of all its bases")
  return best

/-- The bases of a new class, none of which may stand for other classes. -/
def checkBases (bases : List Ref) : Exec Unit := do
  for b in bases do
    if (← class? b).isNone then
      match ← dataOf b with
      | .alias _ _ =>
        typeError ("type() doesn't support MRO entry resolution; use types.new_class()")
      | _ => pure ()

/-- The class that `type` itself makes for a class of classes. -/
def newType (kind : Class) (a : Args) : Exec Ref := do
  match a.positional with
  | [name, bases, body] =>
    let shown := "type.__new__()"
    let n ← textArg shown "argument 1" name
    let bs ← match ← dataOf bases with
      | .tuple bs => pure bs
      | _ => typeError (shown ++ " argument 2 must be tuple, not " ++ (← argumentType bases))
    unless ← isDict body do
      typeError (shown ++ " argument 3 must be dict, not " ++ (← argumentType body))
    checkBases bs
    let best ← derivedMetaclass kind bs
    match best == kind, ← best.find "__new__" with
    | false, .value f => Ops.call (← bindClassValue f best) ⟨best.ref :: a.positional, a.keywords⟩
    | _, _ =>
      let names ← namesOf body
      let module ← match ← currentGlobals? with
        | some g => getName g "__name__"
        | none => pure none
      let names := if (names.lookup "__module__").isSome then names
        else names ++ (module.map fun m => ("__module__", m)).toList
      buildClass best n.lossy bs names a.keywords
  | given =>
    typeError ("type.__new__() takes exactly 3 arguments (" ++ toString given.length ++ " given)")

/-- What a class statement calls to make its class: what the keyword `metaclass` gives, or else the
class of the first base, made as derived as the bases demand if it is a class. -/
def classMaker (given : Option Ref) (bases : List Ref) : Exec Ref := do
  let maker ← match given, bases with
    | some g, _ => pure g
    | none, b :: _ => do pure (← classOf b).ref
    | none, [] => pure Kind.type.ref
  match ← class? maker with
  | some c => return (← derivedMetaclass c bases).ref
  | none => return maker

/-- The dictionary in which the body of a class runs, as the class of the class prepares it. -/
def preparedNames (maker : Ref) (name : String) (bases : List Ref)
    (keywords : List (Text × Ref)) : Exec Ref := do
  match ← getAttr? maker "__prepare__" with
  | none => newDict
  | some f =>
    let d ← Ops.call f ⟨[← newStr name, ← newTuple bases], keywords⟩
    if ← isDict d then return d
    else
      let shown ← match ← class? maker with
        | some c => c.shortName
        | none => pure "<metaclass>"
      typeError (shown ++ ".__prepare__() must return a mapping, not " ++ (← typeNameOf d))

/-- The class that a class statement makes from its finished body. -/
def finishClass (maker : Ref) (name : String) (bases : List Ref) (keywords : List (Text × Ref))
    (body : Ref) : Exec Ref := do
  let a : Args := ⟨[← newStr name, ← newTuple bases, body], keywords⟩
  if maker == Kind.type.ref then newType (.builtin .type) a else Ops.call maker a

end

end GuestBridge.Guest
