import GuestBridge.Guest.Ancestry
import GuestBridge.Guest.Buffer
import GuestBridge.Guest.Variables
import GuestBridge.Guest.Window

/-!
# Attributes

Reading, setting and deleting attributes. A class can give an attribute to its instances in three
ways: as a descriptor that takes part in reading and setting, as a function that becomes a method,
or as a plain value. Objects, classes and modules differ in where they keep attributes of their own.
-/

namespace GuestBridge.Guest

/-- Runs a computation; an exception of the given kind goes to the handler. -/
def recover {α : Type} (x : Exec α) (k : ErrorKind) (h : Raised → Exec α) : Exec α :=
  tryCatch x fun e => do
    if ← isError e.value k then h e else throw e

/-- The module object's own name, if its dictionary has one. -/
def moduleName? (dict : Ref) : Exec (Option String) := do
  match ← getName dict "__name__" with
  | some n => return (← text? n).map Text.lossy
  | none => return none

/-! ### Attributes computed from data -/

/-- An optional object, `None` if absent. -/
def orNone (r : Option Ref) : Ref := r.getD noneRef

/-- An attribute that an exception keeps by name, `None` if it was not given. -/
def errorAttr (r : Ref) (id : String) : Exec Ref := do
  return orNone (← slot? r id)

/-- The attributes of exceptions. -/
def errorAttribute (r : Ref) (e : ErrorData) (id : String) : Exec Ref := do
  match id with
  | "args" => newTuple e.args
  | "__cause__" => return orNone e.cause
  | "__context__" => return orNone e.context
  | "__traceback__" =>
    if e.trace.isEmpty then return noneRef
    else alloc (.of .traceback (.traceback e.trace))
  | "__suppress_context__" => return boolRef e.cause.isSome
  | "start" | "end" =>
    match ← slot? r id with
    | some v => return v
    | none => newInt 0
  | _ => errorAttr r id

/-! ### Members of built-in types -/

/-- The built-in types whose objects have no hash. -/
def Kind.isUnhashable : Kind → Bool
  | .list | .dict | .set | .bytearray | .deque | .defaultDict | .orderedDict | .slice
  | .simpleNamespace | .dictKeys | .dictItems => true
  | _ => false

/-- The object that a method of a built-in type is, not bound. -/
def newMethodOf (k : Kind) (id : String) (m : MemberKind) : Exec Ref :=
  alloc (.of (if m == .slot then .wrapperDescriptor else .methodDescriptor) (.methodOf k id))

/-- A method of a built-in type bound to an object. -/
def newBound (k : Kind) (id : String) (m : MemberKind) (self : Ref) : Exec Ref :=
  alloc (.of (if m == .slot then .methodWrapper else .builtinFunction) (.bound k id self))

/-- What a built-in type itself holds for one of its members. -/
def newMember (k : Kind) (id : String) : Exec Ref := do
  match k.member? id with
  | none => return noneRef
  | some (.attribute _) => alloc (.of .getsetDescriptor (.methodOf k id))
  | some .slot =>
    if id == "__hash__" && k.isUnhashable then return noneRef else newMethodOf k id .slot
  | some .staticMethod => newBound k id .staticMethod k.ref
  | some _ => newMethodOf k id .method

/-- What a built-in type itself holds. -/
def newMembers (k : Kind) : Exec (List (String × Ref)) := do
  let names := k.slots ++ k.methods ++ k.classMethods ++ k.staticMethods ++ k.attributes.1 ++
    k.attributes.2 ++ ["__doc__"]
  names.eraseDups.mapM fun id => do return (id, ← newMember k id)

/-! ### Attributes that built-in types keep -/

/-- The attributes of classes. -/
def classAttribute (c : Class) (id : String) : Exec Ref := do
  match id with
  | "__name__" => newStr (← c.shortName)
  | "__qualname__" => newStr (← c.qualifiedName)
  | "__module__" => c.module
  | "__bases__" =>
    match c with
    | .builtin k => newTuple (k.parent.toList.map Kind.ref)
    | .user r => newTuple ((← classData r).bases.map Class.ref)
  | "__base__" =>
    match c with
    | .builtin k => return (k.parent.map Kind.ref).getD noneRef
    | .user r => return (← classData r).base.ref
  | "__mro__" => newTuple ((← c.order).map Class.ref)
  | "__dict__" =>
    match c with
    | .builtin k => alloc (.of .mappingProxy (.proxy (← newNameDict (← newMembers k))))
    | .user r => alloc (.of .mappingProxy (.proxy (← newNameDict (← classData r).names)))
  | "__doc__" =>
    match c with
    | .builtin _ => return noneRef
    | .user r => return orNone ((← classData r).names.lookup "__doc__")
  | _ => return noneRef

/-- The attributes of functions. -/
def functionAttribute (r : Ref) (f : FunctionData) (id : String) : Exec Ref := do
  match id with
  | "__name__" => newStr f.name
  | "__qualname__" => newStr f.qualifiedName
  | "__module__" => return orNone f.moduleName
  | "__globals__" => return f.globals
  | "__code__" => alloc (.of .code (.code f.unit))
  | "__defaults__" => if f.defaults.isEmpty then return noneRef else newTuple f.defaults
  | "__kwdefaults__" =>
    if f.keywordDefaults.isEmpty then return noneRef else newNameDict f.keywordDefaults
  | "__dict__" => attrDict r
  | "__doc__" => return f.doc
  | "__annotations__" =>
    match f.annotations with
    | some d => return d
    | none =>
      let d ← newDict
      setData r (.function { f with annotations := some d })
      return d
  | "__closure__" =>
    if f.closure.isEmpty then return noneRef else newTuple (f.closure.map (·.2))
  | "__builtins__" => return (← get).builtins
  | _ => return noneRef

/-- The attributes of code. -/
def codeAttribute (unit : Nat) (id : String) : Exec Ref := do
  let c := (← get).code.getD unit default
  match id with
  | "co_name" => newStr c.name
  | "co_qualname" => newStr c.qualifiedName
  | "co_filename" => newStr c.file
  | "co_firstlineno" => newInt c.line
  | "co_argcount" => newInt c.signature.positional.length
  | "co_posonlyargcount" => newInt c.signature.positionalOnly.length
  | "co_kwonlyargcount" => newInt c.signature.keywordOnly.length
  | "co_varnames" => do
    let own := c.locals.filter fun id => !c.shared.contains id || c.parameters.contains id
    newTuple (← (if c.kind == .function then own else []).mapM newStr)
  | "co_cellvars" => newTuple (← c.shared.mapM newStr)
  | "co_freevars" => newTuple (← c.outer.mapM newStr)
  | "co_nlocals" => newInt (if c.kind == .function then c.locals.length else 0)
  | _ => return noneRef

/-- The attributes of frames. -/
def frameAttribute (d : FrameData) (id : String) : Exec Ref := do
  match id with
  | "f_code" => alloc (.of .code (.code d.unit))
  | "f_globals" => return d.globals
  | "f_builtins" => return (← get).builtins
  | "f_lineno" => newInt d.line
  | "f_locals" =>
    match d.names with
    | some names => return names
    | none => newNameDict (← d.seen)
  | _ => return noneRef

/-- An attribute that a built-in type computes from the data of an object. -/
def readAttribute (id : String) (r : Ref) : Exec Ref := do
  match id with
  | "__class__" => return (← classOf r).ref
  | _ =>
    match ← dataOf r with
    | .kind k => classAttribute (.builtin k) id
    | .cls _ => classAttribute (.user r) id
    | .int n =>
      match id with
      | "imag" => newInt 0
      | "denominator" => newInt 1
      | "__doc__" => return noneRef
      | _ => newInt n
    | .float bits =>
      match id with
      | "real" => newFloat bits
      | "imag" => newFloat 0
      | _ => return noneRef
    | .complex re im =>
      match id with
      | "real" => newFloat re
      | "imag" => newFloat im
      | _ => return noneRef
    | .range a b s =>
      match id with
      | "start" => newInt a
      | "stop" => newInt b
      | "step" => newInt s
      | _ => return noneRef
    | .slice a b s =>
      match id with
      | "start" => return a
      | "stop" => return b
      | "step" => return s
      | _ => return noneRef
    | .function f => functionAttribute r f id
    | .builtin m n =>
      match id with
      | "__name__" | "__qualname__" => newStr n
      | "__module__" => newStr m
      | "__self__" => return (← getName (← get).modules m).getD noneRef
      | _ => return noneRef
    | .methodOf k n =>
      match id with
      | "__name__" => newStr n
      | "__qualname__" => newStr (k.name ++ "." ++ n)
      | "__objclass__" => return k.ref
      | _ => return noneRef
    | .slotOf owner n =>
      match id with
      | "__name__" => newStr n
      | "__qualname__" => newStr ((← owner.qualifiedName) ++ "." ++ n)
      | "__objclass__" => return owner.ref
      | _ => return noneRef
    | .upward above self start =>
      match id with
      | "__thisclass__" => return above.ref
      | "__self__" => return orNone self
      | "__self_class__" => return if self.isSome then start.ref else noneRef
      | _ => return noneRef
    | .weakReference _ =>
      if id == "__callback__" then return orNone (← slot? r id) else return noneRef
    | .bound k n self =>
      match id with
      | "__name__" => newStr n
      | "__qualname__" => newStr (k.name ++ "." ++ n)
      | "__self__" => return self
      | _ => return noneRef
    | .method f self =>
      match id with
      | "__func__" => return f
      | "__self__" => return self
      | _ => return noneRef
    | .code u => codeAttribute u id
    | .frame d => frameAttribute d id
    | .cell v =>
      match v with
      | some v => return v
      | none => valueError "Cell is empty"
    | .property g s d =>
      match id with
      | "fget" => return orNone g
      | "fset" => return orNone s
      | "fdel" => return orNone d
      | "__doc__" => return orNone (← slot? r id)
      | "__isabstractmethod__" => return falseRef
      | _ => return noneRef
    | .wrapped f => return if id == "__doc__" then noneRef else f
    | .module d => return if id == "__dict__" then d else noneRef
    | .generator n q f s running =>
      match id with
      | "__name__" => newStr n
      | "__qualname__" => newStr q
      | "gi_running" => return boolRef running
      | "gi_suspended" => return boolRef (s && f.isSome && !running)
      | _ => return noneRef
    | .traceback (e :: es) =>
      match id with
      | "tb_lineno" => newInt e.line
      | "tb_frame" => return orNone e.frame
      | "tb_next" => if es.isEmpty then return noneRef else alloc (.of .traceback (.traceback es))
      | _ => return noneRef
    | .memory of w =>
      checkHeld r
      match id with
      | "obj" => return of
      | "readonly" => return boolRef w.readOnly
      | "nbytes" => newInt (w.count * w.itemSize)
      | "format" => newStr w.format
      | "itemsize" => newInt w.itemSize
      | "ndim" => newInt 1
      | "shape" => newTuple [← newInt w.count]
      | "strides" => newTuple [← newInt w.step]
      | "suboffsets" => return emptyTupleRef
      | _ => return boolRef w.isContiguous
    | .deque _ limit =>
      match limit with
      | some n => newInt n
      | none => return noneRef
    | .defaultDict _ f => return if id == "default_factory" then f else noneRef
    | .view of _ => alloc (.of .mappingProxy (.proxy of))
    | .union ms => if id == "__args__" then newTuple ms else return emptyTupleRef
    | .alias o as =>
      match id with
      | "__origin__" => return o
      | "__args__" => newTuple as
      | _ => return emptyTupleRef
    | .textBuffer _ _ =>
      match id with
      | "__dict__" => attrDict r
      | "closed" =>
        if (← slot? r "unready").isSome then checkOpen r ""
        return boolRef (← slot? r "closed").isSome
      | "line_buffering" =>
        checkOpen r ""
        return falseRef
      | "newlines" =>
        checkOpen r ""
        writtenEnds r
      | _ => return noneRef
    | .stream n =>
      match id with
      | "name" => newStr n
      | "encoding" => newStr "utf-8"
      | "errors" => newStr "strict"
      | "closed" | "line_buffering" => return falseRef
      | "mode" => newStr "w"
      | _ => return noneRef
    | .error e =>
      match ← slot? r id with
      | some v => return v
      | none => if id == "__dict__" then attrDict r else errorAttribute r e id
    | _ => if id == "__dict__" then attrDict r else return noneRef

/-! ### Descriptors -/

/-- Raises the error for an attribute of an object that is not there. -/
def missingAttribute {α : Type} (r : Ref) (id message : String) : Exec α := do
  let e ← newError .attributeError [← newStr message]
  putSlot e "name" (← newStr id)
  putSlot e "obj" r
  raiseRef e

/-- Raises the error for an attribute that cannot be found. -/
def noAttribute {α : Type} (r : Ref) (id : String) : Exec α := do
  missingAttribute r id ("'" ++ (← typeNameOf r) ++ "' object has no attribute '" ++ id ++ "'")

section
variable [Ops]

/-- Whether a value in a class is a descriptor that takes part in setting. -/
def isDataDescriptor (v : Ref) : Exec Bool := do
  match ← dataOf v with
  | .property _ _ _ | .slotOf _ _ => return true
  | _ =>
    match ← userSpecial? v "__set__", ← userSpecial? v "__delete__" with
    | none, none => return false
    | _, _ => return true

/-- Raises the error for a property that lacks the function it would need for an object. A property
knows the name that it was last told. -/
def noPart {α : Type} (property self : Ref) (part : String) : Exec α := do
  let told ← match ← slot? property "__set_name__" with
    | some n => pure (" " ++ (← Ops.repr n).lossy)
    | none => pure ""
  let type := (← Ops.repr (← newStr (← (← classOf self).qualifiedName))).lossy
  raiseError .attributeError
    ("property" ++ told ++ " of " ++ type ++ " object has no " ++ part)

/-- Refuses an object that the part of a class does not belong to. -/
def checkDescribed (id : String) (owner : Class) (self : Ref) : Exec Unit := do
  unless ← (← classOf self).extends owner do
    typeError ("descriptor '" ++ id ++ "' for '" ++ (← owner.fullName) ++
      "' objects doesn't apply to a '" ++ (← typeNameOf self) ++ "' object")

/-- The value of an attribute that a class gives to an instance as `v`. What a class method wraps is
bound with the class as the instance, as many wrappers deep as the first argument says. -/
def bindWrapped : Nat → Ref → Ref → Class → Exec Ref
  | 0, _, _, _ => raiseError .recursionError "maximum recursion depth exceeded"
  | depth + 1, v, self, owner => do
    match ← userSpecial? v "__get__" with
    | some get => Ops.call get (.of [v, self, owner.ref])
    | none =>
      match ← dataOf v with
      | .function _ => alloc (.of .method (.method v self))
      | .property (some get) _ _ => Ops.call get (.of [self])
      | .property none _ _ => noPart v self "getter"
      | .wrapped f =>
        if ← isKind v .classMethod then
          let c ← classOf owner.ref
          match ← dataOf f with
          | .function _ => alloc (.of .method (.method f owner.ref))
          | .property _ _ _ | .wrapped _ | .methodOf _ _ | .slotOf _ _ | .method _ _ =>
            bindWrapped depth f owner.ref c
          | _ =>
            match ← userSpecial? f "__get__" with
            | some get => Ops.call get (.of [f, owner.ref, owner.ref])
            | none => alloc (.of .method (.method f owner.ref))
        else return f
      | .methodOf k n =>
        checkDescribed n (.builtin k) self
        match k.member? n with
        | some (.attribute _) => readAttribute n self
        | some .slot => newBound k n .slot self
        | _ => newBound k n .method self
      | .slotOf of n =>
        checkDescribed n of self
        match n with
        | "__dict__" => attrDict self
        | "__weakref__" => return noneRef
        | _ =>
          match ← slot? self n with
          | some w => return w
          | none => noAttribute self n
      | _ => return v

/-- The value of an attribute that a class gives to an instance as `v`. -/
def bindValue (v self : Ref) (owner : Class) : Exec Ref :=
  bindWrapped 200 v self owner

/-- The value of an attribute of a class that the class or one above it holds as `v`. -/
def bindClassValue (v : Ref) (c : Class) : Exec Ref := do
  match ← userSpecial? v "__get__" with
  | some get => Ops.call get (.of [v, noneRef, c.ref])
  | none =>
    match ← dataOf v with
    | .wrapped _ => bindValue v noneRef c
    | _ => return v

/-- What a member of a built-in type is on an instance. -/
def bindMember (k : Kind) (id : String) (m : MemberKind) (self : Ref) (owner : Class) :
    Exec Ref := do
  match m with
  | .attribute _ => readAttribute id self
  | .slot =>
    if id == "__hash__" && k.isUnhashable then return noneRef else newBound k id m self
  | .method => newBound k id m self
  | .classMethod => newBound k id m owner.ref
  | .staticMethod => alloc (.of .builtinFunction (.bound k id k.ref))

/-- What a member of a built-in type is on the type or a class that extends it. -/
def bindClassMember (k : Kind) (id : String) (m : MemberKind) (c : Class) : Exec Ref := do
  match m with
  | .attribute _ => alloc (.of .getsetDescriptor (.methodOf k id))
  | .slot =>
    if id == "__hash__" && k.isUnhashable then return noneRef
    else newMethodOf k id m
  | .method => newMethodOf k id m
  | .classMethod => newBound k id m c.ref
  | .staticMethod => alloc (.of .builtinFunction (.bound k id k.ref))

/-! ### Reading -/

/-- Whether something that a class defines takes precedence over attributes of the instance. -/
def Found.isData : Found → Exec Bool
  | .value v => isDataDescriptor v
  | .member .object (.attribute false) => return false
  | .member _ (.attribute _) => return true
  | _ => return false

/-- The value of what the class of an object defines. -/
def Found.bind (f : Found) (id : String) (self : Ref) (owner : Class) : Exec Ref := do
  match f with
  | .value v => bindValue v self owner
  | .member k m => bindMember k id m self owner
  | .missing => noAttribute self id

/-- The value of what a class or one above it defines. -/
def Found.bindClass (f : Found) (id : String) (c : Class) : Exec Ref := do
  match f with
  | .value v => bindClassValue v c
  | .member k m => bindClassMember k id m c
  | .missing => noAttribute c.ref id

/-- The attributes of objects that are neither classes nor modules. -/
def plainAttr (r : Ref) (id : String) : Exec Ref := do
  let c ← classOf r
  let f ← c.find id
  if ← f.isData then f.bind id r c
  else
    match ← ownAttr? r id with
    | some v => return v
    | none =>
      match f with
      | .missing =>
        if id == "__dict__" && (← c.hasAttrs) then attrDict r else noAttribute r id
      | f => f.bind id r c

/-- The attributes of classes. -/
def classAttr (r : Ref) (c : Class) (id : String) : Exec Ref := do
  let above ← classOf r
  let f ← above.find id
  if ← f.isData then f.bind id r above
  else
    match ← c.find id with
    | .missing =>
      match f with
      | .missing =>
        missingAttribute r id
          ("type object '" ++ (← c.shortName) ++ "' has no attribute '" ++ id ++ "'")
      | f => f.bind id r above
    | own => own.bindClass id c

/-- Whether the code of a module is still running. -/
def isStarting (dict : Ref) : Exec Bool := do
  match ← getName dict "__spec__" with
  | some spec => return (← ownAttr? spec "_initializing") == some trueRef
  | none => return false

/-- The attributes of modules; a module may compute those that it does not have. -/
def moduleAttr (r dict : Ref) (id : String) : Exec Ref := do
  let c ← classOf r
  let f ← c.find id
  if ← f.isData then f.bind id r c
  else
    match ← getName dict id with
    | some v => return v
    | none =>
      if f.isFound then f.bind id r c
      else
        match ← getName dict "__getattr__" with
        | some g => Ops.call g (.of [← newStr id])
        | none =>
          match ← moduleName? dict with
          | some n =>
            if ← isStarting dict then
              missingAttribute r id ("partially initialized module '" ++ n ++
                "' has no attribute '" ++ id ++ "' (most likely due to a circular import)")
            else missingAttribute r id ("module '" ++ n ++ "' has no attribute '" ++ id ++ "'")
          | none => missingAttribute r id ("module has no attribute '" ++ id ++ "'")

/-- The attributes of methods: their own, or else those of the function. -/
def methodAttr (r f : Ref) (id : String) : Exec Ref := do
  let c ← classOf r
  let found ← c.find id
  if found.isFound && id != "__doc__" then found.bind id r c else plainAttr f id

/-- The attributes of an object as one of the classes above a class: those of the classes that come
after it in the order of the class `start`. -/
def upwardAttr (r : Ref) (above : Class) (self : Ref) (start : Class) (id : String) : Exec Ref := do
  let after := ((← start.order).dropWhile (· != above)).drop 1
  let found ← if id == "__class__" then pure .missing else findIn id after
  let asClass := start.ref == self
  match found with
  | .missing => plainAttr r id
  | f => if asClass then f.bindClass id start else f.bind id self start

/-- The attributes of an object before its class's `__getattr__` is asked. -/
def ownAttr (r : Ref) (id : String) : Exec Ref := do
  match ← dataOf r with
  | .method f _ => methodAttr r f id
  | .kind k => classAttr r (.builtin k) id
  | .cls _ => classAttr r (.user r) id
  | .module d => moduleAttr r d id
  | .upward above (some self) start => upwardAttr r above self start id
  | _ => plainAttr r id

/-- Reads an attribute. -/
def getAttr (r : Ref) (id : String) : Exec Ref := do
  let own : Exec Ref := do
    match ← userSpecial? r "__getattribute__" with
    | some f => Ops.call f (.of [r, ← newStr id])
    | none => ownAttr r id
  match ← userSpecial? r "__getattr__" with
  | none => own
  | some f => recover own .attributeError fun _ => do Ops.call f (.of [r, ← newStr id])

/-- Reads an attribute; `none` if it is missing. -/
def getAttr? (r : Ref) (id : String) : Exec (Option Ref) :=
  recover (some <$> getAttr r id) .attributeError fun _ => return none

/-! ### Calling special methods -/

/-- Calls what a class holds under the name of a special method, for an object of the class. -/
def callValue (f self : Ref) (args : List Ref) : Exec Ref := do
  match ← dataOf f with
  | .function _ => Ops.call f (.of (self :: args))
  | _ => Ops.call (← bindValue f self (← classOf self)) (.of args)

/-- Calls a special method that a script defined for the class of an object. -/
def callSpecial? (r : Ref) (id : String) (args : List Ref) : Exec (Option Ref) := do
  match ← userSpecial? r id with
  | some f => return some (← callValue f r args)
  | none => return none

/-! ### Setting and deleting -/

/-- The attributes of a class that a script made are among its names. -/
def setClassName (r : Ref) (id : String) (v : Ref) : Exec Unit := do
  let d ← classData r
  setData r (.cls { d with names := withName id v d.names })

/-- Refuses to change a built-in type. -/
def immutableType {α : Type} (k : Kind) (id : String) : Exec α :=
  typeError ("cannot set '" ++ id ++ "' attribute of immutable type '" ++ k.fullName ++ "'")

/-- Makes an object belong to another class, whose objects have to hold the same things. -/
def setClassOf (r v : Ref) : Exec Unit := do
  match ← class? v with
  | none =>
    typeError ("__class__ must be set to a class, not '" ++ (← typeNameOf v) ++ "' object")
  | some new =>
    let old ← classOf r
    let modules := (← new.extendsKind .module) && (← old.extendsKind .module)
    match old, new, modules with
    | .user _, .user _, _ | _, _, true =>
      checkReplaces "__class__" old new
      setObject r { (← object r) with cls := new }
    | _, _, _ =>
      typeError "__class__ assignment only supported for mutable types or ModuleType subclasses"

/-- Sets an attribute of a class. -/
def setClassAttr (r : Ref) (id : String) (v : Ref) : Exec Unit := do
  let d ← classData r
  let named (set : String → ClassData) : Exec Unit := do
    match ← text? v with
    | some t =>
      if id == "__name__" && t.points.contains 0 then
        valueError "type name must not contain null characters"
      setData r (.cls (set t.lossy))
    | none => typeError ("can only assign string to " ++ d.name ++ "." ++ id ++ ", not '" ++
        (← typeNameOf v) ++ "'")
  match id with
  | "__name__" => named fun n => { d with name := n }
  | "__qualname__" => named fun n => { d with qualifiedName := n }
  | "__mro__" | "__base__" => raiseError .attributeError "readonly attribute"
  | "__dict__" =>
    raiseError .attributeError "attribute '__dict__' of 'type' objects is not writable"
  | "__bases__" => replaceBases r v
  | "__class__" => setClassOf r v
  | _ => setClassName r id v

/-- Gives an object a dictionary as its own attributes. -/
def replaceAttrs (r v : Ref) : Exec Unit := do
  if ← isDict v then setAttrDict r v
  else
    typeError ("__dict__ must be set to a dictionary, not a '" ++ (← typeNameOf v) ++ "'")

/-- Sets an attribute of an exception that is kept in its data; `false` if it is not one of
these. -/
def setErrorAttribute (r : Ref) (e : ErrorData) (id : String) (v : Ref) : Exec Bool := do
  match id with
  | "args" =>
    match ← dataOf v with
    | .tuple items => setData r (.error { e with args := items })
    | .list items => setData r (.error { e with args := items.toList })
    | .str t =>
      let items ← t.points.mapM fun p => newText ⟨[p]⟩
      setData r (.error { e with args := items })
    | _ => typeError ("'" ++ (← typeNameOf v) ++ "' object is not iterable")
    return true
  | "__cause__" =>
    unless isNone v || (← isError v .baseException) do
      typeError "exception cause must be None or derive from BaseException"
    setData r (.error { e with cause := if isNone v then none else some v })
    putSlot r "__suppress_context__" trueRef
    return true
  | "__context__" =>
    unless isNone v || (← isError v .baseException) do
      typeError "exception context must be None or derive from BaseException"
    setData r (.error { e with context := if isNone v then none else some v })
    return true
  | "__traceback__" =>
    match ← dataOf v with
    | .traceback es => setData r (.error { e with trace := es })
    | _ =>
      if isNone v then setData r (.error { e with trace := [] })
      else typeError "__traceback__ must be a traceback or None"
    return true
  | "__suppress_context__" =>
    putSlot r id v
    return true
  | "__dict__" =>
    replaceAttrs r v
    return true
  | _ => return false

/-- Sets an attribute that a built-in type keeps in the data of an object. -/
def writeAttribute (k : Kind) (id : String) (r v : Ref) : Exec Unit := do
  if id == "__class__" then setClassOf r v
  else match ← dataOf r with
  | .error e => unless ← setErrorAttribute r e id v do putSlot r id v
  | .function f =>
    match id with
    | "__name__" | "__qualname__" =>
      match ← text? v with
      | some t =>
        setData r (.function (if id == "__name__" then { f with name := t.lossy }
          else { f with qualifiedName := t.lossy }))
      | none => typeError (id ++ " must be set to a string object")
    | "__module__" => setData r (.function { f with moduleName := some v })
    | "__doc__" => setData r (.function { f with doc := v })
    | "__annotations__" =>
      if isNone v then setData r (.function { f with annotations := none })
      else if ← isDict v then setData r (.function { f with annotations := some v })
      else typeError "__annotations__ must be set to a dict object"
    | "__kwdefaults__" =>
      if isNone v then setData r (.function { f with keywordDefaults := [] })
      else if ← isDict v then
        setData r (.function { f with keywordDefaults := ← namesOf v })
      else typeError "__kwdefaults__ must be set to a dict object"
    | "__code__" =>
      match ← dataOf v with
      | .code unit => setData r (.function { f with unit })
      | _ => typeError "__code__ must be set to a code object"
    | "__dict__" => replaceAttrs r v
    | "__defaults__" =>
      match ← dataOf v with
      | .tuple items => setData r (.function { f with defaults := items })
      | _ =>
        if isNone v then setData r (.function { f with defaults := [] })
        else typeError "__defaults__ must be set to a tuple object"
    | _ => putAttr r id v
  | .generator n q fr s g =>
    match id, ← text? v with
    | "__name__", some t => setData r (.generator t.lossy q fr s g)
    | "__qualname__", some t => setData r (.generator n t.lossy fr s g)
    | _, _ => typeError (id ++ " must be set to a string object")
  | .defaultDict es _ => setData r (.defaultDict es v)
  | _ =>
    raiseError .attributeError <|
      "attribute '" ++ id ++ "' of '" ++ k.fullName ++ "' objects is not writable"

/-- Refuses to set or delete an attribute that an object cannot have of its own. -/
def noOwnAttribute {α : Type} (r : Ref) (id : String) (f : Found) : Exec α := do
  if f.isFound then
    raiseError .attributeError
      ("'" ++ (← typeNameOf r) ++ "' object attribute '" ++ id ++ "' is read-only")
  else noAttribute r id

/-- The message for setting an attribute of a built-in type that is read-only. -/
def readOnlyMessage (k : Kind) (id : String) : String :=
  match k, id with
  | .range, _ | .slice, _ | .complex, _ | .method, _ | .code, _ | .property, _ =>
    "readonly attribute"
  | .module, "__dict__" => "readonly attribute"
  | _, _ => "attribute '" ++ id ++ "' of '" ++ k.fullName ++ "' objects is not writable"

/-- Sets an attribute by the descriptor that the class of the object holds for it. -/
def setThrough (p r v : Ref) : Exec Unit := do
  match ← userSpecial? p "__set__" with
  | some set => discard <| Ops.call set (.of [p, r, v])
  | none =>
    match ← dataOf p with
    | .property _ (some set) _ => discard <| Ops.call set (.of [r, v])
    | .property _ none _ => noPart p r "setter"
    | .slotOf of n =>
      checkDescribed n of r
      match n with
      | "__dict__" => replaceAttrs r v
      | "__weakref__" =>
        raiseError .attributeError
          ("attribute '" ++ n ++ "' of '" ++ (← of.shortName) ++ "' objects is not writable")
      | _ => putSlot r n v
    | .methodOf k n =>
      checkDescribed n (.builtin k) r
      match k.member? n with
      | some (.attribute true) => writeAttribute k n r v
      | _ => raiseError .attributeError (readOnlyMessage k n)
    | _ => raiseError .attributeError "__set__"

/-- Deletes an attribute by the descriptor that the class of the object holds for it. -/
def deleteThrough (p r : Ref) : Exec Unit := do
  match ← userSpecial? p "__delete__" with
  | some delete => discard <| Ops.call delete (.of [p, r])
  | none =>
    match ← dataOf p with
    | .property _ _ (some delete) => discard <| Ops.call delete (.of [r])
    | .property _ _ none => noPart p r "deleter"
    | .slotOf of n =>
      checkDescribed n of r
      match n with
      | "__dict__" => typeError "cannot delete __dict__"
      | "__weakref__" =>
        raiseError .attributeError
          ("attribute '" ++ n ++ "' of '" ++ (← of.shortName) ++ "' objects is not writable")
      | _ => unless ← dropSlot r n do raiseError .attributeError n
    | .methodOf k n =>
      checkDescribed n (.builtin k) r
      raiseError .attributeError (readOnlyMessage k n)
    | _ => raiseError .attributeError "__delete__"

/-- Sets an attribute of an object without asking its class's `__setattr__`. -/
def setOwnAttr (r : Ref) (id : String) (v : Ref) : Exec Unit := do
  match ← dataOf r with
  | .kind k => immutableType k id
  | .cls _ =>
    match ← (← classOf r).find id with
    | .value p => if ← isDataDescriptor p then setThrough p r v else setClassAttr r id v
    | _ => setClassAttr r id v
  | d =>
    let c ← classOf r
    match ← c.find id with
    | .member k (.attribute true) => writeAttribute k id r v
    | .member k (.attribute false) => raiseError .attributeError (readOnlyMessage k id)
    | f =>
      let descriptor ← f.isData
      match f, descriptor with
      | .value p, true => setThrough p r v
      | _, _ =>
        match d with
        | .module dict => putName dict id v
        | _ =>
          if ← c.hasAttrs then
            if id == "__dict__" then replaceAttrs r v else putAttr r id v
          else noOwnAttribute r id f

/-- Sets an attribute. -/
def setAttr (r : Ref) (id : String) (v : Ref) : Exec Unit := do
  match ← callSpecial? r "__setattr__" [← newStr id, v] with
  | some _ => return ()
  | none => setOwnAttr r id v

/-- Deletes an attribute of an object without asking its class's `__delattr__`. -/
def deleteOwnAttr (r : Ref) (id : String) : Exec Unit := do
  match ← dataOf r with
  | .kind k => immutableType k id
  | .cls d =>
    if ["__name__", "__qualname__", "__module__", "__bases__", "__doc__"].contains id then
      typeError ("cannot delete '" ++ id ++ "' attribute of immutable type '" ++ d.name ++ "'")
    else if id == "__class__" then typeError "can't delete __class__ attribute"
    else if (d.names.lookup id).isSome then
      setData r (.cls { d with names := d.names.filter (·.1 != id) })
    else raiseError .attributeError id
  | data =>
    let c ← classOf r
    match ← c.find id with
    | .member .object (.attribute true) => typeError "can't delete __class__ attribute"
    | .member (.error _) (.attribute true) =>
      match id with
      | "args" | "__traceback__" | "__context__" | "__cause__" =>
        typeError (id ++ " may not be deleted")
      | _ => putSlot r id noneRef
    | .member .defaultDict (.attribute true) => writeAttribute .defaultDict id r noneRef
    | .member k (.attribute _) => raiseError .attributeError (readOnlyMessage k id)
    | f =>
      let descriptor ← f.isData
      match f, descriptor with
      | .value p, true =>
        deleteThrough p r
      | _, _ =>
        match data with
        | .module dict =>
          unless ← removeName dict id do
            raiseError .attributeError ("'module' object has no attribute '" ++ id ++ "'")
        | _ =>
          if ← c.hasAttrs then
            if id == "__dict__" then typeError "cannot delete __dict__"
            unless ← dropAttr r id do noAttribute r id
          else noOwnAttribute r id f

/-- Deletes an attribute. -/
def deleteAttr (r : Ref) (id : String) : Exec Unit := do
  match ← callSpecial? r "__delattr__" [← newStr id] with
  | some _ => return ()
  | none => deleteOwnAttr r id

end

end GuestBridge.Guest
