import GuestBridge.Guest.Functions

/-!
# Calling members of built-in types

A method of a built-in type works on the data of its object. Special methods can be called by name,
too, and then do what the operators do for objects of the type.
-/

namespace GuestBridge.Guest

open Script Number

section
variable [Ops]

/-- The methods of mutable byte strings that byte strings do not have. -/
def changesBytes (id : String) : Bool :=
  ["append", "extend", "remove", "pop", "insert", "clear", "copy", "reverse"].contains id

/-- How many arguments a method of a built-in type takes. -/
def memberArity (k : Kind) (id : String) : Arity :=
  match k with
  | .str => textArity id
  | .bytes => bytesArity id
  | .bytearray => if changesBytes id then sequenceArity k id else bytesArity id
  | .list | .tuple | .range | .slice | .deque | .memoryview => sequenceArity k id
  | .textBuffer | .textStream => streamArity id
  | .int | .float | .complex | .generator | .error _ | .property | .object | .type =>
    scalarArity k id
  | .outputSink => .any
  | _ => if id == "__setstate__" then .one else tableArity k id

/-- A method of every object or class. -/
def objectMethod (self : Ref) (id : String) (a : Args) : Exec Ref := do
  match id with
  | "__dir__" => do newList (← (← namesOfObject self).mapM newStr)
  | "__sizeof__" => newInt 16
  | "__init_subclass__" =>
    if !a.positional.isEmpty || !a.keywords.isEmpty then
      let shown ← match ← class? self with
        | some c => c.shortName
        | none => pure "object"
      if !a.keywords.isEmpty then
        typeError (shown ++ ".__init_subclass__() takes no keyword arguments")
      typeError (shown ++ ".__init_subclass__() takes no arguments (" ++
        toString a.positional.length ++ " given)")
    return noneRef
  | "__subclasshook__" => return notImplementedRef
  | "__instancecheck__" => do
    match ← class? self with
    | some c => return boolRef (← belongsTo (a.at 0) c)
    | none =>
      match ← dataOf self with
      | .union _ => return boolRef (← isInstance (a.at 0) self)
      | _ => return falseRef
  | "__subclasscheck__" => do
    match ← class? self, ← class? (a.at 0) with
    | some c, some d => return boolRef (← d.extends c)
    | none, some d => return boolRef (← isSubclass d 100 self)
    | _, none => typeError "issubclass() arg 1 must be a class"
  | "mro" => do
    match ← class? self with
    | some (.user r) => newList ((← orderFrom (.user r) (← classData r).bases).map Class.ref)
    | some c => newList ((← c.order).map Class.ref)
    | none => newList []
  | "__subclasses__" => do
    newList (← ((← class? self).getD (.builtin .object)).below)
  | "__reduce__" | "__reduce_ex__" =>
    typeError ("cannot pickle '" ++ (← typeNameOf self) ++ "' object")
  | "__mro_entries__" => do
    match ← dataOf self with
    | .alias origin _ => newTuple [origin]
    | _ => newTuple []
  | _ => raiseError .notImplementedError id

/-- The method by which an object of a built-in type takes a specification. -/
def formatMethod (k : Kind) (self : Ref) (a : Args) : Exec Ref := do
  let spec ← textArg "__format__()" "argument" (a.at 0)
  if k == .object && !spec.points.isEmpty then
    typeError ("unsupported format string passed to " ++ (← typeNameOf self) ++ ".__format__")
  newText (← formatData self spec)

/-- How many elements an iterator has left, as far as it knows. -/
def remainingHint (self : Ref) : Exec Nat := do
  match ← dataOf self with
  | .cursor (.sequence r i) => return ((← sizeOfData (← dataOf r)).getD i) - i
  | .cursor (.backwards _ i) | .cursor (.dictBackwards _ _ i _) => return i
  | .cursor (.range _ _ left) | .cursor (.dict _ _ _ _ left) => return left
  | .cursor (.set _ left _) => return left.length
  | .cursor (.deque _ i n) => return n - i
  | _ => return 0

/-- Calls an ordinary method of a built-in type on an object. -/
def callMethod (k : Kind) (id : String) (self : Ref) (a : Args) : Exec Ref := do
  checkArity (k.name ++ "." ++ id) id (memberArity k id) a
  if id == "__format__" then formatMethod k self a
  else if id == "__length_hint__" then newInt (← remainingHint self)
  else
    match k, ← dataOf self with
    | .object, _ | .type, _ => objectMethod self id a
    | _, .str t => textMethod self t id a
    | _, .bytes bs => bytesMethod false self bs id a
    | _, .bytearray bs =>
      match ← bytearrayMethod? self bs id a with
      | some r => return r
      | none => bytesMethod true self bs id a
    | _, .list items => listMethod self items id a
    | _, .tuple items => tupleMethod items id a
    | .orderedDict, .dict _ =>
      match ← orderedMethod? self id a with
      | some r => return r
      | none => dictMethod self id a
    | _, .dict _ | _, .defaultDict _ _ => dictMethod self id a
    | _, .set t => setMethod self t id a
    | _, .view of part => viewMethod of part id a
    | _, .proxy of => proxyMethod of id a
    | _, .deque items limit => dequeMethod self items limit id a
    | _, .range b e s => rangeMethod self b e s id a
    | _, .slice b e s => sliceMethod b e s id a
    | _, .memory of w => memoryMethod self of w id a
    | _, .int n => intMethod n id a
    | _, .float b => floatMethod b id a
    | _, .complex re im => complexMethod self re im id
    | _, .generator _ _ _ _ _ => generatorMethod self id a
    | _, .error e => errorMethod self e id a
    | _, .property g s d => propertyMethod self g s d id a
    | _, .textBuffer t i => bufferMethod self t i id a
    | _, .stream n => streamMethod self n id a
    | _, .sink s => sinkMethod s id a
    | _, _ => objectMethod self id a

/-- The number that a text in base sixteen with a power of two stands for, read as far as it
goes. -/
def readHexFloat? (cs : List Char) : Option Nat :=
  let (negative, cs) := signOf cs
  let lower := cs.map Char.toLower
  if lower == "inf".toList || lower == "infinity".toList then
    some (withSign binary64 negative binary64.infinity)
  else if lower == "nan".toList then some (withSign binary64 negative binary64.notANumber)
  else
    let cs := if "0x".toList.isPrefixOf lower then lower.drop 2 else lower
    let isHex (c : Char) : Bool := wideDigit c < 16
    let whole := cs.takeWhile isHex
    let rest := cs.dropWhile isHex
    let (part, rest) := match rest with
      | '.' :: r => (r.takeWhile isHex, r.dropWhile isHex)
      | r => ([], r)
    let exponent? : Option Int := match rest with
      | [] => some 0
      | 'p' :: r =>
        let (down, ds) := signOf r
        if ds.isEmpty || !ds.all Char.isDigit then none
        else
          let n : Int := (ds.foldl (fun n d => n * 10 + wideDigit d) 0 : Nat)
          some (if down then -n else n)
      | _ => none
    let digits := whole ++ part
    match exponent?, digits with
    | none, _ | _, [] => none
    | some e, _ =>
      let n := digits.foldl (fun n d => n * 16 + wideDigit d) 0
      let shift := e - 4 * part.length
      let bits? := if shift ≥ 0 then ofRatio? binary64 (n * Nat.pow 2 (min shift.toNat 5000)) 1
        else ofRatio? binary64 n (Nat.pow 2 (min (-shift).toNat 5000))
      bits?.map (withSign binary64 negative)

/-- A method of a built-in type that belongs to the type. -/
def callClassMethod (k : Kind) (id : String) (cls : Ref) (a : Args) : Exec Ref := do
  let converted (r : Ref) : Exec Ref := do if cls == k.ref then return r else Ops.call cls (.of [r])
  match k, id with
  | .int, "from_bytes" => do converted (← newInt (← integerOfBytes a))
  | .float, "fromhex" =>
    checkArity "float.fromhex" id .one a
    let t ← textArg "fromhex()" "argument" (a.at 0)
    match readHexFloat? (numeralChars t.points) with
    | some b => do converted (← newFloat b)
    | none => valueError "invalid hexadecimal floating-point string"
  | .dict, "fromkeys" | .orderedDict, "fromkeys" =>
    let keys ← if k == .dict then do
        checkArity "dict.fromkeys" id (.between 1 2) a
        pure (a.at 0, a.at 1)
      else do
        let vs ← bindNamed id (.requiring 1 ["iterable", "value"]) a
        pure (orNone (parameter? vs 0), orNone (parameter? vs 1))
    let out ← Ops.call cls (.of [])
    for x in ← elements keys.1 do
      setItem out x keys.2
    return out
  | .bytes, "fromhex" | .bytearray, "fromhex" =>
    checkArity (k.name ++ ".fromhex") id .one a
    converted (← newBytesLike (k == .bytearray) (← bytesFromHex (a.at 0)))
  | _, "__class_getitem__" => newAlias cls (a.at 0)
  | _, _ => objectMethod cls id a

/-- The object that the `__new__` of a built-in type makes for a class. -/
def newInstance (k : Kind) (a : Args) : Exec Ref := do
  match a.positional with
  | [] => typeError (k.name ++ ".__new__(): not enough arguments")
  | cls :: rest =>
    match ← class? cls with
    | none =>
      typeError (k.name ++ ".__new__(X): X is not a type object (" ++ (← typeNameOf cls) ++ ")")
    | some c =>
      unless ← c.extendsKind k do
        let n ← c.fullName
        typeError (k.name ++ ".__new__(" ++ n ++ "): " ++ n ++ " is not a subtype of " ++ k.name)
      if k == .type then newType c ⟨rest, a.keywords⟩
      else
        let base ← c.baseKind
        if k == .object && base != .object then
          typeError ("object.__new__(" ++ (← c.shortName) ++ ") is not safe, use " ++ base.name ++
            ".__new__()")
        let isOwn (id : String) : Exec Bool := do
          match ← c.find id with
          | .value _ => return true
          | _ => return false
        let init ← isOwn "__init__"
        let extra := !rest.isEmpty || !a.keywords.isEmpty
        if k == .object && extra then
          if ← isOwn "__new__" then
            typeError "object.__new__() takes exactly one argument (the type to instantiate)"
          if !init then typeError ((← c.shortName) ++ "() takes no arguments")
        create c base (init || k == .object) ⟨rest, a.keywords⟩

/-- A function of a built-in type that gets neither object nor class. -/
def callStatic (k : Kind) (id : String) (a : Args) : Exec Ref := do
  match k, id with
  | _, "__new__" => newInstance k a
  | .str, "maketrans" => translationTable a
  | _, "maketrans" => byteTable a
  | _, _ => raiseError .notImplementedError id

/-! ### Special methods by name -/

/-- The operator whose special method has the given name, and whether it is reflected. -/
def operatorOf? (id : String) : Option (BinaryOp × Bool) :=
  let ops : List BinaryOp := [.add, .sub, .mul, .div, .floorDiv, .mod, .pow, .bitOr, .bitAnd,
    .bitXor, .shiftLeft, .shiftRight]
  ops.findSome? fun op =>
    if id == "__" ++ operatorStem op ++ "__" then some (op, false)
    else if id == "__r" ++ operatorStem op ++ "__" then some (op, true)
    else none

/-- The comparison whose special method has the given name. -/
def comparisonOf? (id : String) : Option CompareOp :=
  ([.lt, .le, .gt, .ge, .eq, .ne] : List CompareOp).find? fun op => compareName op == id

/-- Fills an object of a built-in type again, as its initialiser does. -/
def initialise (self : Ref) (a : Args) : Exec Unit := do
  let c ← classOf self
  match ← dataOf self with
  | .list _ => setData self (.list (← elementsArg "list" a).toArray)
  | .bytearray _ => setBytes self (← bytesFromArgs "bytearray" a)
  | .dict _ => updateDict self "dict" a
  | .defaultDict es _ =>
    let f := a.at 0
    if !isNone f && !(← isCallable f) then typeError "first argument must be callable or None"
    setData self (.defaultDict es f)
    updateDict self "dict" ⟨a.positional.drop 1, a.keywords⟩
  | .set _ =>
    if ← isKind self .set then setData self (.set (← tableArg "set" a))
  | .deque _ _ =>
    let (items, limit) ← dequeFrom a
    setData self (.deque items limit)
  | .error e =>
    match ← c.baseKind with
    | .error k =>
      -- exceptions of the operating system are filled when they are made, unless by a script
      if k.lineage.contains .osError then
        match ← c.find "__init__" with
        | .value _ =>
          setData self (.error { e with args := systemErrorArgs a.positional })
          fillError self c k a
        | _ => return ()
      else
        setData self (.error { e with args := a.positional })
        fillError self c k a
    | _ => return ()
  | .module d =>
    let vs ← bindNamed "module" (.requiring 1 ["name", "doc"]) a
    putName d "__name__" (orNone (parameter? vs 0))
    putName d "__doc__" (orNone (parameter? vs 1))
    for id in ["__package__", "__loader__", "__spec__"] do
      if (← getName d id).isNone then putName d id noneRef
  | .property _ _ _ =>
    let vs ← bindNamed "property" (.optional ["fget", "fset", "fdel", "doc"]) a
    let part (i : Nat) : Option Ref := (parameter? vs i).filter (!isNone ·)
    let made ← newProperty c (part 0) (part 1) (part 2) (part 3)
    setData self (← dataOf made)
    putSlot self "__doc__" (orNone (← slot? made "__doc__"))
  | .wrapped _ => setData self (.wrapped (a.at 0))
  | .textBuffer _ _ => startBuffer self a
  | .plain =>
    if ← isKind self .simpleNamespace then
      if !a.positional.isEmpty then typeError "no positional arguments expected"
      for (t, v) in a.keywords do putAttr self t.lossy v
    else
      let isOwn (id : String) : Exec Bool := do
        match ← c.find id with
        | .value _ => return true
        | _ => return false
      if !a.positional.isEmpty || !a.keywords.isEmpty then
        if ← isOwn "__init__" then
          typeError "object.__init__() takes exactly one argument (the instance to initialize)"
        unless ← isOwn "__new__" do typeError ((← c.shortName) ++ "() takes no arguments")
  | _ => return ()

/-- Calls a special method of a built-in type on an object. -/
def callSlot (k : Kind) (id : String) (self : Ref) (a : Args) : Exec Ref := do
  let d ← dataOf self
  let x := a.at 0
  let given := a.positional.length
  let need (n : Nat) : Exec Unit := do
    if given != n then
      typeError ("expected " ++ toString n ++ " " ++ argumentWord n ++ ", got " ++ toString given)
  let orNot (r : Option Ref) : Ref := r.getD notImplementedRef
  if !a.keywords.isEmpty && id != "__init__" && id != "__call__" then
    typeError ("wrapper " ++ id ++ "() takes no keyword arguments")
  match id with
  | "__call__" => Ops.call self a
  | "__init__" => do
    initialise self a
    return noneRef
  | "__repr__" => do
    need 0
    newText (← if k == .object then plainRepr self else reprData self d)
  | "__str__" => do
    need 0
    newText (← match d with
      | .error e => errorStr self e
      | .str t => pure t
      | _ => Ops.repr self)
  | "__hash__" => do
    need 0
    newInt (← if k == .object then pure (self.id : Int) else hashData self d)
  | "__len__" => do
    need 0
    if let .memory _ _ := d then checkHeld self
    match ← sizeOfData d with
    | some n => newInt n
    | none => typeError ("object of type '" ++ (← typeNameOf self) ++ "' has no len()")
  | "__bool__" => do
    need 0
    return boolRef (((d.num?).map Num.truth).getD ((← sizeOfData d) != some 0))
  | "__iter__" => do
    need 0
    match ← iterData? self d with
    | some r => return r
    | none => return self
  | "__next__" => do
    need 0
    match d with
    | .generator _ _ _ _ _ =>
      match ← resume self (.ok noneRef) with
      | .yielded v => return v
      | .finished v => stopIteration v
    | _ =>
      match ← Ops.next self with
      | some v => return v
      | none => stopIteration noneRef
  | "__contains__" => do
    need 1
    return boolRef (← containsData self d x)
  | "__getitem__" => do
    need 1
    match d with
    | .dict _ | .defaultDict _ _ => dictItem self x
    | .proxy of => dictItem of x
    | _ => sequenceItem self d ((← sizeOfData d).getD 0) x
  | "__setitem__" => do
    need 2
    match d with
    | .dict _ | .defaultDict _ _ => putKey self x (a.at 1)
    | _ => discard <| setSequenceItem self d x (a.at 1)
    return noneRef
  | "__delitem__" => do
    need 1
    match d with
    | .dict _ | .defaultDict _ _ =>
      match ← removeKey self x with
      | some _ => pure ()
      | none => missingKey x
    | _ => discard <| deleteSequenceItem self d x
    return noneRef
  | "__getattribute__" => do
    need 1
    ownAttr self (← changedName x)
  | "__setattr__" => do
    need 2
    setOwnAttr self (← changedName x) (a.at 1)
    return noneRef
  | "__delattr__" => do
    need 1
    deleteOwnAttr self (← changedName x)
    return noneRef
  | "__set__" => do
    need 2
    setThrough self x (a.at 1)
    return noneRef
  | "__delete__" => do
    need 1
    deleteThrough self x
    return noneRef
  | "__int__" | "__index__" | "__trunc__" => do
    match d with
    | .int n => newInt n
    | .float b => do newInt (← floatToInt b)
    | _ => raiseError .notImplementedError id
  | "__float__" => do
    match d with
    | .int n => do newFloat (← intToFloat n)
    | .float b => newFloat b
    | _ => raiseError .notImplementedError id
  | "__neg__" | "__pos__" | "__invert__" | "__abs__" => do
    match d.num? with
    | some n =>
      match id with
      | "__neg__" => newNum n.neg
      | "__pos__" => newNum n
      | "__abs__" => globalFunction "abs" (.of [self])
      | _ => unaryOp .invert self
    | none => raiseError .notImplementedError id
  | "__get__" => do
    if given == 0 then typeError "expected at least 1 argument, got 0"
    if given > 2 then typeError ("expected at most 2 arguments, got " ++ toString given)
    let of? ← class? (a.at 1)
    if isNone x then
      match of? with
      | some c => bindClassValue self c
      | none => typeError "__get__(None, None) is invalid"
    else bindValue self x (of?.getD (← classOf x))
  | "__del__" => return noneRef
  | "__divmod__" => do
    need 1
    divideWithRest self x
  | "__rdivmod__" => do
    need 1
    divideWithRest x self
  | _ =>
    match comparisonOf? id with
    | some op => do
      need 1
      return orNot (← if k == .object && op != .ne then
          pure (if isEquality op && self == x then some trueRef else none)
        else compareData op self x d (← dataOf x))
    | none =>
      match operatorOf? id with
      | some (op, false) => do
        need 1
        return orNot (← binaryData op self x d (← dataOf x))
      | some (op, true) => do
        need 1
        return orNot (← binaryData op x self (← dataOf x) d)
      | none =>
        if id.startsWith "__i" then
          let plain := "__" ++ String.ofList (id.toList.drop 3)
          match operatorOf? plain with
          | some (op, _) => augmentOp op self x
          | none => raiseError .notImplementedError id
        else raiseError .notImplementedError id

/-- Calls a member of a built-in type that is bound to an object. -/
def callBound (k : Kind) (id : String) (self : Ref) (a : Args) : Exec Ref := do
  match k.member? id with
  | some .slot => callSlot k id self a
  | some .classMethod => callClassMethod k id self a
  | some .staticMethod => callStatic k id a
  | _ => callMethod k id self a

/-- Calls a member of a built-in type that is not bound: its object is the first argument. -/
def callUnbound (k : Kind) (id : String) (a : Args) : Exec Ref := do
  let isSlot := k.slots.contains id
  match a.positional with
  | [] =>
    if isSlot then typeError ("descriptor '" ++ id ++ "' of '" ++ k.fullName ++
      "' object needs an argument")
    else typeError ("unbound method " ++ k.name ++ "." ++ id ++ "() needs an argument")
  | self :: rest =>
    if ← isKind self k then callBound k id self ⟨rest, a.keywords⟩
    else if isSlot then
      typeError ("descriptor '" ++ id ++ "' requires a '" ++ k.fullName ++
        "' object but received a '" ++ (← typeNameOf self) ++ "'")
    else
      typeError ("descriptor '" ++ id ++ "' for '" ++ k.fullName ++
        "' objects doesn't apply to a '" ++ (← typeNameOf self) ++ "' object")

/-! ### Calls -/

/-- Calls an object that is not a function of a script. -/
def callObject (r : Ref) (a : Args) : Exec Ref := do
  let user ← userSpecial? r "__call__"
  match user, ← class? r with
  | _, some c => callClass r c a
  | some f, none =>
    match ← dataOf f with
    | .function _ => Ops.call f ⟨r :: a.positional, a.keywords⟩
    | _ => Ops.call (← bindValue f r (← classOf r)) a
  | none, none =>
    match ← dataOf r with
    | .builtin m id => callBuiltin m id a
    | .bound k id self => callBound k id self a
    | .methodOf k id => callUnbound k id a
    | .method f self => Ops.call f ⟨self :: a.positional, a.keywords⟩
    | .wrapped f =>
      if ← isKind r .staticMethod then Ops.call f a
      else typeError "'classmethod' object is not callable"
    | .alias o _ => Ops.call o a
    | .weakReference t =>
      if !a.keywords.isEmpty then typeError "weakref() takes no keyword arguments"
      if !a.positional.isEmpty then
        typeError ("weakref expected 0 arguments, got " ++ toString a.positional.length)
      let m ← get
      return if m.isAlive t then t else noneRef
    | _ => typeError ("'" ++ (← typeNameOf r) ++ "' object is not callable")

end

end GuestBridge.Guest
