import GuestBridge.Guest.Classes
import GuestBridge.Guest.Method.Scalar
import GuestBridge.Guest.Method.Sequence
import GuestBridge.Guest.Method.Table
import GuestBridge.Guest.Numeral
import GuestBridge.Guest.Reach

/-!
# Constructors of built-in types

What calling a built-in type makes. The same constructors serve classes of a script that extend a
built-in type: the object is then one of that class with the data of the built-in type.
-/

namespace GuestBridge.Guest

open Number

section
variable [Ops]

/-! ### Parts of constructors -/

/-- A new object of a class with data of a built-in type. -/
def make (c : Class) (d : Data) : Exec Ref := alloc { cls := c, data := d }

/-- The object of an integer, in a class that may extend `int`. -/
def makeInt (c : Class) (n : Int) : Exec Ref :=
  if c == .builtin .int then newInt n else make c (.int n)

/-- The object of a text, in a class that may extend `str`. -/
def makeText (c : Class) (t : Text) : Exec Ref :=
  if c == .builtin .str then newText t else make c (.str t)

/-- Checks the number of arguments of a constructor that takes no keywords. -/
def checkConstructor (name : String) (least most : Nat) (a : Args) : Exec Unit := do
  checkArity name name (.between least most) a

/-- Whether an object can be called. -/
def isCallable (r : Ref) : Exec Bool := do
  match ← dataOf r with
  | .function _ | .builtin _ _ | .kind _ | .cls _ | .method _ _ | .bound _ _ _ | .methodOf _ _
  | .alias _ _ | .weakReference _ => return true
  | .wrapped _ => isKind r .staticMethod
  | _ => return (← userSpecial? r "__call__").isSome

/-- The integer that the arguments of `int` give. -/
def intFrom (a : Args) : Exec Int := do
  let vs ← bindNamed "int" (.optional ["", "base"]) a
  match parameter? vs 0, parameter? vs 1 with
  | none, none => return 0
  | some x, none => toInteger x
  | none, some _ => typeError "int() missing string argument"
  | some x, some b =>
    let base ← index b
    if base != 0 && (base < 2 || base > 36) then
      valueError "int() base must be >= 2 and <= 36, or 0"
    match ← dataOf x with
    | .str t => integerOfText base.toNat x t.points
    | .bytes bs | .bytearray bs => integerOfText base.toNat x (bs.map UInt8.toNat)
    | _ => typeError "int() can't convert non-string with explicit base"

/-- The text that the arguments of `str` give. -/
def textFrom (a : Args) : Exec Text := do
  let vs ← bindNamed "str" (.optional ["object", "encoding", "errors"]) a
  let encoding := parameter? vs 1
  let policy := parameter? vs 2
  if encoding.isNone && policy.isNone then
    match parameter? vs 0 with
    | some x => Ops.str x
    | none => return .empty
  else
    let (e, p) ← codingArgs "str" encoding policy
    match parameter? vs 0 with
    | none => return .empty
    | some x =>
      match ← bytes? x with
      | some bs => decodeWith e p bs
      | none =>
        if (← text? x).isSome then typeError "decoding str is not supported"
        else
          typeError ("decoding to str: need a bytes-like object, " ++ (← typeNameOf x) ++ " found")

/-- The bytes that an object without text converts to. -/
def bytesFromObject (name : String) (x : Ref) : Exec (List UInt8) := do
  let refuse : Exec (List UInt8) := do
    typeError ("cannot convert '" ++ (← typeNameOf x) ++ "' object to " ++ name)
  let byte (v : Ref) : Exec UInt8 := do
    let n ← index v
    if 0 ≤ n && n < 256 then return n.toNat.toUInt8
    else valueError (if name == "bytes" then "bytes must be in range(0, 256)"
      else "byte must be in range(0, 256)")
  let special ← if name == "bytes" then callSpecial? x "__bytes__" [] else pure none
  match special with
  | some v =>
    match ← dataOf v with
    | .bytes bs => return bs
    | _ => typeError ("__bytes__ returned non-bytes (type " ++ (← typeNameOf v) ++ ")")
  | none =>
    match ← bytes? x with
    | some bs => return bs
    | none =>
      match ← index? x with
      | some _ =>
        let n ← sizeIndex .overflowError x
        if n < 0 then valueError "negative count"
        checkSpace n
        return List.replicate n.toNat 0
      | none =>
        match ← iter? x with
        | some _ => (← elements x).mapM byte
        | none => refuse

/-- The bytes that the arguments of a constructor give. -/
def bytesFromArgs (name : String) (a : Args) : Exec (List UInt8) := do
  let vs ← bindNamed name (.optional ["source", "encoding", "errors"]) a
  let encoding := parameter? vs 1
  let policy := parameter? vs 2
  let (e, p) ← codingArgs name encoding policy
  let missing (what : String) : Exec (List UInt8) :=
    typeError (what ++ " without a string argument")
  match parameter? vs 0 with
  | none =>
    if encoding.isSome then missing "encoding"
    else if policy.isSome then missing "errors"
    else return []
  | some x =>
    match ← text? x, encoding, policy with
    | some t, some _, _ => encodeWith e p t
    | some _, none, _ => typeError "string argument without an encoding"
    | none, some _, _ => missing "encoding"
    | none, none, some _ => missing "errors"
    | none, none, none => bytesFromObject name x

/-- The only argument of a constructor, if it was given. -/
def soleArg (name : String) (a : Args) : Exec (Option Ref) := do
  checkConstructor name 0 1 a
  return a.at? 0

/-- The elements that the only argument of a constructor gives. -/
def elementsArg (name : String) (a : Args) : Exec (List Ref) := do
  match ← soleArg name a with
  | some x => elements x
  | none => return []

/-- The table of a set that the only argument of a constructor gives. -/
def tableArg (name : String) (a : Args) : Exec SetTable := do
  match ← soleArg name a with
  | some x => uniteElements .empty x
  | none => return .empty

/-- The bounds that the arguments of `range` give. -/
def rangeFrom (c : Class) (a : Args) : Exec Ref := do
  checkConstructor "range" 1 3 a
  let ns ← a.positional.mapM index
  match ns with
  | [b] => make c (.range 0 b 1)
  | [x, b] => make c (.range x b 1)
  | [x, b, s] =>
    if s == 0 then valueError "range() arg 3 must not be zero" else make c (.range x b s)
  | _ => typeError "range expected at least 1 argument, got 0"

/-- The iterator behind `reversed`. -/
def reversedFrom (c : Class) (r : Ref) : Exec Ref := do
  let refuse : Exec Ref := do
    typeError ("'" ++ (← typeNameOf r) ++ "' object is not reversible")
  match ← userSpecial? r "__reversed__" with
  | some f => if isNone f then refuse else callValue f r []
  | none =>
    match ← dataOf r with
    | .list items => newCursor .listReverseIterator (.backwards r items.size)
    | .deque items _ =>
      newCursor .dequeReverseIterator (.dequeBackwards r items.length items.length)
    | .tuple items => make c (.cursor (.backwards r items.length))
    | .str t => make c (.cursor (.backwards r t.length))
    | .bytes bs | .bytearray bs => make c (.cursor (.backwards r bs.length))
    | .memory _ w => do
      checkHeld r
      make c (.cursor (.backwards r w.count))
    | .range a b s =>
      let n := rangeLength a b s
      newCursor .rangeIterator (.range (a + (n - 1) * s) (-s) n)
    | .dict _ | .defaultDict _ _ => newBackwardDictCursor r .keys
    | .view of part => newBackwardDictCursor of part
    | .proxy of => newBackwardDictCursor of .keys
    | _ =>
      match ← userSpecial? r "__getitem__" with
      | some _ =>
        match ← length? r with
        | some n => make c (.cursor (.subscriptsBackwards r ((n : Int) - 1)))
        | none => typeError ("object of type '" ++ (← typeNameOf r) ++ "' has no len()")
      | none => refuse

/-- The counting iterator that the arguments of `enumerate` give. -/
def enumerateFrom (c : Class) (a : Args) : Exec Ref := do
  let total := a.positional.length + a.keywords.length
  if total == 0 then typeError "enumerate() missing required argument 'iterable'"
  if total > 2 then
    typeError ("enumerate() takes at most 2 arguments (" ++ toString total ++ " given)")
  onlyKeywords "enumerate" (["iterable", "start"].drop a.positional.length) a
  match a.named? 0 "iterable" with
  | none => typeError "'start' is an invalid keyword argument for enumerate()"
  | some x =>
    let start ← match a.named? 1 "start" with
      | some s => index s
      | none => pure 0
    make c (.cursor (.enumerate (← iter x) start))

/-- The queue that the arguments of `deque` give: its elements and its bound. -/
def dequeFrom (a : Args) : Exec (List Ref × Option Nat) := do
  let vs ← bindNamed "deque" (.optional ["iterable", "maxlen"]) a
  let limit ← match (parameter? vs 1).filter (!isNone ·) with
    | none => pure none
    | some n =>
      match ← dataOf n with
      | .int m =>
        if m < 0 then valueError "maxlen must be non-negative" else pure (some m.toNat)
      | _ => typeError "an integer is required"
  let items ← match parameter? vs 0 with
    | some x => elements x
    | none => pure []
  return (bounded limit false items, limit)

/-- A weak reference; there is one for each object, apart from those with a callback. -/
def weakReferenceTo (c : Class) (a : Args) : Exec Ref := do
  checkArity "ref" "__new__" (.between 1 2) a
  let target := a.at 0
  unless ← (← classOf target).allowsWeakReferences do
    typeError ("cannot create weak reference to '" ++ (← typeNameOf target) ++ "' object")
  match (a.at? 1).filter (!isNone ·) with
  | some f =>
    let r ← make c (.weakReference target)
    putSlot r "__callback__" f
    modify fun m => { m with watched := target :: m.watched }
    return r
  | none =>
    let m ← get
    let alive := m.alive
    let known := (List.range m.heap.size).find? fun i =>
      let o := m.heap.getD i default
      let same := match o.data with
        | .weakReference t => t == target
        | _ => false
      same && o.slots.isEmpty && o.cls == c && c == .builtin .weakReference && alive.getD i false
    match known with
    | some i => return ⟨i⟩
    | none => make c (.weakReference target)

/-- The class and the object that `super` without arguments finds in the function that calls it. -/
def superContext : Exec (Ref × Ref) := do
  match (← get).frames.head? with
  | none => raiseError .runtimeError "super(): no current frame"
  | some f =>
    let code := (← get).code.getD f.unit default
    let first := code.signature.positional.head?
    match first with
    | none => raiseError .runtimeError "super(): no arguments"
    | some id =>
      match ← readVariable f id with
      | none => raiseError .runtimeError "super(): arg[0] deleted"
      | some self =>
        if (f.cells.lookup "__class__").isNone then
          raiseError .runtimeError "super(): __class__ cell not found"
        match ← readVariable f "__class__" with
        | some c => return (c, self)
        | none => raiseError .runtimeError "super(): empty __class__ cell"

/-- The view of an object as one of the classes above a class. -/
def superFrom (c : Class) (a : Args) : Exec Ref := do
  checkConstructor "super" 0 2 a
  let (kind, self) ← match a.positional with
    | [] => do
      let (k, s) ← superContext
      pure (k, some s)
    | k :: rest => pure (k, rest.head?.filter (!isNone ·))
  match ← class? kind with
  | none => typeError ("super() argument 1 must be a type, not " ++ (← argumentType kind))
  | some above =>
    match self with
    | none => make c (.upward above none above)
    | some s =>
      let asClass ← match ← class? s with
        | some k => if ← k.extends above then pure (some k) else pure none
        | none => pure none
      let own ← classOf s
      match asClass with
      | some k => make c (.upward above (some s) k)
      | none =>
        if ← own.extends above then make c (.upward above (some s) own)
        else typeError "super(type, obj): obj must be an instance or subtype of type"

/-! ### Exceptions -/

/-- The exception types that stand for error numbers of the operating system. -/
def errnoKind? : Int → Option ErrorKind
  | 1 | 13 => some .permissionError
  | 2 => some .fileNotFoundError
  | 3 => some .processLookupError
  | 4 => some .interruptedError
  | 10 => some .childProcessError
  | 11 | 114 | 115 => some .blockingIOError
  | 17 => some .fileExistsError
  | 20 => some .notADirectoryError
  | 21 => some .isADirectoryError
  | 32 | 108 => some .brokenPipeError
  | 103 => some .connectionAbortedError
  | 104 => some .connectionResetError
  | 110 => some .timeoutError
  | 111 => some .connectionRefusedError
  | _ => none

/-- The built-in type by whose rules the keywords of an exception type go, and the keywords. -/
def errorKeywords (k : ErrorKind) : Option (ErrorKind × List String) :=
  if k.lineage.contains .importError then some (.importError, ["name", "path"])
  else if k.lineage.contains .attributeError then some (.attributeError, ["name", "obj"])
  else if k.lineage.contains .nameError then some (.nameError, ["name"])
  else none

/-- Refuses keywords that an exception type does not take. -/
def checkErrorKeywords (c : Class) (k : ErrorKind) (a : Args) : Exec Unit := do
  match errorKeywords k with
  | none =>
    if !a.keywords.isEmpty then typeError ((← c.shortName) ++ "() takes no keyword arguments")
  | some (owner, allowed) =>
    match a.keywords.find? fun (t, _) => !allowed.contains t.lossy with
    | some (t, _) =>
      typeError ("'" ++ t.lossy ++ "' is an invalid keyword argument for " ++ owner.name)
    | none => return ()

/-- Refuses arguments that do not describe a fault of an encoding. -/
def checkCodingArgs (k : ErrorKind) (a : Args) : Exec Unit := do
  let translating := k.lineage.contains .unicodeTranslateError
  let count := if translating then 4 else 5
  let given := a.positional.length
  if given != count then
    typeError ("function takes exactly " ++ toString count ++ " arguments (" ++ toString given ++
      " given)")
  let text (i : Nat) : Exec Unit := do
    discard <| textArg "argument" (toString (i + 1)) (a.at i)
  let first := if translating then 0 else 1
  if !translating then text 0
  if k.lineage.contains .unicodeDecodeError then
    if (← bytes? (a.at 1)).isNone then
      typeError ("a bytes-like object is required, not '" ++ (← typeNameOf (a.at 1)) ++ "'")
  else text first
  discard <| sizeArg (a.at (first + 1))
  discard <| sizeArg (a.at (first + 2))
  text (first + 3)

/-- Refuses a place of a syntax error that is not told by four or six values. -/
def checkPlaceArgs (info : Ref) : Exec Unit := do
  let n := (← elements info).length
  let counts (bound : String) : String :=
    "function takes at " ++ bound ++ " arguments (" ++ toString n ++ " given)"
  if n < 4 then typeError (counts "least 4")
  else if 6 < n then typeError (counts "most 6")
  else if n == 5 then typeError "end_offset must be provided when end_lineno is provided"

/-- Fills a new exception from the arguments of its constructor. -/
def fillError (r : Ref) (c : Class) (k : ErrorKind) (a : Args) : Exec Unit := do
  checkErrorKeywords c k a
  let coding := [ErrorKind.unicodeEncodeError, .unicodeDecodeError, .unicodeTranslateError]
  if coding.any k.lineage.contains then checkCodingArgs k a
  let args ← match k.lineage.contains .syntaxError, a.positional with
    | true, [message, info] => do
      checkPlaceArgs info
      pure [message, ← newTuple (← elements info)]
    | _, args => pure args
  for (id, v) in ← errorFields k args do putSlot r id v
  for (t, v) in a.keywords do putSlot r t.lossy v

/-- The arguments that an exception of the operating system shows: those that name files are kept
apart. -/
def systemErrorArgs (args : List Ref) : List Ref :=
  if ((systemErrorFields args).lookup "filename").isSome then args.take 2 else args

/-- A new exception. -/
def makeError (c : Class) (k : ErrorKind) (hasInit : Bool) (a : Args) : Exec Ref := do
  if k.lineage.contains .osError then
    let a := if hasInit then Args.of [] else a
    let many := 2 ≤ a.positional.length && a.positional.length ≤ 5
    let cls ← match many && c == .builtin (.error .osError), a.at? 0 with
      | true, some n =>
        match (← int? n).bind errnoKind? with
        | some k' => pure (Class.builtin (.error k'))
        | none => pure c
      | _, _ => pure c
    let r ← make cls (.error ⟨systemErrorArgs a.positional, none, none, []⟩)
    fillError r c k a
    return r
  else
    let r ← make c (.error ⟨a.positional, none, none, []⟩)
    if !hasInit then fillError r c k a
    return r

/-! ### Creating objects -/

/-- The cells that are given for the variables around the code of a function. -/
def closureFor (c : Script.Code) (given : Ref) : Exec (List (String × Ref)) := do
  match ← dataOf given with
  | .tuple items =>
    if items.length != c.outer.length then
      valueError (c.name ++ " requires closure of length " ++ toString c.outer.length ++ ", not " ++
        toString items.length)
    for cell in items do
      match ← dataOf cell with
      | .cell _ => pure ()
      | _ => typeError ("arg 5 (closure) expected cell, found " ++ (← typeNameOf cell))
    return c.outer.zip items
  | _ =>
    if isNone given && c.outer.isEmpty then return []
    else if isNone given then typeError "arg 5 (closure) must be tuple"
    else typeError "arg 5 (closure) must be None or tuple"

/-- The function that the arguments of the type of functions give. -/
def functionFrom (a : Args) : Exec Ref := do
  let vs ← bindNamed "function"
    (.requiring 2 ["code", "globals", "name", "argdefs", "closure"]) a
  let code := orNone (parameter? vs 0)
  let globals := orNone (parameter? vs 1)
  let unit ← match ← dataOf code with
    | .code u => pure u
    | _ => typeError ("function() argument 'code' must be code, not " ++ (← argumentType code))
  unless ← isDict globals do
    typeError ("function() argument 'globals' must be dict, not " ++ (← argumentType globals))
  let c := (← get).code.getD unit default
  let name ← match (parameter? vs 2).filter (!isNone ·) with
    | none => pure c.name
    | some n =>
      match ← text? n with
      | some t => pure t.lossy
      | none => typeError "arg 3 (name) must be None or string"
  let defaults ← match (parameter? vs 3).filter (!isNone ·) with
    | none => pure []
    | some d =>
      match ← dataOf d with
      | .tuple items => pure items
      | _ => typeError "arg 4 (defaults) must be None or tuple"
  let doc ← match c.doc with
    | some t => newText t
    | none => pure noneRef
  let closure ← closureFor c (orNone (parameter? vs 4))
  alloc (.of .function (.function { unit, globals, closure, defaults, keywordDefaults := []
                                    name, qualifiedName := name
                                    moduleName := ← getName globals "__name__"
                                    doc, annotations := none }))

/-- Makes a container or a number: `none` for the other types. -/
def createValue? (c : Class) (k : Kind) (hasInit : Bool) (a : Args) : Exec (Option Ref) := do
  let name := k.name
  match k with
  | .int => do some <$> makeInt c (← intFrom a)
  | .bool =>
    match ← soleArg name a with
    | some x => return some (boolRef (← isTrue x))
    | none => return some falseRef
  | .float =>
    match ← soleArg name a with
    | some x =>
      if c == .builtin .float && (← classOf x) == .builtin .float then return some x
      else do some <$> make c (.float (← toFloat x))
    | none => some <$> make c (.float 0)
  | .complex => do
    let (re, im) ← complexFrom a
    some <$> make c (.complex re im)
  | .str => do
    match a.positional, a.keywords with
    | [x], [] =>
      if c == .builtin .str && (← classOf x) == .builtin .str then return some x
      else some <$> makeText c (← Ops.str x)
    | _, _ => some <$> makeText c (← textFrom a)
  | .bytes => do
    let bs ← bytesFromArgs name a
    some <$> (if c == .builtin .bytes then newBytes bs else make c (.bytes bs))
  | .bytearray => do
    some <$> make c (.bytearray (← if hasInit then pure [] else bytesFromArgs name a))
  | .list => do
    some <$> make c (.list (← if hasInit then pure [] else elementsArg name a).toArray)
  | .tuple =>
    match ← soleArg name a with
    | none => some <$> (if c == .builtin .tuple then newTuple [] else make c (.tuple []))
    | some x =>
      if c == .builtin .tuple then
        if (← classOf x) == .builtin .tuple then return some x
        else some <$> newTuple (← elements x)
      else do some <$> make c (.tuple (← elements x))
  | .dict =>
    let r ← make c (.dict [])
    if !hasInit then updateDict r name a
    return some r
  | .orderedDict =>
    let r ← make c (.dict [])
    if !hasInit then
      if a.positional.length > 1 then
        typeError ("expected at most 1 arguments, got " ++ toString a.positional.length)
      takeOrderedArgs r a
    return some r
  | .defaultDict =>
    let r ← make c (.defaultDict [] noneRef)
    if !hasInit then fillDefaultDict r a
    return some r
  | .set => do some <$> make c (.set (← if hasInit then pure .empty else tableArg name a))
  | .frozenset =>
    match ← soleArg name a with
    | none => some <$> make c (.set .empty)
    | some x =>
      if c == .builtin .frozenset && (← classOf x) == .builtin .frozenset then return some x
      else do some <$> make c (.set (← uniteElements .empty x))
  | .deque => do
    let (items, limit) ← if hasInit then pure ([], none) else dequeFrom a
    some <$> make c (.deque items limit)
  | .range => some <$> rangeFrom c a
  | .slice =>
    checkConstructor name 1 3 a
    match a.positional with
    | [b] => some <$> newSlice noneRef b noneRef
    | _ => some <$> newSlice (a.at 0) (a.at 1) (a.at 2)
  | .memoryview => do
    let vs ← bindNamed name (.requiring 1 ["object"]) a
    let x := orNone (parameter? vs 0)
    match ← viewOf? x with
    | some r => return some r
    | none =>
      typeError ("memoryview: a bytes-like object is required, not '" ++ (← typeNameOf x) ++ "'")
  | _ => return none
where
  /-- Fills a dictionary with a default: the first argument makes the default values. -/
  fillDefaultDict (r : Ref) (a : Args) : Exec Unit := do
    let f := a.at 0
    if !isNone f && !(← isCallable f) then
      typeError "first argument must be callable or None"
    setData r (.defaultDict [] f)
    let rest : Args := ⟨a.positional.drop 1, a.keywords⟩
    updateDict r "dict" rest

/-- Makes an iterator; `none` for the other types. -/
def createIterator? (c : Class) (k : Kind) (a : Args) : Exec (Option Ref) := do
  match k with
  | .enumerate => some <$> enumerateFrom c a
  | .zip =>
    onlyKeywords "zip" ["strict"] a
    let strict ← flagArg (a.keyword? "strict")
    some <$> make c (.cursor (.zip (← a.positional.mapM iter) strict))
  | .map =>
    if !a.keywords.isEmpty then typeError "map() takes no keyword arguments"
    match a.positional with
    | f :: x :: xs => do some <$> make c (.cursor (.map f (← (x :: xs).mapM iter)))
    | _ => typeError "map() must have at least two arguments."
  | .filter =>
    checkConstructor "filter" 2 2 a
    some <$> make c (.cursor (.filter (a.at 0) (← iter (a.at 1))))
  | .reversed =>
    checkConstructor "reversed" 1 1 a
    some <$> reversedFrom c (a.at 0)
  | _ => return none

/-- Makes a buffer in memory anew from the arguments of its constructor. -/
def startBuffer (r : Ref) (a : Args) : Exec Unit := do
  let vs ← bindNamed "StringIO" (.optional ["initial_value", "newline"]) a
  if let some n := (parameter? vs 1).filter (!isNone ·) then
    match ← text? n with
    | none => typeError ("newline must be str or None, not " ++ (← typeNameOf n))
    | some t =>
      unless t.points.isEmpty || Text.LineEnd.all.any (·.points == t.points) do
        valueError ("illegal newline value: " ++ (← Ops.repr n).lossy)
  let first ← match (parameter? vs 0).filter (!isNone ·) with
    | none => pure .empty
    | some x =>
      match ← text? x with
      | some t => pure t
      | none => typeError ("initial_value must be str or None, not " ++ (← typeNameOf x))
  openBuffer r (parameter? vs 1) first

/-- Makes an object of one of the types that serve the language itself; `none` for the other
types. -/
def createObject? (c : Class) (k : Kind) (hasInit : Bool) (a : Args) : Exec (Option Ref) := do
  let name := k.name
  let single (r : Ref) : Exec (Option Ref) := do
    if a.positional.isEmpty && a.keywords.isEmpty then return some r
    else typeError (name ++ " takes no arguments")
  match k with
  | .property =>
    if hasInit then some <$> newProperty c none none none none
    else
      let vs ← bindNamed name (.optional ["fget", "fset", "fdel", "doc"]) a
      let part (i : Nat) : Option Ref := (parameter? vs i).filter (!isNone ·)
      some <$> newProperty c (part 0) (part 1) (part 2) (part 3)
  | .staticMethod | .classMethod =>
    checkConstructor name 1 1 a
    some <$> make c (.wrapped (a.at 0))
  | .superType => some <$> superFrom c a
  | .module =>
    let d ← if hasInit then newDict
      else do
        let vs ← bindNamed name (.requiring 1 ["name", "doc"]) a
        let n := orNone (parameter? vs 0)
        if (← text? n).isNone then
          typeError ("module() argument 'name' must be str, not " ++ (← argumentType n))
        newNameDict [("__name__", n), ("__doc__", orNone (parameter? vs 1)),
          ("__package__", noneRef), ("__loader__", noneRef), ("__spec__", noneRef)]
    some <$> make c (.module d)
  | .simpleNamespace =>
    if !hasInit && !a.positional.isEmpty then typeError "no positional arguments expected"
    let attrs := if hasInit then [] else a.keywords.map fun (t, v) => (t.lossy, v)
    some <$> alloc { cls := c, data := .plain, attrs }
  | .mappingProxy => do
    let vs ← bindNamed name (.requiring 1 ["mapping"]) a
    let m := orNone (parameter? vs 0)
    match ← dataOf m with
    | .dict _ | .defaultDict _ _ => some <$> make c (.proxy m)
    | .proxy of => some <$> make c (.proxy of)
    | _ => typeError ("mappingproxy() argument must be a mapping, not " ++ (← typeNameOf m))
  | .textBuffer => do
    let r ← make c (.textBuffer .empty 0)
    if hasInit then putSlot r "unready" trueRef else startBuffer r a
    return some r
  | .weakReference => some <$> weakReferenceTo c a
  | .genericAlias =>
    checkConstructor name 2 2 a
    some <$> newAlias (a.at 0) (a.at 1)
  | .noneType => single noneRef
  | .ellipsis => single ellipsisRef
  | .notImplementedType => single notImplementedRef
  | .method =>
    checkConstructor name 2 2 a
    unless ← isCallable (a.at 0) do typeError "first argument must be callable"
    if isNone (a.at 1) then typeError "self must not be None"
    some <$> alloc (.of .method (.method (a.at 0) (a.at 1)))
  | .function => some <$> functionFrom a
  | _ => return none

/-- Makes an object of class `c`, whose built-in part is of type `k`, without taking note of how it
wants to end. -/
def createPlain (c : Class) (k : Kind) (hasInit : Bool) (a : Args) : Exec Ref := do
  match k with
  | .object =>
    let extra := !a.positional.isEmpty || !a.keywords.isEmpty
    if extra && !hasInit then typeError ((← c.shortName) ++ "() takes no arguments")
    make c .plain
  | .error e => makeError c e hasInit a
  | _ =>
    match ← createValue? c k hasInit a with
    | some r => return r
    | none =>
      match ← createIterator? c k a with
      | some r => return r
      | none =>
        match ← createObject? c k hasInit a with
        | some r => return r
        | none => typeError ("cannot create '" ++ k.fullName ++ "' instances")

/-- Takes note of an object that wants to be told when it dies. -/
def watchEnd (r : Ref) (c : Class) : Exec Unit := do
  match c with
  | .builtin _ => return ()
  | .user _ =>
    match ← c.find "__del__" with
    | .value _ => modify fun m => { m with watched := r :: m.watched }
    | _ => return ()

/-- Makes an object of class `c`, whose built-in part is of type `k`. `hasInit` says that a script
fills the object itself. -/
def create (c : Class) (k : Kind) (hasInit : Bool) (a : Args) : Exec Ref := do
  let r ← createPlain c k hasInit a
  watchEnd r c
  return r

/-- Calls the initialiser that a script gave to a class. -/
def runInit (f r : Ref) (a : Args) : Exec Unit := do
  let v ← match ← dataOf f with
    | .function _ => Ops.call f ⟨r :: a.positional, a.keywords⟩
    | _ => Ops.call (← bindValue f r (← classOf r)) a
  if !isNone v then
    typeError ("__init__() should return None, not '" ++ (← typeNameOf v) ++ "'")

/-- What calling a class makes: a new object, initialised. -/
def instantiate (c : Class) (a : Args) : Exec Ref := do
  let init ← c.find "__init__"
  let init? := match init with
    | .value f => some f
    | _ => none
  let r ← match ← c.find "__new__" with
    | .value f =>
      let f ← bindClassValue f c
      Ops.call f ⟨c.ref :: a.positional, a.keywords⟩
    | _ => create c (← c.baseKind) init?.isSome a
  match init? with
  | some f => if ← belongsTo r c then runInit f r a
  | none => pure ()
  return r

/-- Calling `type` or a class of classes: the type of an object, or a new class. -/
def callMetaclass (kind : Class) (a : Args) : Exec Ref := do
  match kind, a.positional, a.keywords with
  | .builtin .type, [x], [] => return (← classOf x).ref
  | _, _, _ =>
    if kind == .builtin .type && a.positional.length != 3 then
      typeError "type() takes 1 or 3 arguments"
    let r ← match ← kind.find "__new__" with
      | .value f => Ops.call (← bindClassValue f kind) ⟨kind.ref :: a.positional, a.keywords⟩
      | _ => newType kind a
    if ← belongsTo r kind then
      match ← (← classOf r).find "__init__" with
      | .value f => runInit f r a
      | _ => pure ()
    return r

/-- Calls a class. -/
def callClass (r : Ref) (c : Class) (a : Args) : Exec Ref := do
  match ← userSpecial? r "__call__" with
  | some f =>
    match ← dataOf f with
    | .function _ => Ops.call f ⟨r :: a.positional, a.keywords⟩
    | _ => Ops.call (← bindValue f r (← classOf r)) a
  | none =>
    if ← c.extendsKind .type then callMetaclass c a else instantiate c a

end

end GuestBridge.Guest
