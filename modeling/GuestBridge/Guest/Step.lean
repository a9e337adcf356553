import GuestBridge.Guest.Member
import GuestBridge.Guest.Names
import GuestBridge.Guest.Unwind
import GuestBridge.Guest.Running
import GuestBridge.Guest.Ending

/-!
# Steps of running code

What each instruction does, one frame at a time. An exception raised by an instruction takes the
frame into its trace and then leaves regions until one of them handles it.
-/

namespace GuestBridge.Guest

open Script

section
variable [Ops]

/-! ### The stack -/

/-- An instruction met a stack that compiled code never has. -/
def badStack {α : Type} : Exec α := raiseError .systemError "unexpected stack"

/-- Goes on with the top of the stack and the rest. -/
def withTop {α : Type} (s : List Ref) (k : Ref → List Ref → Exec α) : Exec α :=
  match s with
  | a :: s => k a s
  | _ => badStack

/-- Goes on with the two values on top, the upper one first. -/
def withTwo {α : Type} (s : List Ref) (k : Ref → Ref → List Ref → Exec α) : Exec α :=
  match s with
  | b :: a :: s => k b a s
  | _ => badStack

/-- Goes on with the three values on top, the uppermost first. -/
def withThree {α : Type} (s : List Ref) (k : Ref → Ref → Ref → List Ref → Exec α) : Exec α :=
  match s with
  | c :: b :: a :: s => k c b a s
  | _ => badStack

/-- The values on top in the order in which they were pushed, and the rest. -/
def takeTop (n : Nat) (s : List Ref) : List Ref × List Ref := ((s.take n).reverse, s.drop n)

/-! ### Building values -/

/-- Appends an element to a list. -/
def appendTo (list v : Ref) : Exec Unit :=
  modify fun m => { m with heap := m.heap.modify list.id fun o =>
    match o.data with
    | .list items => { o with data := .list (items.push v) }
    | _ => o }

/-- Adds the elements of an object that stands after a star. -/
def extendList (list v : Ref) : Exec Unit := do
  match ← iter? v with
  | none => typeError ("Value after * must be an iterable, not " ++ (← typeNameOf v))
  | some _ => for x in ← elements v do appendTo list x

/-- Joins texts. -/
def concatTexts : List Ref → Exec Text
  | [] => return .empty
  | r :: rs => do return ((← text? r).getD .empty) ++ (← concatTexts rs)

/-- The text of a replacement field. -/
def formatField (v : Ref) (c : Conversion) (spec : Text) : Exec Ref := do
  let shown ← match c with
    | .plain => pure v
    | .str => newText (← Ops.str v)
    | .repr => newText (← Ops.repr v)
    | .ascii => newText (← asciiRepr v)
  if spec.points.isEmpty && (← classOf shown) == .builtin .str then return shown
  else newText (← formatObject shown spec)

/-- What a function is called in errors about its arguments. -/
def shownCallee (f : Ref) : Exec Text := do
  match ← getAttr? f "__qualname__" with
  | none => Ops.str f
  | some q =>
    let name ← Ops.str q
    match ← getAttr? f "__module__" with
    | none => return name ++ "()"
    | some m =>
      if isNone m then return name ++ "()"
      else
        let module ← Ops.str m
        return if module == "builtins" then name ++ "()" else module ++ "." ++ name ++ "()"

/-- Takes keyword arguments out of a mapping; none may be given twice. While an exception is being
handled, a repeated one is reported as a key that was refused. -/
def mergeKeywords (f dict : Ref) (entries : List Entry) : Exec Unit := do
  for e in entries do
    match ← getKey dict e.key with
    | some _ =>
      if !(← get).handling.isEmpty then missingKey e.key
      typeError ((← shownCallee f).lossy ++ " got multiple values for keyword argument '" ++
        (← Ops.str e.key).lossy ++ "'")
    | none => putKey dict e.key e.value

/-- The entries of a mapping that stands after two stars; `none` if it is no mapping. -/
def mappingEntries? (r : Ref) : Exec (Option (List Entry)) := do
  if ← isPlainDict r then return some (← entriesOf r)
  else
    recover (do return some (← entriesOf (← copiedDict r))) .attributeError fun _ => return none

/-- The keyword arguments in a dictionary. -/
def keywordsOf (dict : Ref) : Exec (List (Text × Ref)) := do
  (← entriesOf dict).mapM fun e => do
    match ← text? e.key with
    | some t => return (t, e.value)
    | none => typeError "keywords must be strings"

/-! ### Functions and classes -/

/-- A function made in a frame from a unit, the defaults of its parameters, and its annotations. -/
def newFunction (f : Frame) (number : Nat) (defaults : List Ref)
    (keywordDefaults : List (String × Ref)) (annotations : Option Ref) : Exec Ref := do
  alloc <| .of .function <| .function (← functionData f number defaults keywordDefaults annotations)

/-- Makes a function from a unit and the values on the stack. -/
def makeFunction (c : Code) (f : Frame) (unit defaults : Nat) (ids annotations : List String) :
    Exec Frame := do
  let (annotationValues, s) := takeTop annotations.length f.stack
  let (keywordValues, s) := takeTop ids.length s
  let (values, s) := takeTop defaults s
  let annotated ← if annotations.isEmpty then pure none
    else some <$> newNameDict (annotations.zip annotationValues)
  let r ← newFunction f (c.base + unit) values (ids.zip keywordValues) annotated
  return { f with stack := r :: s }

/-- Makes a class as the built-in names of the running module say. -/
def makeClass (c : Code) (f : Frame) (unit : Nat) (id : String) (given : List Ref)
    (keywords : List (Text × Ref)) : Exec Ref := do
  match ← builtinName? f.globals "__build_class__" with
  | none => raiseError .nameError "__build_class__ not found"
  | some build =>
    match ← dataOf build with
    | .builtin "builtins" "__build_class__" =>
      classOfBody (← functionData f (c.base + unit) [] [] none) (pure ()) id given keywords
    | _ =>
      let body ← newFunction f (c.base + unit) [] [] none
      Ops.call build ⟨body :: (← newStr id) :: given, keywords⟩

/-! ### Importing -/

/-- Imports a module as the built-in names of the running module say. -/
def importByName (f : Frame) (path : String) (level : Nat) (names : Option (List String)) :
    Exec Ref := do
  match ← builtinName? f.globals "__import__" with
  | none => raiseError .importError "__import__ not found"
  | some load =>
    let asked ← (names.getD []).mapM newStr
    match ← dataOf load with
    | .builtin "builtins" "__import__" => importModule path (some f.globals) asked level
    | _ =>
      let shown ← match names with
        | none => pure noneRef
        | some _ => newTuple asked
      Ops.call load (.of [← newStr path, f.globals, f.names.getD noneRef, shown, ← newInt level])

/-! ### Raising and catching -/

/-- Takes an exception out of the exceptions that were being handled when others were raised. -/
def cutContext (e : Ref) : (fuel : Nat) → Ref → Exec Unit
  | 0, _ => return ()
  | fuel + 1, h => do
    match ← dataOf h with
    | .error d =>
      match d.context with
      | none => return ()
      | some k =>
        if k == e then setData h (.error { d with context := none }) else cutContext e fuel k
    | _ => return ()

/-- Links an exception that is about to be raised to the one being handled. -/
def linkContext (e : Ref) : Exec Unit := do
  match (← get).handling.head? with
  | none => return ()
  | some h =>
    if h == e then return ()
    else
      cutContext e 1000 h
      match ← dataOf e with
      | .error d => setData e (.error { d with context := some h })
      | _ => return ()

/-- Whether an object is a class of exceptions. -/
def isErrorClass (r : Ref) : Exec Bool := do
  match ← class? r with
  | some c => c.extendsKind (.error .baseException)
  | none => return false

/-- The exception that a `raise` statement names: an exception, or a class that gives one. -/
def exceptionOf (r : Ref) : Exec Ref := do
  if ← isErrorClass r then
    let e ← Ops.call r (.of [])
    if ← isError e .baseException then return e
    else
      typeError ("calling " ++ (← Ops.repr r).lossy ++
        " should have returned an instance of BaseException, not " ++
        (← Ops.repr (← classOf e).ref).lossy)
  else if ← isError r .baseException then return r
  else typeError "exceptions must derive from BaseException"

/-- The cause that a `raise` statement names, if it names one. -/
def causeOf (r : Ref) : Exec (Option Ref) := do
  if isNone r then return none
  else if ← isErrorClass r then return some (← Ops.call r (.of []))
  else if ← isError r .baseException then return some r
  else typeError "exception causes must derive from BaseException"

/-- Raises what a `raise` statement names, with its cause. -/
def raiseNamed {α : Type} (r : Ref) (cause : Option Ref) : Exec α := do
  let e ← exceptionOf r
  match cause with
  | none => pure ()
  | some k =>
    let k ← causeOf k
    match ← dataOf e with
    | .error d => setData e (.error { d with cause := k })
    | _ => pure ()
    putSlot e "__suppress_context__" trueRef
  linkContext e
  raiseRef e

/-- Whether an exception belongs to a class or to one of several. -/
def isCaught (e k : Ref) : Exec Bool := do
  let kinds ← match ← dataOf k with
    | .tuple items => pure items
    | _ => pure [k]
  let classes ← kinds.mapM fun k => do
    match ← class? k with
    | some c =>
      if ← c.extendsKind (.error .baseException) then return c
      else typeError "catching classes that do not inherit from BaseException is not allowed"
    | none => typeError "catching classes that do not inherit from BaseException is not allowed"
  let own ← classOf e
  classes.anyM own.extends

/-- Keeps the trace of an exception that is caught. -/
def keepTrace (e : Ref) (t : List TraceEntry) : Exec Unit := do
  match ← dataOf e with
  | .error d => setData e (.error { d with trace := t })
  | _ => return ()

/-- The trace kept by an exception. -/
def keptTrace (e : Ref) : Exec (List TraceEntry) := do
  match ← dataOf e with
  | .error d => return d.trace
  | _ => return []

/-- Goes on after leaving regions: the exceptions being handled are those of the frame again. -/
def goOn (old : Frame) (flow : Flow) : Exec Flow := do
  match flow with
  | .next f =>
    modify fun m => { m with handling := f.handled ++ m.handling.drop old.handled.length }
    return .next f
  | _ => return flow

/-! ### Instructions -/

/-- Instructions on names. -/
def runName (f : Frame) (i : Instr) : Exec Frame := do
  match i with
  | .loadName id => return f.push (← loadName f id)
  | .storeName id => withTop f.stack fun v s => do
    putName (f.names.getD f.globals) id v
    return { f with stack := s }
  | .deleteName id => do
    deleteName (f.names.getD f.globals) id
    return f
  | .loadGlobal id => return f.push (← loadGlobal f.globals id)
  | .storeGlobal id => withTop f.stack fun v s => do
    putName f.globals id v
    return { f with stack := s }
  | .deleteGlobal id => do
    deleteName f.globals id
    return f
  | .loadLocal id => return f.push (← loadLocal f id)
  | .storeLocal id => withTop f.stack fun v s => do
    writeVariable f id (some v)
    return { f with stack := s }
  | .deleteLocal id => do
    discard <| loadLocal f id
    writeVariable f id none
    return f
  | .loadOuter id => return f.push (← loadOuter f id)
  | .storeOuter id => withTop f.stack fun v s => do
    writeVariable f id (some v)
    return { f with stack := s }
  | .deleteOuter id => do
    discard <| loadOuter f id
    writeVariable f id none
    return f
  | .loadNameOrOuter id => do
    let own ← match f.names with
      | some names => getName names id
      | none => pure none
    match own with
    | some v => return f.push v
    | none => return f.push (← loadOuter f id)
  | .importModule path level names => do
    return f.push (← importByName f path level names)
  | .importFrom id => withTop f.stack fun m _ => do
    return f.push (← importFrom m id)
  | .importAll => withTop f.stack fun m s => do
    for id in ← exportedNames m do
      putName (f.names.getD f.globals) id (← getAttr m id)
    return { f with stack := s }
  | .setupAnnotations => do
    let names := f.names.getD f.globals
    if (← getName names "__annotations__").isNone then putName names "__annotations__" (← newDict)
    return f
  | _ => return f

/-- Instructions that build values. -/
def runBuild (f : Frame) (i : Instr) : Exec Frame := do
  match i with
  | .const k => return f.push (← constant f.unit k)
  | .buildTuple n => do
    let (xs, s) := takeTop n f.stack
    return { f with stack := (← newTuple xs) :: s }
  | .buildList n => do
    let (xs, s) := takeTop n f.stack
    return { f with stack := (← newList xs) :: s }
  | .buildSet n => do
    let (xs, s) := takeTop n f.stack
    let r ← alloc (.of .set (.set .empty))
    for x in xs do putKey r x noneRef
    return { f with stack := r :: s }
  | .settleSet => withTop f.stack fun r _ => do
    setData r (.set (← tableOf r).settled)
    return f
  | .buildSlice hasStep =>
    if hasStep then withThree f.stack fun c b a s => do
      return { f with stack := (← newSlice a b c) :: s }
    else withTwo f.stack fun b a s => do
      return { f with stack := (← newSlice a b noneRef) :: s }
  | .buildDict => return f.push (← newDict)
  | .listAppend d => withTop f.stack fun v s => do
    appendTo (s.getD d noneRef) v
    return { f with stack := s }
  | .setAdd d => withTop f.stack fun v s => do
    putKey (s.getD d noneRef) v noneRef
    return { f with stack := s }
  | .dictPut d => withTwo f.stack fun v k s => do
    putKey (s.getD d noneRef) k v
    return { f with stack := s }
  | .listExtend => withTwo f.stack fun v l s => do
    extendList l v
    return { f with stack := l :: s }
  | .setExtend => withTwo f.stack fun v l s => do
    for x in ← elements v do putKey l x noneRef
    return { f with stack := l :: s }
  | .dictUpdate => withTwo f.stack fun v d s => do
    match ← mappingEntries? v with
    | some es => putEntries d es
    | none => typeError ("'" ++ (← typeNameOf v) ++ "' object is not a mapping")
    return { f with stack := d :: s }
  | .dictMerge => withTwo f.stack fun v d s => do
    let callee := s.getD 1 noneRef
    match ← mappingEntries? v with
    | some es => mergeKeywords callee d es
    | none =>
      typeError ((← shownCallee callee).lossy ++ " argument after ** must be a mapping, not " ++
        (← typeNameOf v))
    return { f with stack := d :: s }
  | .listToTuple => withTop f.stack fun l s => do
    return { f with stack := (← newTuple (← elements l)) :: s }
  | .format c hasSpec =>
    if hasSpec then withTwo f.stack fun spec v s => do
      return { f with stack := (← formatField v c ((← text? spec).getD .empty)) :: s }
    else withTop f.stack fun v s => do
      return { f with stack := (← formatField v c .empty) :: s }
  | .concat n => do
    let (xs, s) := takeTop n f.stack
    return { f with stack := (← newText (← concatTexts xs)) :: s }
  | _ => return f

/-- Instructions that ask objects for something. -/
def runObject (f : Frame) (i : Instr) : Exec Frame := do
  match i with
  | .loadAttr id => withTop f.stack fun o s => do
    return { f with stack := (← getAttr o id) :: s }
  | .storeAttr id => withTwo f.stack fun o v s => do
    setAttr o id v
    return { f with stack := s }
  | .deleteAttr id => withTop f.stack fun o s => do
    deleteAttr o id
    return { f with stack := s }
  | .loadItem => withTwo f.stack fun k o s => do
    return { f with stack := (← getItem o k) :: s }
  | .storeItem => withThree f.stack fun k o v s => do
    setItem o k v
    return { f with stack := s }
  | .deleteItem => withTwo f.stack fun k o s => do
    deleteItem o k
    return { f with stack := s }
  | .unary op => withTop f.stack fun a s => do
    return { f with stack := (← unaryOp op a) :: s }
  | .binary op => withTwo f.stack fun b a s => do
    return { f with stack := (← binaryOp op a b) :: s }
  | .augment op => withTwo f.stack fun b a s => do
    return { f with stack := (← augmentOp op a b) :: s }
  | .compare op => withTwo f.stack fun b a s => do
    return { f with stack := (← compareOp op a b) :: s }
  | .getIter => withTop f.stack fun o s => do
    return { f with stack := (← iter o) :: s }
  | .unpack n => withTop f.stack fun v s => do
    return { f with stack := (← unpackInto n v) ++ s }
  | .unpackStar before after => withTop f.stack fun v s => do
    return { f with stack := (← unpackAround before after v) ++ s }
  | .call n ids => do
    let (values, s) := takeTop ids.length f.stack
    let (args, s) := takeTop n s
    withTop s fun g s => do
      let r ← Ops.call g ⟨args, (ids.map Text.ofString).zip values⟩
      return { f with stack := r :: s }
  | .callSpread => withThree f.stack fun d l g s => do
    if (← iter? l).isNone then
      typeError ((← shownCallee g).lossy ++ " argument after * must be an iterable, not " ++
        (← typeNameOf l))
    let args ← elements l
    let keywords ← keywordsOf d
    let r ← Ops.call g ⟨args, keywords⟩
    return { f with stack := r :: s }
  | _ => return f

/-- Instructions that decide where running goes on. -/
def runControl (c : Code) (f : Frame) (i : Instr) : Exec Flow := do
  match i with
  | .jump l => return .next (f.jump c l)
  | .jumpIfFalse l => withTop f.stack fun v s => do
    let f := { f with stack := s }
    return .next (if ← isTrue v then f else f.jump c l)
  | .jumpIfTrue l => withTop f.stack fun v s => do
    let f := { f with stack := s }
    return .next (if ← isTrue v then f.jump c l else f)
  | .jumpIfFalseKeep l => withTop f.stack fun v s => do
    return .next (if ← isTrue v then { f with stack := s } else f.jump c l)
  | .jumpIfTrueKeep l => withTop f.stack fun v s => do
    return .next (if ← isTrue v then f.jump c l else { f with stack := s })
  | .forIter l => withTop f.stack fun it s => do
    match ← Ops.next it with
    | some x => return .next (f.push x)
    | none => return .next ({ f with stack := s }.jump c l)
  | .pop => withTop f.stack fun _ s => return .next { f with stack := s }
  | .dup => withTop f.stack fun v s => return .next { f with stack := v :: v :: s }
  | .dupTwo => withTwo f.stack fun b a s => return .next { f with stack := b :: a :: b :: a :: s }
  | .rotate n =>
    let s := f.stack
    match s[n - 1]? with
    | some v => return .next { f with stack := v :: s.eraseIdx (n - 1) }
    | none => badStack
  | .raiseError n =>
    match n with
    | 0 => do
      match (← get).handling.head? with
      | none => raiseError .runtimeError "No active exception to reraise"
      | some e => goOn f (unwind c (.raising e (← keptTrace e)) f.regions f)
    | 1 => withTop f.stack fun e _ => raiseNamed e none
    | _ => withTwo f.stack fun k e _ => raiseNamed e (some k)
  | .assertionError hasMessage =>
    if hasMessage then withTop f.stack fun m _ => do
      raiseNamed (← newError .assertionError [m]) none
    else raiseNamed (← newError .assertionError []) none
  | .openLoop l => return .next (f.openRegion .loop l)
  | .openExcept l => return .next (f.openRegion .except l)
  | .openFinal l => return .next (f.openRegion .final l)
  | .closeRegion => return .next f.closeRegion
  | .enterFinal =>
    return .next { f.openRegion .finishing 0 with pending := .nothing :: f.pending }
  | .endFinal =>
    let p := (f.pending.head?).getD .nothing
    let g := f.closeRegion.dropPending
    match p with
    | .nothing => goOn f (.next g)
    | p => goOn f (unwind c p g.regions g)
  | .matchException l => withTwo f.stack fun k e s => do
    let f := { f with stack := e :: s }
    return .next (if ← isCaught e k then f else f.jump c l)
  | .endHandler => goOn f (.next f.closeRegion.endHandling)
  | .reraise => withTop f.stack fun e s => do
    let g := { f with stack := s }.closeRegion.endHandling
    goOn f (unwind c (.raising e (← keptTrace e)) g.regions g)
  | .breakLoop => goOn f (unwind c .breaking f.regions f)
  | .continueLoop l keep => goOn f (unwind c (.continuing l keep) f.regions f)
  | .returnValue => withTop f.stack fun v s => do
    let g := { f with stack := s }
    goOn f (unwind c (.returning v) g.regions g)
  | .yieldValue => withTop f.stack fun v s => return .leave (.yielded v { f with stack := s })
  | _ => return .next f

/-- Runs one instruction. -/
def execute (c : Code) (f : Frame) (i : Instr) : Exec Flow := do
  match i with
  | .loadName _ | .storeName _ | .deleteName _ | .loadGlobal _ | .storeGlobal _ | .deleteGlobal _
  | .loadLocal _ | .storeLocal _ | .deleteLocal _ | .loadOuter _ | .storeOuter _
  | .deleteOuter _ | .loadNameOrOuter _ | .importModule _ _ _ | .importFrom _ | .importAll
  | .setupAnnotations => .next <$> runName f i
  | .const _ | .buildTuple _ | .buildList _ | .buildSet _ | .settleSet | .buildSlice _ | .buildDict
  | .listAppend _ | .setAdd _ | .dictPut _ | .listExtend | .setExtend | .dictUpdate | .dictMerge
  | .listToTuple | .format _ _ | .concat _ => .next <$> runBuild f i
  | .makeFunction unit defaults ids annotations =>
    .next <$> makeFunction c f unit defaults ids annotations
  | .makeClass unit id bases ids => do
    let (values, s) := takeTop ids.length f.stack
    let (given, s) := takeTop bases s
    let r ← makeClass c f unit id given ((ids.map Text.ofString).zip values)
    return .next { f with stack := r :: s }
  | .makeClassSpread unit id => withTwo f.stack fun d l s => do
    let r ← makeClass c f unit id (← elements l) (← keywordsOf d)
    return .next { f with stack := r :: s }
  | .loadAttr _ | .storeAttr _ | .deleteAttr _ | .loadItem | .storeItem | .deleteItem | .unary _
  | .binary _ | .augment _ | .compare _ | .getIter | .unpack _ | .unpackStar _ _ | .call _ _
  | .callSpread => .next <$> runObject f i
  | _ => runControl c f i

/-- Takes a frame into the trace of an exception raised at a position, and lets the exception leave
regions. -/
def fail (c : Code) (f : Frame) (position : Nat) (e : Raised) : Exec Flow := do
  let line := c.lines.getD position c.line
  setData f.store (.frame { (← f.data) with line })
  let entry : TraceEntry := ⟨c.file, line, c.name, some f.store⟩
  let trace := entry :: e.trace
  let flow := unwind c (.raising e.value trace) f.regions f
  -- an exception that was met on its way keeps its trace
  let handled := f.regions.any fun r => r.kind == .handling
  let finished := f.pending.any fun | .raising _ _ => true | _ => false
  match flow with
  | .next _ => keepTrace e.value trace
  | _ => if handled || finished then keepTrace e.value trace
  goOn f flow

/-- Whether an instruction calls a function of a script, and nothing but that function goes on. -/
def callsDirectly (f : Frame) (i : Instr) : Exec Bool := do
  match i with
  | .call n ids =>
    match ← dataOf (f.stack.getD (n + ids.length) noneRef) with
    | .function _ => return true
    | .method g _ =>
      match ← dataOf g with
      | .function _ => return true
      | _ => return false
    | _ => return false
  | .makeClass _ _ _ _ => return true
  | _ => return false

/-- One step of a frame. While an instruction works, objects may be in use that the stacks do not
show, so that no deaths are noticed; a plain call hands everything over to the new frame. -/
def step (f : Frame) : Exec Flow := do
  let c := (← get).code.getD f.unit default
  match f.injected with
  | some (e, t) =>
    -- code that has not started yet is blamed by its own line
    let position := if f.position == 0 then c.lines.size else f.position - 1
    fail c { f with injected := none } position ⟨e, t⟩
  | none =>
    let g := { f with position := f.position + 1 }
    let i := c.instrs.getD f.position .returnValue
    let settling := (← get).settling
    let direct ← callsDirectly f i
    let shown := match direct, i with
      | true, .call n ids => { g with stack := g.stack.drop (n + ids.length + 1) }
      | _, _ => g
    modify fun m => { m with
      frames := shown :: m.frames.drop 1
      settling := settling && direct }
    let flow ← tryCatch (execute c g i) fun e => fail c g f.position e
    modify fun m => { m with
      frames := (match flow with
        | .next h => h
        | _ => g) :: m.frames.drop 1
      settling }
    return flow

/-- Steps of a frame until it is left. -/
def runSteps : (fuel : Nat) → Frame → Exec Outcome
  | 0, _ => raiseError .memoryError ""
  | fuel + 1, f => do
    let m ← get
    let before := if m.watched.isEmpty then none else some m
    match ← step f with
    | .next g =>
      let m ← get
      if m.settling && !m.watched.isEmpty then noticeDeaths before
      runSteps fuel g
    | .leave o => return o
    | .failed e => throw e

/-- Runs a frame; while it runs, it is among the running frames, and its exceptions are those being
handled. -/
def runFrame (f : Frame) : Exec Outcome := do
  let handling := (← get).handling
  let frames := (← get).frames
  modify fun m => { m with handling := f.handled ++ handling, frames := f :: frames }
  let restore : Exec Unit := modify fun m => { m with handling, frames }
  let o ← tryCatch (runSteps loopLimit f) fun e => do
    restore
    throw e
  restore
  return o

end

end GuestBridge.Guest
