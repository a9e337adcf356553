import GuestBridge.Bridge.Request
import GuestBridge.Guest.Interpreter
import GuestBridge.Guest.Reach

/-!
# The interpreter as a guest

How the interpreter answers the requests of the bridge. Each request is one operation of the guest
language; its exceptions come back as they are, and what it writes to the sinks of sessions is
handed over after each request.
-/

namespace GuestBridge.Guest

open Bridge (Request Shape SessionId GuestState)

/-! ### Tracebacks -/

/-- How many lines of a traceback that are the same are shown. -/
def repeatLimit : Nat := 3

/-- How many frames a traceback shows, the last ones. -/
def frameLimit : Nat := 1000

/-- The lines for `count` frames in a row that are the same. -/
def sameFrames (e : TraceEntry) (count : Nat) : String :=
  let line := "  File \"" ++ e.file ++ "\", line " ++ toString e.line ++ ", in " ++ e.name ++ "\n"
  let left := count - repeatLimit
  String.join (List.replicate (min count repeatLimit) line) ++
    if left == 0 then "" else "  [Previous line repeated " ++ toString left ++ " more time" ++
      (if left == 1 then "" else "s") ++ "]\n"

/-- Whether two frames show as the same line. -/
def TraceEntry.looksLike (a b : TraceEntry) : Bool :=
  a.file == b.file && a.line == b.line && a.name == b.name

/-- The lines of a traceback, given the frame before and how often it came in a row. -/
def traceLines (last : TraceEntry) (count : Nat) : List TraceEntry → String
  | [] => sameFrames last count
  | e :: es =>
    if e.looksLike last then traceLines last (count + 1) es
    else sameFrames last count ++ traceLines e 1 es

/-- A traceback as text. -/
def traceText (es : List TraceEntry) : String :=
  match es.drop (es.length - frameLimit) with
  | [] => "Traceback (most recent call last):\n"
  | e :: es => "Traceback (most recent call last):\n" ++ traceLines e 1 es

/-! ### Operations of the host -/

section
variable [Ops]

/-- Loads a module as the host does: by the function that the built-in names have for it. -/
def hostImport (name : String) : Exec Ref := do
  let m ← get
  let builtins := (← getName m.modules "builtins").getD noneRef
  let load ← getAttr builtins "__import__"
  let globals ← newNameDict [("__builtins__", builtins)]
  let n ← newStr name
  discard <| Ops.call load (.of [n, globals, globals, ← newList [], ← newInt 0])
  match ← getKey m.modules n with
  | some v => return v
  | none => missingKey n

/-- Refuses an object that does not belong to a built-in type. -/
def expectKind (r : Ref) (k : Kind) : Exec Unit := do
  unless ← isKind r k do
    typeError ("'" ++ (← (← classOf r).qualifiedName) ++ "' object cannot be cast as '" ++
      k.name ++ "'")

/-- What an object is to the host. -/
def shapeOf (r : Ref) : Exec Shape := do
  if isNone r then return .none
  else
    match ← dataOf r with
    | .int n => if ← isKind r .bool then return .bool (n != 0) else return .int n
    | .float bits => return .float bits
    | .str t => return .text t
    | .bytes bs | .bytearray bs => return .bytes bs
    | .list items => return .sequence items.toList
    | .tuple items => return .sequence items
    | .dict es | .defaultDict es _ =>
      let es := es.mergeSort fun e f => e.place ≤ f.place
      return .dict (es.map fun e => (e.place, e.key, e.value))
    | .range a b s => return .range a b s
    | .slice a b s => return .slice a b s
    | _ => return .other

/-- The main module, made anew if a script has thrown it away. -/
def mainModule : Exec Ref := do
  match ← getName (← get).modules "__main__" with
  | some m => return m
  | none =>
    let m ← newModule "__main__" "built-in" false false []
    putName (← get).modules "__main__" m
    return m

/-- Whether calling an object runs nothing but code of a script from the start. -/
def runsScript (f : Ref) : Exec Bool := do
  match ← dataOf f with
  | .function _ | .method _ _ => return true
  | .builtin module id => return module == "builtins" && (id == "exec" || id == "eval")
  | _ => return false

/-- Answers a request. -/
def answer : {α : Type} → Request α → Exec α
  | _, .getAttr o name => getAttr o name
  | _, .setAttr o name v => setAttr o name v
  | _, .isCallable o => isCallable o
  | _, .call f args keywords => do
    let settling ← runsScript f
    modify fun m => { m with settling }
    Ops.call f ⟨args, keywords.map fun (id, v) => (Text.ofString id, v)⟩
  | _, .getItem o k => getItem o k
  | _, .setItem o k v => setItem o k v
  | _, .deleteItem o k => deleteItem o k
  | _, .contains o k => contains o k
  | _, .length o => length o
  | _, .iterate o => iter o
  | _, .typeOf o => do return (← classOf o).ref
  | _, .typeName o => do (← classOf o).qualifiedName
  | _, .isInstance o cls => Ops.isInstance o cls
  | _, .belongs o k => isKind o k
  | _, .expect o k => expectKind o k
  | _, .truth o => isTrue o
  | _, .repr o => Ops.repr o
  | _, .str o => Ops.str o
  | _, .equal a b => do isTrue (← Ops.compare .eq a b)
  | _, .references o => do return (← get).references o
  | _, .shape o => shapeOf o
  | _, .toFloat o => toFloat o
  | _, .toIndex o => do
    let n ← index o
    if isMachineInt n then return n
    else raiseError .overflowError "Python int too large to convert to C long"
  | _, .newInt n => newInt n
  | _, .newFloat bits => newFloat bits
  | _, .newStr s => newStr s
  | _, .newBytes bs => newBytes bs
  | _, .newList items => newList items
  | _, .newTuple items => newTuple items
  | _, .newSlice a b s => newSlice a b s
  | _, .newDict names => newNameDict names
  | _, .newSink s => alloc (.of .outputSink (.sink s))
  | _, .newTraceback t => alloc (.of .traceback (.traceback t))
  | _, .tracebackText t => do
    let buffer ← Ops.call (← getAttr (← hostImport "io") "StringIO") (.of [])
    discard <| Ops.call (← getAttr buffer "write") (.of [← newStr (traceText t)])
    let r ← Ops.call (← getAttr buffer "getvalue") (.of [])
    return (← text? r).getD .empty
  | _, .getName dict name => do getKey dict (← newStr name)
  | _, .clear dict => setEntries dict []
  | _, .insert list position o => do
    match ← dataOf list with
    | .list items =>
      setData list (.list ((items.toList.take position ++ o :: items.toList.drop position).toArray))
    | _ => return ()
  | _, .importModule name => hostImport name
  | _, .evaluate expression => do
    let d ← moduleDict (← mainModule)
    ensureBuiltins d
    runUnit (← loadCode .expression "<string>" expression) d d
  | _, .settle => noticeDeaths none

/-- Answers a request, once the objects have died that nobody holds any more. Given is the machine
after the last request, if it watches any objects. -/
def answerSettled {α : Type} (before : Option Machine) (r : Request α) : Exec α := do
  unless before.isNone do noticeDeaths before
  answer r

end

/-- The interpreter as a guest, with the operations that it makes its calls by. -/
@[reducible, noinline] def guestOver (o : Ops) : GuestState Machine where
  perform held r m :=
    let before := if m.watched.isEmpty then none else some m
    match (@answerSettled o _ before r).run { m with held, settling := true } with
    | .ok a m => (.ok a, m.writes.reverse, { m with writes := [] })
    | .error e m => (.error e, m.writes.reverse, { m with writes := [] })

instance : GuestState Machine := guestOver interpreter

/-- The state of the guest before the first session. -/
def initialMachine (paths : List String) (files : List (String × String)) : Machine :=
  match (startMachine paths files).run default with
  | .ok _ m => m
  | .error _ m => m

end GuestBridge.Guest
