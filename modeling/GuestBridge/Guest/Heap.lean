import GuestBridge.Guest.Object

/-!
# The heap

Allocation, access and the objects of which there is one each: the built-in types, the singletons,
the small integers and the strings of one narrow character. All of these are made first, so their
references are known without looking.
-/

namespace GuestBridge.Guest

/-! ### References known in advance -/

/-- The number of built-in types. -/
def kindCount : Nat := Kind.all.length

/-- The object of a built-in type. -/
def Kind.ref (k : Kind) : Ref := ⟨k.index⟩

/-- The object `None`. -/
def noneRef : Ref := ⟨kindCount⟩

/-- The object `True`. -/
def trueRef : Ref := ⟨kindCount + 1⟩

/-- The object `False`. -/
def falseRef : Ref := ⟨kindCount + 2⟩

/-- The object `...`. -/
def ellipsisRef : Ref := ⟨kindCount + 3⟩

/-- The object by which an operation says that it does not apply. -/
def notImplementedRef : Ref := ⟨kindCount + 4⟩

/-- The empty tuple. -/
def emptyTupleRef : Ref := ⟨kindCount + 5⟩

/-- The empty string. -/
def emptyStrRef : Ref := ⟨kindCount + 6⟩

/-- The empty byte string. -/
def emptyBytesRef : Ref := ⟨kindCount + 7⟩

/-- The object of a truth value. -/
def boolRef (b : Bool) : Ref := if b then trueRef else falseRef

/-- The object of an integer of which there is one each. -/
def smallInt? (n : Int) : Option Ref :=
  if -5 ≤ n ∧ n ≤ 256 then some ⟨kindCount + 8 + (n + 5).toNat⟩ else none

/-- The object of a string of one narrow character. -/
def narrowChar? : List Nat → Option Ref
  | [] => some emptyStrRef
  | [p] => if p < 256 then some ⟨kindCount + 8 + 262 + p⟩ else none
  | _ => none

/-- The object of a class. -/
def Class.ref : Class → Ref
  | .builtin k => k.ref
  | .user r => r

/-- An object of a built-in type without attributes. -/
def Object.of (k : Kind) (d : Data) : Object := { cls := .builtin k, data := d }

/-- The singletons that follow the built-in types. -/
def singletons : List Object :=
  [.of .noneType .plain, .of .bool (.int 1), .of .bool (.int 0), .of .ellipsis .plain,
   .of .notImplementedType .plain, .of .tuple (.tuple []), .of .str (.str .empty),
   .of .bytes (.bytes [])]

/-- The small integers and the strings of one narrow character. -/
def smallObjects : List Object :=
  (List.range 262).map (fun (i : Nat) => Object.of .int (.int (Int.ofNat i - 5))) ++
  (List.range 256).map (fun i => Object.of .str (.str ⟨[i]⟩))

/-- The objects made first, in the order of their references. -/
def firstObjects : List Object :=
  (Kind.all.map fun k => Object.of .type (.kind k)) ++ singletons ++ smallObjects

/-! ### Access -/

/-- The object of a reference. -/
def object (r : Ref) : Exec Object := do
  return (← get).heap.getD r.id default

/-- Puts a new object on the heap. -/
def alloc (o : Object) : Exec Ref :=
  modifyGet fun m => (⟨m.heap.size⟩, { m with heap := m.heap.push o })

/-- Replaces an object. -/
def setObject (r : Ref) (o : Object) : Exec Unit :=
  modify fun m => { m with heap := m.heap.set! r.id o }

/-- The data of an object. -/
def dataOf (r : Ref) : Exec Data := do
  return (← object r).data

/-- Replaces the data of an object. -/
def setData (r : Ref) (d : Data) : Exec Unit := do
  setObject r { (← object r) with data := d }

/-- The class of an object. -/
def classOf (r : Ref) : Exec Class := do
  return (← object r).cls

/-! ### New objects -/

/-- The object of an integer. -/
def newInt (n : Int) : Exec Ref :=
  match smallInt? n with
  | some r => pure r
  | none => alloc (.of .int (.int n))

/-- A new floating-point number. -/
def newFloat (bits : Nat) : Exec Ref := alloc (.of .float (.float bits))

/-- The object of a string. -/
def newText (t : Text) : Exec Ref :=
  match narrowChar? t.points with
  | some r => pure r
  | none => alloc (.of .str (.str t))

/-- The object of a host string. -/
def newStr (s : String) : Exec Ref := newText (Text.ofString s)

/-- The one object of a string that is used as a name. -/
def intern (t : Text) : Exec Ref := do
  match narrowChar? t.points with
  | some r => return r
  | none =>
    match (← get).interned.find? (·.1 == t) with
    | some (_, r) => return r
    | none =>
      let r ← alloc (.of .str (.str t))
      modify fun m => { m with interned := (t, r) :: m.interned }
      return r

/-- The object of a byte string. -/
def newBytes (bs : List UInt8) : Exec Ref :=
  if bs.isEmpty then pure emptyBytesRef else alloc (.of .bytes (.bytes bs))

/-- A new list. -/
def newList (items : List Ref) : Exec Ref := alloc (.of .list (.list items.toArray))

/-- A tuple; there is one empty tuple. -/
def newTuple (items : List Ref) : Exec Ref :=
  if items.isEmpty then pure emptyTupleRef else alloc (.of .tuple (.tuple items))

/-- A new empty dictionary. -/
def newDict : Exec Ref := alloc (.of .dict (.dict []))

/-- A new slice. -/
def newSlice (start stop step : Ref) : Exec Ref := alloc (.of .slice (.slice start stop step))

/-- A new iterator. -/
def newCursor (k : Kind) (c : Cursor) : Exec Ref := alloc (.of k (.cursor c))

/-! ### Raising -/

/-- What an exception of the operating system keeps apart from its arguments, if there are as many
as describe a failure. -/
def systemErrorFields (args : List Ref) : List (String × Ref) :=
  let named (id : String) (i : Nat) : List (String × Ref) :=
    ((args[i]?.filter (· != noneRef)).map fun r => (id, r)).toList
  let files := match named "filename" 2 with
    | [] => []
    | f => f ++ named "filename2" 4
  if 2 ≤ args.length && args.length ≤ 5 then
    (["errno", "strerror"].zip args) ++ files
  else []

/-- What an exception keeps apart from its arguments when it is made. -/
def errorFields (k : ErrorKind) (args : List Ref) : Exec (List (String × Ref)) := do
  let line := k.lineage
  let first (id : String) : List (String × Ref) := (args.head?.map fun r => (id, r)).toList
  if line.contains .stopIteration then return first "value"
  else if line.contains .systemExit then
    if args.length ≤ 1 then return first "code" else return [("code", ← newTuple args)]
  else if line.contains .importError then
    return if args.length == 1 then first "msg" else []
  else if line.contains .osError then return systemErrorFields args
  else if line.contains .syntaxError then
    match args with
    | [_, info] =>
      match ← dataOf info with
      | .tuple items =>
        return first "msg" ++ ["filename", "lineno", "offset", "text", "end_lineno",
          "end_offset"].zip items
      | _ => return first "msg"
    | _ => return first "msg"
  else if line.contains .unicodeTranslateError then
    return ["object", "start", "end", "reason"].zip args
  else if line.contains .unicodeEncodeError || line.contains .unicodeDecodeError then
    return ["encoding", "object", "start", "end", "reason"].zip args
  else return []

/-- A new exception of a built-in type. -/
def newError (k : ErrorKind) (args : List Ref) : Exec Ref := do
  let context := (← get).handling.head?
  let slots ← errorFields k args
  alloc { Object.of (.error k) (.error ⟨args, none, context, []⟩) with slots }

/-- Raises an exception object. -/
def raiseRef {α : Type} (r : Ref) : Exec α := do
  let trace := match ← dataOf r with
    | .error e => e.trace
    | _ => []
  throw ⟨r, trace⟩

/-- Raises an exception of a built-in type with a message. -/
def raiseError {α : Type} (k : ErrorKind) (message : String) : Exec α := do
  raiseRef (← newError k [← newStr message])

/-- Raises a `TypeError`. -/
def typeError {α : Type} (message : String) : Exec α := raiseError .typeError message

/-- Raises a `ValueError`. -/
def valueError {α : Type} (message : String) : Exec α := raiseError .valueError message

/-- The name of a class in error messages. -/
def Class.fullName : Class → Exec String
  | .builtin k => return k.fullName
  | .user r => do
    match ← dataOf r with
    | .cls c => return c.name
    | _ => return "?"

/-- The name of an object's class in error messages. -/
def typeNameOf (r : Ref) : Exec String := do
  (← classOf r).fullName

/-- The dictionary of the module whose code runs. -/
def currentGlobals? : Exec (Option Ref) := do
  return ((← get).frames.head?).map (·.globals)

/-! ### Reading built-in data -/

/-- The integer in an object of type `int` or a type that extends it. -/
def int? (r : Ref) : Exec (Option Int) := do
  match ← dataOf r with
  | .int n => return some n
  | _ => return none

/-- The text in an object of type `str` or a type that extends it. -/
def text? (r : Ref) : Exec (Option Text) := do
  match ← dataOf r with
  | .str t => return some t
  | _ => return none

/-- Whether an object is `None`. -/
def isNone (r : Ref) : Bool := r == noneRef

/-- The classes that attributes of a class's instances are looked up in, the class itself first. -/
def Class.order : Class → Exec (List Class)
  | .builtin k => return k.lineage.map .builtin
  | .user r => do
    match ← dataOf r with
    | .cls c => return c.order
    | _ => return []

/-- Whether a class is or extends a built-in type. -/
def Class.extendsKind (c : Class) (k : Kind) : Exec Bool := do
  match c with
  | .builtin b => return b.lineage.contains k
  | .user _ => return (← c.order).contains (.builtin k)

/-- Whether a class is or extends another. -/
def Class.extends (c d : Class) : Exec Bool := do
  return (← c.order).contains d

/-- Whether an object belongs to a built-in type or one that extends it. -/
def isKind (r : Ref) (k : Kind) : Exec Bool := do
  (← classOf r).extendsKind k

/-- The class that an object is, if it is one. -/
def class? (r : Ref) : Exec (Option Class) := do
  match ← dataOf r with
  | .kind k => return some (.builtin k)
  | .cls _ => return some (.user r)
  | _ => return none

/-- The nearest built-in type among the classes of a class. -/
def Class.baseKind (c : Class) : Exec Kind := do
  match c with
  | .builtin k => return k
  | .user _ =>
    let order ← c.order
    return (order.findSome? fun | .builtin k => some k | _ => none).getD .object

/-- Whether an exception belongs to a built-in exception type. -/
def isError (r : Ref) (k : ErrorKind) : Exec Bool := isKind r (.error k)

end GuestBridge.Guest
