import GuestBridge.Guest.Sorting
import GuestBridge.Guest.Method.Bytes

/-!
# Methods of sequences

Lists, tuples, double-ended queues, mutable byte strings, ranges, slices and views of memory.
-/

namespace GuestBridge.Guest

/-- How many arguments the methods of sequences take. -/
def sequenceArity (k : Kind) (id : String) : Arity :=
  match k, id with
  | .list, "sort" => .any
  | .deque, "pop" => .none
  | .deque, "rotate" => .counted 0 1
  | .deque, "insert" => .counted 2 2
  | .deque, "index" => .counted 1 3
  | .range, "index" => .one
  | .memoryview, "tobytes" | .memoryview, "hex" | .memoryview, "cast" | .memoryview, "__exit__" =>
    .any
  | _, "append" | _, "extend" | _, "remove" | _, "count" | _, "appendleft" | _, "extendleft"
  | _, "indices" => .one
  | _, "pop" => .between 0 1
  | _, "insert" => .between 2 2
  | _, "index" => .between 1 3
  | _, _ => .none

section
variable [Ops]

/-- The place of the first element that is or equals an object. -/
def placeAmong (x : Ref) : List Ref → (place : Nat) → Exec (Option Nat)
  | [], _ => return none
  | y :: ys, i => do
    if ← Ops.equal y x then return some i else placeAmong x ys (i + 1)

/-- How many elements are or equal an object. -/
def countAmong (x : Ref) : List Ref → Exec Nat
  | [] => return 0
  | y :: ys => do
    let here ← Ops.equal y x
    return (if here then 1 else 0) + (← countAmong x ys)

/-- A bound of a search, which must be given. -/
def searchBound (r : Ref) : Exec Int := do
  match ← index? r with
  | some n => return n
  | none => typeError "slice indices must be integers or have an __index__ method"

/-- The place of the first element that is or equals an object, between bounds among arguments. -/
def placeBetween (x : Ref) (items : List Ref) (a : Args) : Exec (Option Nat) := do
  let bound (r : Option Ref) (usual : Int) : Exec Nat := do
    match r with
    | none => return (clampBound items.length 1 usual).toNat
    | some r => return (clampBound items.length 1 (← searchBound r)).toNat
  let start ← bound (a.at? 1) 0
  let stop ← bound (a.at? 2) items.length
  placeAmong x ((items.take stop).drop start) start

/-- Refuses to name the place of an object that is not there. -/
def notIn {α : Type} (x : Ref) (what : String) : Exec α := do
  raiseRef (← newError .valueError
    [← newText ((← Ops.repr x) ++ Text.ofString (" is not in " ++ what))])

/-! ### Lists and tuples -/

/-- Sorts a list in place. While it is sorted it is empty, and it must stay so. -/
def sortList (r : Ref) (items : List Ref) (a : Args) : Exec Ref := do
  if !a.positional.isEmpty then typeError "sort() takes no positional arguments"
  setData r (.list #[])
  let restore : Exec Unit := setData r (.list items.toArray)
  let sorted ← tryCatch (sortNamed "sort" items a) fun e => do
    restore
    throw e
  let untouched := match ← dataOf r with
    | .list now => now.isEmpty
    | _ => false
  setData r (.list sorted.toArray)
  if untouched then return noneRef else valueError "list modified during sort"

/-- A method of lists. -/
def listMethod (r : Ref) (items : Array Ref) (id : String) (a : Args) : Exec Ref := do
  let x := a.at 0
  match id with
  | "append" =>
    setData r (.list (items.push x))
    return noneRef
  | "extend" =>
    let more ← elements x
    match ← dataOf r with
    | .list now => setData r (.list (now ++ more.toArray))
    | _ => pure ()
    return noneRef
  | "pop" =>
    let i ← match a.at? 0 with
      | some k => sizeArg k
      | none => pure (-1)
    if items.isEmpty then raiseError .indexError "pop from empty list"
    match placeOf? items.size i with
    | some j =>
      setData r (.list (items.eraseIdxIfInBounds j))
      return items.getD j noneRef
    | none => raiseError .indexError "pop index out of range"
  | "insert" =>
    let i ← sizeArg x
    let j := (clampBound items.size 1 i).toNat
    let xs := items.toList
    setData r (.list (xs.take j ++ a.at 1 :: xs.drop j).toArray)
    return noneRef
  | "remove" =>
    match ← placeAmong x items.toList 0 with
    | some j =>
      setData r (.list (items.eraseIdxIfInBounds j))
      return noneRef
    | none => valueError "list.remove(x): x not in list"
  | "index" =>
    match ← placeBetween x items.toList a with
    | some j => newInt j
    | none => notIn x "list"
  | "count" => newInt (← countAmong x items.toList)
  | "clear" =>
    setData r (.list #[])
    return noneRef
  | "copy" => newList items.toList
  | "reverse" =>
    setData r (.list items.reverse)
    return noneRef
  | "sort" => sortList r items.toList a
  | "__reversed__" => newCursor .listReverseIterator (.backwards r items.size)
  | "__sizeof__" => newInt (40 + 8 * items.size)
  | _ => raiseError .notImplementedError id

/-- A method of tuples. -/
def tupleMethod (items : List Ref) (id : String) (a : Args) : Exec Ref := do
  match id with
  | "count" => newInt (← countAmong (a.at 0) items)
  | "index" =>
    match ← placeBetween (a.at 0) items a with
    | some j => newInt j
    | none => valueError "tuple.index(x): x not in tuple"
  | "__getnewargs__" => newTuple [← newTuple items]
  | _ => raiseError .notImplementedError id

/-! ### Double-ended queues -/

/-- Drops what a bounded queue cannot hold. -/
def bounded (limit : Option Nat) (atLeft : Bool) (items : List Ref) : List Ref :=
  match limit with
  | none => items
  | some n => if atLeft then items.take n else lastOf limit items

/-- A method of double-ended queues. -/
def dequeMethod (r : Ref) (items : List Ref) (limit : Option Nat) (id : String) (a : Args) :
    Exec Ref := do
  let x := a.at 0
  let put (atLeft : Bool) (xs : List Ref) : Exec Ref := do
    setData r (.deque (bounded limit atLeft xs) limit)
    return noneRef
  match id with
  | "append" => put false (items ++ [x])
  | "appendleft" => put true (x :: items)
  | "extend" => do put false (items ++ (← elements x))
  | "extendleft" => do put true ((← elements x).reverse ++ items)
  | "pop" =>
    match items.getLast? with
    | some y =>
      setData r (.deque items.dropLast limit)
      return y
    | none => raiseError .indexError "pop from an empty deque"
  | "popleft" =>
    match items with
    | y :: ys =>
      setData r (.deque ys limit)
      return y
    | [] => raiseError .indexError "pop from an empty deque"
  | "clear" => put false []
  | "copy" | "__copy__" => alloc { cls := ← classOf r, data := .deque items limit }
  | "count" => newInt (← countAmong x items)
  | "index" =>
    match ← placeBetween x items a with
    | some j => newInt j
    | none => notIn x "deque"
  | "insert" =>
    let i ← sizeArg x
    if limit == some items.length then
      raiseError .indexError "deque already at its maximum size"
    let j := (clampBound items.length 1 i).toNat
    put false (items.take j ++ a.at 1 :: items.drop j)
  | "remove" =>
    match ← placeAmong x items 0 with
    | some j => put false (items.eraseIdx j)
    | none => valueError "deque.remove(x): x not in deque"
  | "reverse" => put false items.reverse
  | "rotate" =>
    let n ← match a.at? 0 with
      | some k => sizeArg k
      | none => pure 1
    if items.isEmpty then return noneRef
    else
      let k := (n % items.length).toNat
      put false (items.drop (items.length - k) ++ items.take (items.length - k))
  | "__reversed__" => newCursor .dequeReverseIterator (.dequeBackwards r items.length items.length)
  | _ => raiseError .notImplementedError id

/-! ### Byte arrays -/

/-- The bytes that a mutable byte string is extended by. -/
def extensionBytes (x : Ref) : Exec (List UInt8) := do
  match ← bytes? x with
  | some bs => return bs
  | none =>
    match ← dataOf x with
    | .str _ => typeError "expected iterable of integers; got: 'str'"
    | _ =>
      match ← iter? x with
      | some _ => (← elements x).mapM byteOf
      | none => typeError ("can't extend bytearray with " ++ (← typeNameOf x))

/-- A method of mutable byte strings that changes them; `none` for the others. -/
def bytearrayMethod? (r : Ref) (bs : List UInt8) (id : String) (a : Args) : Exec (Option Ref) := do
  let x := a.at 0
  let put (cs : List UInt8) : Exec (Option Ref) := do
    setBytes r cs
    return some noneRef
  match id with
  | "append" => do put (bs ++ [← byteOf x])
  | "extend" => do put (bs ++ (← extensionBytes x))
  | "pop" =>
    let i ← match a.at? 0 with
      | some k => sizeArg k
      | none => pure (-1)
    if bs.isEmpty then raiseError .indexError "pop from empty bytearray"
    match placeOf? bs.length i with
    | some j =>
      setBytes r (bs.eraseIdx j)
      return some (← newInt (bs.getD j 0).toNat)
    | none => raiseError .indexError "pop index out of range"
  | "insert" =>
    let j := (clampBound bs.length 1 (← sizeArg x)).toNat
    let b ← byteOf (a.at 1)
    put (bs.take j ++ b :: bs.drop j)
  | "remove" =>
    let b ← byteOf x
    if bs.contains b then put (bs.erase b) else valueError "value not found in bytearray"
  | "clear" => put []
  | "copy" => some <$> alloc (.of .bytearray (.bytearray bs))
  | "reverse" => put bs.reverse
  | _ => return none

/-! ### Ranges, slices, memory -/

/-- A method of ranges. -/
def rangeMethod (r : Ref) (start stop step : Int) (id : String) (a : Args) : Exec Ref := do
  let n := rangeLength start stop step
  match id with
  | "count" =>
    match ← dataOf (a.at 0), ← classOf (a.at 0) with
    | .int _, .builtin _ =>
      let has ← containsData r (.range start stop step) (a.at 0)
      newInt (if has then 1 else 0)
    | _, _ => do newInt (← countAmong (a.at 0) (← elements r))
  | "index" =>
    match ← dataOf (a.at 0), ← classOf (a.at 0) with
    | .int i, .builtin _ =>
      if ← containsData r (.range start stop step) (a.at 0) then newInt ((i - start) / step)
      else notIn (a.at 0) "range"
    | _, _ =>
      match ← placeAmong (a.at 0) (← elements r) 0 with
      | some j => newInt j
      | none => valueError "sequence.index(x): x not in sequence"
  | "__reversed__" => newCursor .rangeIterator (.range (start + (n - 1) * step) (-step) n)
  | _ => raiseError .notImplementedError id

/-- A method of slices. -/
def sliceMethod (start stop step : Ref) (id : String) (a : Args) : Exec Ref := do
  match id with
  | "indices" =>
    let n ← index (a.at 0)
    if n < 0 then valueError "length should not be negative"
    let st := (← sliceBound step).getD 1
    if st == 0 then valueError "slice step cannot be zero"
    let s ← select n.toNat start stop step
    let e : Int := match ← sliceBound stop with
      | some i => clampBound n.toNat st i
      | none => if st < 0 then -1 else n
    newTuple [← newInt s.start, ← newInt e, ← newInt s.step]
  | _ => raiseError .notImplementedError id

/-- A view of the same bytes in another format. -/
def castWindow (of : Ref) (w : Window) (a : Args) : Exec Ref := do
  let vs ← bindNamed "cast" (.requiring 1 ["format", "shape"]) a
  let f := orNone (parameter? vs 0)
  let some format ← (fun t => t.map Text.lossy) <$> text? f
    | typeError ("cast() argument 'format' must be str, not " ++ (← typeNameOf f))
  if !w.isContiguous then typeError "memoryview: casts are restricted to C-contiguous views"
  let some letter := formatLetter? format
    | valueError ("memoryview: destination format must be a native single character format " ++
        "prefixed with an optional '@'")
  if !isByteFormat w.letter && !isByteFormat letter then
    typeError "memoryview: cannot cast between two non-byte formats"
  let size := (itemSize? letter).getD 1
  let total := w.count * w.itemSize
  if total % size != 0 then typeError "memoryview: length is not a multiple of itemsize"
  match (parameter? vs 1).filter (!isNone ·) with
  | none => pure ()
  | some shape =>
    let lengths ← match ← dataOf shape with
      | .list items => pure items.toList
      | .tuple items => pure items
      | _ => typeError "shape must be a list or a tuple"
    let ns ← lengths.mapM sizeArg
    if ns.length > 1 then raiseError .notImplementedError "memoryview: one dimension at most"
    if ns.foldl (· * ·) (size : Int) != total then
      typeError "memoryview: product(shape) * itemsize != buffer size"
  newWindow of ⟨w.start, total / size, size, format, w.readOnly⟩

/-- A method of views of memory. -/
def memoryMethod (r of : Ref) (w : Window) (id : String) (a : Args) : Exec Ref := do
  match id with
  | "release" | "__exit__" =>
    putSlot r "released" trueRef
    return noneRef
  | _ =>
    checkHeld r
    match id with
    | "tobytes" =>
      let vs ← bindNamed id (.optional ["order"]) a
      if let some o := (parameter? vs 0).filter (!isNone ·) then
        match ← text? o with
        | none =>
          typeError ("tobytes() argument 'order' must be str or None, not " ++ (← typeNameOf o))
        | some t =>
          unless ["C", "F", "A"].contains t.lossy do
            valueError "order must be 'C', 'F' or 'A'"
      newBytes (← windowBytes r of w)
    | "tolist" => newList (← windowItems r of w)
    | "hex" => namedBytesMethod false (← windowBytes r of w) "hex" a
    | "__enter__" => return r
    | "toreadonly" => newWindow of { w with readOnly := true }
    | _ => castWindow of w a

end

end GuestBridge.Guest
