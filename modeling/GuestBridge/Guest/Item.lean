import GuestBridge.Guest.Iterate

/-!
# Subscripts and membership

Reading, setting and deleting what stands under a subscript, and asking whether an object contains
another. Sequences take integers and slices; tables take keys.
-/

namespace GuestBridge.Guest

/-! ### Slices -/

/-- The indices that a slice selects in a sequence: where it starts, the step, and how many. -/
structure Selection where
  start : Int
  step : Int
  count : Nat
  deriving Repr

/-- The selected indices in order. -/
def Selection.indices (s : Selection) : List Nat :=
  (List.range s.count).map fun (i : Nat) => (s.start + i * s.step).toNat

/-- A bound of a slice, moved into a sequence of length `n`. -/
def clampBound (n : Nat) (step : Int) (i : Int) : Int :=
  let j := if i < 0 then i + n else i
  let low : Int := if step < 0 then -1 else 0
  let high : Int := if step < 0 then (n : Int) - 1 else n
  max low (min high j)

/-- The selection of a slice with given bounds in a sequence of length `n`. -/
def selectFrom (n : Nat) (start stop : Option Int) (step : Int) : Selection :=
  let a := match start with
    | some i => clampBound n step i
    | none => if step < 0 then (n : Int) - 1 else 0
  let b := match stop with
    | some i => clampBound n step i
    | none => if step < 0 then -1 else n
  ⟨a, step, rangeLength a b step⟩

/-- The selected elements of a list. -/
def Selection.pick {α : Type} (s : Selection) (xs : List α) : List α :=
  if s.step == 1 then (xs.drop s.start.toNat).take s.count
  else
    let a := xs.toArray
    s.indices.filterMap fun i => a[i]?

/-- A list without the selected elements. -/
def Selection.remove {α : Type} (s : Selection) (xs : List α) : List α :=
  let drop := s.indices
  ((List.range xs.length).zip xs).filterMap fun (i, x) => if drop.contains i then none else some x

/-- A list with the selected elements replaced one by one. -/
def Selection.replace {α : Type} (s : Selection) (xs ys : List α) : List α :=
  ((s.indices.zip ys).foldl (fun (a : Array α) (i, y) => a.setIfInBounds i y) xs.toArray).toList

section
variable [Ops]

/-- A bound of a slice: an integer, or none. -/
def sliceBound (r : Ref) : Exec (Option Int) := do
  if isNone r then return none
  else
    match ← index? r with
    | some n => return some n
    | none =>
      typeError "slice indices must be integers or None or have an __index__ method"

/-- The selection of a slice object in a sequence of length `n`. -/
def select (n : Nat) (start stop step : Ref) : Exec Selection := do
  let st := (← sliceBound step).getD 1
  if st == 0 then valueError "slice step cannot be zero"
  let a ← sliceBound start
  let b ← sliceBound stop
  return selectFrom n a b st

/-! ### Reading -/

/-- What a sequence type says about wrong subscripts. -/
structure SubscriptMessages where
  kind : String
  range : String
  assignment : String

/-- The messages of a sequence by its data. -/
def subscriptMessages : Data → SubscriptMessages
  | .list _ => ⟨"list indices must be integers or slices, not ", "list index out of range",
      "list assignment index out of range"⟩
  | .tuple _ => ⟨"tuple indices must be integers or slices, not ", "tuple index out of range", ""⟩
  | .bytes _ => ⟨"byte indices must be integers or slices, not ", "index out of range", ""⟩
  | .bytearray _ => ⟨"bytearray indices must be integers or slices, not ",
      "bytearray index out of range", "bytearray index out of range"⟩
  | .range _ _ _ => ⟨"range indices must be integers or slices, not ",
      "range object index out of range", ""⟩
  | .deque _ _ => ⟨"sequence index must be integer, not ", "deque index out of range",
      "deque index out of range"⟩
  | .memory _ _ => ⟨"memoryview: invalid slice key", "index out of bounds on dimension 1",
      "index out of bounds on dimension 1"⟩
  | _ => ⟨"string indices must be integers, not ", "string index out of range", ""⟩

/-- Refuses a subscript of the wrong kind. -/
def wrongSubscript {α : Type} (d : Data) (k : Ref) : Exec α := do
  let name ← typeNameOf k
  let m := (subscriptMessages d).kind
  match d with
  | .str _ | .deque _ _ => typeError (m ++ "'" ++ name ++ "'")
  | .memory _ _ => typeError m
  | _ => typeError (m ++ name)

/-- The place of an index in a sequence of length `n`, counted from the end if negative. -/
def placeOf? (n : Nat) (i : Int) : Option Nat :=
  let j := if i < 0 then i + n else i
  if 0 ≤ j && j < n then some j.toNat else none

/-- The part of a window that a slice selects. -/
def Window.select (w : Window) (s : Selection) : Window :=
  { w with start := w.start + s.start * w.step, count := s.count, step := w.step * s.step }

/-- The part of a sequence that a slice selects. -/
def slicedData (d : Data) (start stop step : Ref) : Exec Ref := do
  match d with
  | .list items =>
    let s ← select items.size start stop step
    newList (s.pick items.toList)
  | .tuple items =>
    let s ← select items.length start stop step
    newTuple (s.pick items)
  | .str t =>
    let s ← select t.length start stop step
    newText ⟨s.pick t.points⟩
  | .bytes bs =>
    let s ← select bs.length start stop step
    newBytes (s.pick bs)
  | .bytearray bs =>
    let s ← select bs.length start stop step
    alloc (.of .bytearray (.bytearray (s.pick bs)))
  | .range a b st =>
    let n := rangeLength a b st
    let s ← select n start stop step
    let stop : Int := match ← sliceBound stop with
      | some i => clampBound n s.step i
      | none => if s.step < 0 then -1 else n
    alloc (.of .range (.range (a + s.start * st) (a + stop * st) (st * s.step)))
  | .memory of w =>
    newWindow of (w.select (← select w.count start stop step))
  | _ => typeError "slices are not supported"

/-- Raises the error for a key that is not there. -/
def missingKey {α : Type} (k : Ref) : Exec α := do
  raiseRef (← newError .keyError [k])

/-- The value that a dictionary supplies for a missing key, if it has a way of making one. -/
def suppliedValue (r k : Ref) : Exec Ref := do
  match ← dataOf r with
  | .defaultDict _ f =>
    if isNone f then missingKey k
    else
      let v ← Ops.call f (.of [])
      putKey r k v
      return v
  | _ => missingKey k

/-- The value under a key of a dictionary; classes that extend `dict` may supply a missing one. -/
def dictItem (r k : Ref) : Exec Ref := do
  match ← getKey r k with
  | some v => return v
  | none =>
    match ← callSpecial? r "__missing__" [k] with
    | some v => return v
    | none => suppliedValue r k

/-- The only index in a tuple by which a view of memory is subscripted. -/
def windowIndex (k : Ref) (is : List Ref) : Exec Ref := do
  let indices ← is.filterM fun i => return (← index? i).isSome
  let slices ← is.filterM fun i => isKind i .slice
  if indices.length == is.length then
    match is with
    | [] => raiseError .notImplementedError "sub-views are not implemented"
    | [i] => return i
    | _ =>
      typeError ("cannot index 1-dimension view with " ++ toString is.length ++ "-element tuple")
  else if slices.length == is.length then
    raiseError .notImplementedError "multi-dimensional slicing is not implemented"
  else wrongSubscript (.memory k (.whole 0 true)) k

/-- What stands under a subscript of a sequence. -/
def sequenceItem (r : Ref) (d : Data) (size : Nat) (k : Ref) : Exec Ref := do
  if let .memory _ _ := d then checkHeld r
  let k ← match d, ← dataOf k with
    | .memory _ _, .tuple is => windowIndex k is
    | _, _ => pure k
  match ← index? k with
  | none =>
    match ← dataOf k with
    | .slice a b s =>
      match d with
      | .deque _ _ => wrongSubscript d k
      | _ => slicedData d a b s
    | _ => wrongSubscript d k
  | some n =>
    match d with
    | .range a _ s =>
      match placeOf? size n with
      | some i => newInt (a + s * i)
      | none => raiseError .indexError (subscriptMessages d).range
    | _ =>
      let i ← sizeIndex .indexError k
      match placeOf? size i with
      | some j =>
        match ← elementAt? d j with
        | some x => return x
        | none => raiseError .indexError (subscriptMessages d).range
      | none => raiseError .indexError (subscriptMessages d).range

/-- The built-in types that can be given type arguments. -/
def Kind.isGeneric : Kind → Bool
  | .list | .dict | .tuple | .type | .set | .frozenset | .deque | .defaultDict | .orderedDict
  | .enumerate | .mappingProxy | .weakReference => true
  | _ => false

/-- A type with type arguments. -/
def newAlias (origin k : Ref) : Exec Ref := do
  let args ← match ← dataOf k with
    | .tuple items => pure items
    | _ => pure [k]
  alloc (.of .genericAlias (.alias origin args))

/-- A subscript of a class. -/
def classItem (r : Ref) (c : Class) (k : Ref) : Exec Ref := do
  if r == Kind.type.ref then newAlias r k
  else
    match ← c.find "__class_getitem__" with
    | .value f => Ops.call (← bindValue f r c) (.of [k])
    | .member b _ =>
      if b.isGeneric then newAlias r k
      else typeError ("type '" ++ (← c.fullName) ++ "' is not subscriptable")
    | _ => typeError ("type '" ++ (← c.fullName) ++ "' is not subscriptable")

/-- What stands under a subscript. -/
def getItem (r k : Ref) : Exec Ref := do
  match ← callSpecial? r "__getitem__" [k] with
  | some v => return v
  | none =>
    let d ← dataOf r
    match d with
    | .dict _ | .defaultDict _ _ => dictItem r k
    | .proxy of => dictItem of k
    | .kind b => classItem r (.builtin b) k
    | .cls _ => classItem r (.user r) k
    | .set _ | .view _ _ => typeError ("'" ++ (← typeNameOf r) ++ "' object is not subscriptable")
    | _ =>
      match ← sizeOfData d with
      | some n => sequenceItem r d n k
      | none => typeError ("'" ++ (← typeNameOf r) ++ "' object is not subscriptable")

/-! ### Setting -/

/-- Whether an object is a sequence or container to the machine, even if it has no elements to
set. -/
def hasSequenceSide (r : Ref) : Exec Bool := do
  match ← classOf r with
  | .user _ =>
    match ← class? r with
    | some _ => return false
    | none => return true
  | .builtin k =>
    match k with
    | .str | .bytes | .bytearray | .list | .tuple | .dict | .set | .frozenset | .range
    | .dictKeys | .dictValues | .dictItems | .deque | .memoryview | .mappingProxy | .defaultDict
    | .orderedDict => return true
    | _ => return false

/-- A byte from an object. -/
def byteOf (v : Ref) : Exec UInt8 := do
  let n ← index v
  if 0 ≤ n && n < 256 then return n.toNat.toUInt8
  else valueError "byte must be in range(0, 256)"

/-- The place of a subscript at which something is to be set or deleted. -/
def assignmentPlace (d : Data) (size : Nat) (k : Ref) : Exec Nat := do
  let i ← sizeIndex .indexError k
  match placeOf? size i with
  | some j => return j
  | none => raiseError .indexError (subscriptMessages d).assignment

/-- Replaces the part of a list that a slice selects. -/
def assignSlice (items : List Ref) (start stop step v : Ref) : Exec (List Ref) := do
  let s ← select items.length start stop step
  let values ← match ← iter? v with
    | some _ => elements v
    | none =>
      typeError (if s.step == 1 then "can only assign an iterable"
        else "must assign iterable to extended slice")
  if s.step == 1 then
    return items.take s.start.toNat ++ values ++ items.drop (s.start.toNat + s.count)
  else if values.length != s.count then
    valueError ("attempt to assign sequence of size " ++ toString values.length ++
      " to extended slice of size " ++ toString s.count)
  else return s.replace items values

/-- The bytes of an object that holds bytes. -/
def bytes? (r : Ref) : Exec (Option (List UInt8)) := do
  match ← dataOf r with
  | .bytes bs | .bytearray bs => return some bs
  | .memory of w => some <$> windowBytes r of w
  | _ => return none

/-- The bytes of an object that holds bytes or gives integers. -/
def bytesFrom (v : Ref) : Exec (List UInt8) := do
  match ← bytes? v with
  | some bs => return bs
  | none => (← elements v).mapM byteOf

/-- An object as the bytes of an item in the given format. -/
def itemBytes (format : String) (letter : Char) (v : Ref) : Exec (List UInt8) := do
  let wrongType : Exec (List UInt8) :=
    typeError ("memoryview: invalid type for format '" ++ format ++ "'")
  let wrongValue : Exec (List UInt8) :=
    valueError ("memoryview: invalid value for format '" ++ format ++ "'")
  let size := (itemSize? letter).getD 1
  match letter with
  | 'c' =>
    match ← dataOf v with
    | .bytes [b] => return [b]
    | .bytes _ => wrongValue
    | _ => wrongType
  | '?' => return [if ← isTrue v then 1 else 0]
  | 'd' | 'f' =>
    match (← dataOf v).num? with
    | some (.float b) =>
      if letter == 'd' then return bytesOfNumber 8 b
      else return bytesOfNumber 4 (Float.ofBits b.toUInt64).toFloat32.toBits.toNat
    | some (.int n) =>
      let x := Float.ofInt n
      if letter == 'd' then return bytesOfNumber 8 x.toBits.toNat
      else return bytesOfNumber 4 x.toFloat32.toBits.toNat
    | _ => wrongType
  | _ =>
    match ← index? v with
    | none => wrongType
    | some n =>
      let high : Int := Nat.pow 2 (if isSignedFormat letter then 8 * size - 1 else 8 * size)
      let low : Int := if isSignedFormat letter then -high else 0
      if low ≤ n && n < high then return bytesOfNumber size (n % Nat.pow 2 (8 * size)).toNat
      else wrongValue

/-- Changes what a view of memory shows under a subscript. -/
def setWindow (r : Ref) (d : Data) (of : Ref) (w : Window) (k v : Ref) : Exec Unit := do
  checkHeld r
  if w.readOnly then typeError "cannot modify read-only memory"
  let setAt (k : Ref) : Exec Unit := do
    let i ← sizeIndex .indexError k
    match placeOf? w.count i with
    | some j =>
      let item ← itemBytes w.format w.letter v
      checkHeld r
      setBytes of (w.replace (← bufferBytes of) j item)
    | none => raiseError .indexError (subscriptMessages d).assignment
  match ← index? k, ← dataOf k with
  | some _, _ => setAt k
  | none, .slice a b s =>
    let (source, from') ← match ← dataOf v with
      | .bytes bs => pure (bs, Window.whole bs.length true)
      | .bytearray bs => pure (bs, Window.whole bs.length false)
      | .memory of' w' =>
        checkHeld v
        pure (← bufferBytes of', w')
      | _ => typeError ("a bytes-like object is required, not '" ++ (← typeNameOf v) ++ "'")
    let place := w.select (← select w.count a b s)
    if place.count != from'.count || place.letter != from'.letter then
      valueError "memoryview assignment: lvalue and rvalue have different structures"
    let buffer ← bufferBytes of
    setBytes of ((List.range place.count).foldl
      (fun buffer i => place.replace buffer i (from'.item source i)) buffer)
  | none, .tuple is => setAt (← windowIndex k is)
  | none, _ => wrongSubscript d k

/-- Sets an element of a sequence; `false` if it cannot be changed. -/
def setSequenceItem (r : Ref) (d : Data) (k v : Ref) : Exec Bool := do
  match d with
  | .list items =>
    match ← index? k, ← dataOf k with
    | some _, _ =>
      let i ← assignmentPlace d items.size k
      setData r (.list (items.setIfInBounds i v))
    | none, .slice a b s => setData r (.list (← assignSlice items.toList a b s v).toArray)
    | none, _ => wrongSubscript d k
    return true
  | .bytearray bs =>
    match ← index? k, ← dataOf k with
    | some _, _ =>
      let i ← sizeIndex .indexError k
      let b ← byteOf v
      match placeOf? bs.length i with
      | some j => setData r (.bytearray (bs.set j b))
      | none => raiseError .indexError (subscriptMessages d).assignment
    | none, .slice a b s =>
      let sel ← select bs.length a b s
      match ← dataOf v with
      | .str _ | .int _ | .float _ | .complex _ _ =>
        typeError "can assign only bytes, buffers, or iterables of ints in range(0, 256)"
      | _ => pure ()
      let new ← bytesFrom v
      if sel.step == 1 then
        setBytes r (bs.take sel.start.toNat ++ new ++ bs.drop (sel.start.toNat + sel.count))
      else if new.length != sel.count then
        valueError ("attempt to assign bytes of size " ++ toString new.length ++
          " to extended slice of size " ++ toString sel.count)
      else setData r (.bytearray (sel.replace bs new))
    | none, _ => wrongSubscript d k
    return true
  | .deque items limit =>
    match ← index? k with
    | some _ =>
      let i ← assignmentPlace d items.length k
      setData r (.deque (items.set i v) limit)
    | none => wrongSubscript d k
    return true
  | .memory of w =>
    setWindow r d of w k v
    return true
  | _ => return false

/-- Sets what stands under a subscript. -/
def setItem (r k v : Ref) : Exec Unit := do
  match ← callSpecial? r "__setitem__" [k, v] with
  | some _ => return ()
  | none =>
    if (← userSpecial? r "__delitem__").isSome then raiseError .attributeError "__setitem__"
    let d ← dataOf r
    match d with
    | .dict _ | .defaultDict _ _ => putKey r k v
    | _ =>
      unless ← setSequenceItem r d k v do
        let indexed : Exec Bool := do return (← index? k).isSome
        if ← hasSequenceSide r <&&> indexed then
          discard <| sizeIndex .indexError k
        typeError ("'" ++ (← typeNameOf r) ++ "' object does not support item assignment")

/-! ### Deleting -/

/-- Deletes an element of a sequence; `false` if it cannot be changed. -/
def deleteSequenceItem (r : Ref) (d : Data) (k : Ref) : Exec Bool := do
  match d with
  | .list items =>
    match ← index? k, ← dataOf k with
    | some _, _ =>
      let i ← assignmentPlace d items.size k
      setData r (.list (items.eraseIdxIfInBounds i))
    | none, .slice a b s =>
      let sel ← select items.size a b s
      setData r (.list (sel.remove items.toList).toArray)
    | none, _ => wrongSubscript d k
    return true
  | .bytearray bs =>
    match ← index? k, ← dataOf k with
    | some _, _ =>
      let i ← assignmentPlace d bs.length k
      setBytes r (bs.eraseIdx i)
    | none, .slice a b s =>
      let sel ← select bs.length a b s
      setBytes r (sel.remove bs)
    | none, _ => wrongSubscript d k
    return true
  | .deque items limit =>
    match ← index? k with
    | some _ =>
      let i ← assignmentPlace d items.length k
      setData r (.deque (items.eraseIdx i) limit)
    | none => wrongSubscript d k
    return true
  | .memory _ w =>
    checkHeld r
    if w.readOnly then typeError "cannot modify read-only memory"
    else typeError "cannot delete memory"
  | _ => return false

/-- Deletes what stands under a subscript. -/
def deleteItem (r k : Ref) : Exec Unit := do
  match ← callSpecial? r "__delitem__" [k] with
  | some _ => return ()
  | none =>
    if (← userSpecial? r "__setitem__").isSome then raiseError .attributeError "__delitem__"
    let d ← dataOf r
    match d with
    | .dict _ | .defaultDict _ _ =>
      match ← removeKey r k with
      | some _ => return ()
      | none => missingKey k
    | _ =>
      unless ← deleteSequenceItem r d k do
        let indexed : Exec Bool := do return (← index? k).isSome
        if ← hasSequenceSide r <&&> indexed then
          discard <| sizeIndex .indexError k
          typeError ("'" ++ (← typeNameOf r) ++ "' object doesn't support item deletion")
        else typeError ("'" ++ (← typeNameOf r) ++ "' object does not support item deletion")

/-! ### Membership -/

/-- Whether a list occurs in another as a part without gaps. -/
def occursIn (xs : List Nat) : List Nat → Bool
  | [] => xs.isEmpty
  | y :: ys => xs.isPrefixOf (y :: ys) || occursIn xs ys

/-- Whether an object is or equals one of several. -/
def isAmong (x : Ref) : List Ref → Exec Bool
  | [] => return false
  | y :: ys => do
    if ← Ops.equal y x then return true else isAmong x ys

/-- Whether an iterator gives an element that is or equals an object. -/
def iteratorHas (it x : Ref) : (fuel : Nat) → Exec Bool
  | 0 => return false
  | fuel + 1 => do
    match ← Ops.next it with
    | none => return false
    | some y => if ← Ops.equal y x then return true else iteratorHas it x fuel

/-- A key that a set is asked for: a set that has no hash stands for its contents. -/
def setKey (r : Ref) : Exec Ref := do
  match ← isKind r .set, ← dataOf r with
  | true, .set t =>
    let hashed : Exec Ref := do
      discard <| Ops.hash r
      return r
    recover hashed .typeError fun _ => alloc (.of .frozenset (.set t))
  | _, _ => return r

/-- Whether an object contains another, by the data of the container. -/
def containsData (r : Ref) (d : Data) (x : Ref) : Exec Bool := do
  match d with
  | .list items => isAmong x items.toList
  | .tuple items | .deque items _ => isAmong x items
  | .dict _ | .defaultDict _ _ => return (← getKey r x).isSome
  | .set _ => return (← getKey r (← setKey x)).isSome
  | .proxy of | .view of .keys => return (← getKey of x).isSome
  | .view of .values => isAmong x ((← entriesOf of).map (·.value))
  | .view of .items =>
    match ← dataOf x with
    | .tuple [k, v] =>
      match ← getKey of k with
      | some w => Ops.equal w v
      | none => return false
    | _ => return false
  | .str t =>
    match ← text? x with
    | some u => return occursIn u.points t.points
    | none =>
      typeError ("'in <string>' requires string as left operand, not " ++ (← typeNameOf x))
  | .bytes bs | .bytearray bs =>
    match ← index? x with
    | some n =>
      if 0 ≤ n && n < 256 then return bs.contains n.toNat.toUInt8
      else valueError "byte must be in range(0, 256)"
    | none =>
      match ← bytes? x with
      | some cs => return occursIn (cs.map UInt8.toNat) (bs.map UInt8.toNat)
      | none => typeError ("a bytes-like object is required, not '" ++ (← typeNameOf x) ++ "'")
  | .range a b s =>
    match ← dataOf x, ← classOf x with
    | .int n, .builtin _ =>
      return (n - a) % s == 0 && 0 ≤ (n - a) / s && (n - a) / s < rangeLength a b s
    | _, _ => iteratorHas (← iter r) x loopLimit
  | _ =>
    let it ← recover (iter r) .typeError fun _ => do
      typeError ("argument of type '" ++ (← typeNameOf r) ++ "' is not iterable")
    iteratorHas it x loopLimit

/-- Whether an object contains another. -/
def contains (r x : Ref) : Exec Bool := do
  match ← userSpecial? r "__contains__" with
  | some f =>
    if isNone f then typeError ("'" ++ (← typeNameOf r) ++ "' object is not a container")
    else isTrue (← callValue f r [x])
  | none =>
    let overridden := (← userSpecial? r "__iter__").isSome
    let d ← dataOf r
    match d with
    | .plain => containsData r d x
    | _ => if overridden && !(← isDict r) then containsData r .plain x else containsData r d x

end

end GuestBridge.Guest
