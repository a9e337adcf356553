import GuestBridge.Guest.Show

/-!
# Iteration

An object that can be iterated over gives an iterator; an iterator gives its elements one by one and
then says that there are no more. Iterators of built-in types are cursors; generators are suspended
frames; classes of a script define both sides themselves, or just subscripts.
-/

namespace GuestBridge.Guest

/-- A bound on loops over iterators that never end. -/
def loopLimit : Nat := Nat.pow 10 12

/-- The object of one character. -/
def newChar (p : Nat) : Exec Ref := newText ⟨[p]⟩

/-- The element of a sequence at an index. -/
def elementAt? (d : Data) (i : Nat) : Exec (Option Ref) := do
  match d with
  | .list items => return items[i]?
  | .tuple items | .deque items _ => return items[i]?
  | .str t =>
    match t.points[i]? with
    | some p => return some (← newChar p)
    | none => return none
  | .bytes bs | .bytearray bs =>
    match bs[i]? with
    | some b => return some (← newInt b.toNat)
    | none => return none
  | .memory of w =>
    if i < w.count then some <$> itemObject w.letter (w.item (← bufferBytes of) i) else return none
  | _ => return none

/-- The element at a place of a sequence that is gone through. A view of memory has to be held until
its end. -/
def elementOf? (r : Ref) (i : Nat) : Exec (Option Ref) := do
  let x ← elementAt? (← dataOf r) i
  if x.isSome then
    if let .memory _ _ := ← dataOf r then checkHeld r
  return x

/-- What a view shows of an entry. -/
def partOf (part : DictPart) (e : Entry) : Exec Ref :=
  match part with
  | .keys => return e.key
  | .values => return e.value
  | .items => newTuple [e.key, e.value]

/-- The type of the iterators of a view. -/
def cursorKind : DictPart → Kind
  | .keys => .dictKeyIterator
  | .values => .dictValueIterator
  | .items => .dictItemIterator

/-- The type of the iterators that go through a view backwards. -/
def backwardCursorKind : DictPart → Kind
  | .keys => .dictReverseKeyIterator
  | .values => .dictReverseValueIterator
  | .items => .dictReverseItemIterator

/-- A new iterator over a part of a dictionary. -/
def newDictCursor (dict : Ref) (part : DictPart) : Exec Ref := do
  let es ← entriesOf dict
  if ← isKind dict .orderedDict then
    let places := es.map (·.place)
    newCursor .orderedIterator (.ordered dict part places places)
  else newCursor (cursorKind part) (.dict dict part 0 (some es.length) es.length)

/-- A new iterator that goes backwards over a part of a dictionary. -/
def newBackwardDictCursor (dict : Ref) (part : DictPart) : Exec Ref := do
  let es ← entriesOf dict
  if ← isKind dict .orderedDict then
    let places := es.map (·.place)
    newCursor .orderedIterator (.ordered dict part places places.reverse)
  else newCursor (backwardCursorKind part) (.dictBackwards dict part es.length es.length)

/-- Whether an integer is an ordinary machine integer. -/
def isMachineInt (n : Int) : Bool := -(Nat.pow 2 63) ≤ n && n < Nat.pow 2 63

/-- The iterator of an object by its data; `none` if it has none. -/
def iterData? (r : Ref) (d : Data) : Exec (Option Ref) := do
  match d with
  | .list _ => some <$> newCursor .listIterator (.sequence r 0)
  | .tuple _ => some <$> newCursor .tupleIterator (.sequence r 0)
  | .str t =>
    some <$> newCursor (if t.points.all (· < 128) then .asciiIterator else .strIterator)
      (.sequence r 0)
  | .bytes _ => some <$> newCursor .bytesIterator (.sequence r 0)
  | .bytearray _ => some <$> newCursor .bytearrayIterator (.sequence r 0)
  | .memory _ _ =>
    checkHeld r
    some <$> newCursor .memoryIterator (.sequence r 0)
  | .deque items _ => some <$> newCursor .dequeIterator (.deque r 0 items.length)
  | .dict _ | .defaultDict _ _ => some <$> newDictCursor r .keys
  | .set t => some <$> newCursor .setIterator (.set r (t.entries.map (·.key)) (some t.count))
  | .range a b s =>
    let k := if isMachineInt a && isMachineInt b && isMachineInt s then Kind.rangeIterator
      else .longRangeIterator
    some <$> newCursor k (.range a s (rangeLength a b s))
  | .view of part => some <$> newDictCursor of part
  | .proxy of => some <$> newDictCursor of .keys
  | .cursor _ | .generator _ _ _ _ _ => return some r
  | .textBuffer _ _ =>
    checkOpen r "."
    return some r
  | _ => return none

section
variable [Ops]

/-- Whether an object gives elements itself. -/
def isIterator (r : Ref) : Exec Bool := do
  return (← special r "__next__").isFound

/-- The iterator of an object; `none` if it cannot be iterated over. -/
def iter? (r : Ref) : Exec (Option Ref) := do
  match ← userSpecial? r "__iter__" with
  | some f =>
    if isNone f then return none
    else
      let v ← callValue f r []
      if ← isIterator v then return some v
      else typeError ("iter() returned non-iterator of type '" ++ (← typeNameOf v) ++ "'")
  | none =>
    match ← iterData? r (← dataOf r) with
    | some v => return some v
    | none =>
      match ← userSpecial? r "__getitem__" with
      | some _ => some <$> newCursor .sequenceIterator (.subscripts r 0)
      | none => return none

/-- The iterator of an object. -/
def iter (r : Ref) : Exec Ref := do
  match ← iter? r with
  | some v => return v
  | none => typeError ("'" ++ (← typeNameOf r) ++ "' object is not iterable")

/-! ### Generators -/

/-- How resuming a generator ends, if no exception does. -/
inductive Resumed
  | yielded (value : Ref)
  | finished (value : Ref)

/-- Changes the frame of a generator. -/
def setGeneratorFrame (g : Ref) (frame : Option Frame) (running : Bool) : Exec Unit := do
  match ← dataOf g with
  | .generator n q _ _ _ => setData g (.generator n q frame true running)
  | _ => return ()

/-- A generator must not raise `StopIteration` itself: that would look like its end. -/
def guardStop (e : Raised) : Exec Raised := do
  if ← isError e.value .stopIteration then
    let r ← newError .runtimeError [← newStr "generator raised StopIteration"]
    match ← dataOf r, ← dataOf e.value with
    | .error d, .error stop =>
      setData r (.error { d with cause := some e.value, context := some e.value })
      setData e.value (.error { stop with trace := e.trace })
    | _, _ => pure ()
    return ⟨r, []⟩
  else return e

/-- Lets a generator go on, with a value as the result of its `yield` or with an exception raised
there. -/
def resume (g : Ref) (input : Except (Ref × List TraceEntry) Ref) : Exec Resumed := do
  match ← dataOf g with
  | .generator _ _ frame started running =>
    if running then valueError "generator already executing"
    match frame with
    | none =>
      match input with
      | .ok _ => return .finished noneRef
      | .error (e, t) => throw ⟨e, t⟩
    | some f =>
      match input with
      | .ok v =>
        if !started && !isNone v then
          typeError "can't send non-None value to a just-started generator"
      | .error _ => pure ()
      let next : Frame := match input with
        | .ok v => if started then { f with stack := v :: f.stack } else f
        | .error e => { f with injected := some e }
      setGeneratorFrame g (some f) true
      let outcome ← tryCatch (Ops.run next) fun e => do
        setGeneratorFrame g none false
        throw (← guardStop e)
      match outcome with
      | .returned v =>
        setGeneratorFrame g none false
        return .finished v
      | .yielded v f' =>
        setGeneratorFrame g (some f') false
        -- a generator that waits in a guarded region is closed when nobody can resume it any more
        if f'.regions.any fun r => r.kind == .except || r.kind == .final then
          modify fun m => if m.watched.contains g then m else { m with watched := g :: m.watched }
        return .yielded v
  | _ => typeError "not a generator"

/-- Ends a generator by raising `GeneratorExit` where it waits. -/
def closeGenerator (g : Ref) : Exec Unit := do
  match ← dataOf g with
  | .generator _ _ (some _) true _ =>
    let e ← newError .generatorExit []
    let quiet : Exec (Option Resumed) :=
      recover (recover (some <$> resume g (.error (e, []))) .generatorExit fun _ => return none)
        .stopIteration fun _ => return none
    match ← quiet with
    | some (.yielded _) => raiseError .runtimeError "generator ignored GeneratorExit"
    | _ => return ()
  | _ => setGeneratorFrame g none false

/-- Raises the exception by which an iterator ends. -/
def stopIteration {α : Type} (value : Ref) : Exec α := do
  raiseRef (← newError .stopIteration (if isNone value then [] else [value]))

/-! ### The next element -/

/-- Replaces the state of a cursor. -/
def setCursor (r : Ref) (c : Cursor) : Exec Unit := setData r (.cursor c)

/-- The next elements of several iterators; `none` if one of them has ended. -/
def nextOfAll : List Ref → Exec (Option (List Ref))
  | [] => return some []
  | r :: rs => do
    match ← Ops.next r with
    | none => return none
    | some x =>
      match ← nextOfAll rs with
      | none => return none
      | some xs => return some (x :: xs)

/-- How messages name the first `n` arguments of a function. -/
def firstArguments (n : Nat) : String :=
  if n == 1 then "argument 1" else "arguments 1-" ++ toString n

/-- Refuses the first of several iterators that goes on after others have ended; `i` counts them. -/
def refuseLonger : (i : Nat) → List Ref → Exec Unit
  | _, [] => return ()
  | i, r :: rs => do
    match ← Ops.next r with
    | some _ =>
      valueError ("zip() argument " ++ toString (i + 1) ++ " is longer than " ++ firstArguments i)
    | none => refuseLonger (i + 1) rs

/-- The next elements of several iterators that go on together; `none` if one of them has ended.
With `strict` they have to end together; `i` counts them. -/
def nextOfEach : List Ref → (strict : Bool) → (i : Nat) → Exec (Option (List Ref))
  | [], _, _ => return some []
  | r :: rs, strict, i => do
    match ← Ops.next r with
    | none =>
      if strict then
        if i > 0 then
          valueError ("zip() argument " ++ toString (i + 1) ++ " is shorter than " ++
            firstArguments i)
        else refuseLonger 1 rs
      return none
    | some x =>
      match ← nextOfEach rs strict (i + 1) with
      | none => return none
      | some xs => return some (x :: xs)

/-- The next element of an iterator that a condition lets pass. -/
def nextPassing (f of : Ref) : (fuel : Nat) → Exec (Option Ref)
  | 0 => return none
  | fuel + 1 => do
    match ← Ops.next of with
    | none => return none
    | some x =>
      let ok ← if isNone f || f == Kind.bool.ref then isTrue x
        else isTrue (← Ops.call f (.of [x]))
      if ok then return some x else nextPassing f of fuel

/-- The element of a user-defined sequence at an index; `none` past its end. -/
def subscriptAt (of : Ref) (i : Int) : Exec (Option Ref) := do
  let k ← newInt i
  let get : Exec (Option Ref) := callSpecial? of "__getitem__" [k]
  recover (recover get .indexError fun _ => return none) .stopIteration fun _ => return none

/-- The next element of a cursor; `none` at the end. -/
def nextCursor (r : Ref) (c : Cursor) : Exec (Option Ref) := do
  match c with
  | .done => return none
  | .sequence of i =>
    match ← elementOf? of i with
    | some x =>
      setCursor r (.sequence of (i + 1))
      return some x
    | none =>
      setCursor r .done
      return none
  | .backwards of i =>
    match i with
    | 0 =>
      setCursor r .done
      return none
    | i + 1 =>
      match ← elementOf? of i with
      | some x =>
        setCursor r (.backwards of i)
        return some x
      | none =>
        setCursor r .done
        return none
  | .range next step left =>
    match left with
    | 0 => return none
    | left + 1 =>
      setCursor r (.range (next + step) step left)
      return some (← newInt next)
  | .dict of part place size left =>
    let es ← entriesOf of
    if some es.length != size then
      setCursor r (.dict of part place none left)
      raiseError .runtimeError "dictionary changed size during iteration"
    match es.find? fun e => place ≤ e.place, left with
    | some e, left + 1 =>
      setCursor r (.dict of part (e.place + 1) size left)
      return some (← partOf part e)
    | some _, 0 =>
      setCursor r .done
      raiseError .runtimeError "dictionary keys changed during iteration"
    | none, _ =>
      setCursor r .done
      return none
  | .dictBackwards of part i size =>
    let es ← entriesOf of
    if es.length != size then
      raiseError .runtimeError "dictionary changed size during iteration"
    match i with
    | 0 =>
      setCursor r .done
      return none
    | i + 1 =>
      setCursor r (.dictBackwards of part i size)
      match es[i]? with
      | some e => return some (← partOf part e)
      | none => return none
  | .ordered of part places left =>
    match left with
    | [] =>
      setCursor r .done
      return none
    | p :: left =>
      let es ← entriesOf of
      if es.map (·.place) != places then
        setCursor r .done
        raiseError .runtimeError "OrderedDict mutated during iteration"
      setCursor r (.ordered of part places left)
      match es.find? (·.place == p) with
      | some e => return some (← partOf part e)
      | none => return none
  | .set of left size =>
    if some (← entriesOf of).length != size then
      setCursor r (.set of left none)
      raiseError .runtimeError "Set changed size during iteration"
    match left with
    | x :: left =>
      setCursor r (.set of left size)
      return some x
    | [] =>
      setCursor r .done
      return none
  | .deque of i size =>
    match ← dataOf of with
    | .deque items _ =>
      if items.length != size then raiseError .runtimeError "deque mutated during iteration"
      match items[i]? with
      | some x =>
        setCursor r (.deque of (i + 1) size)
        return some x
      | none => return none
    | _ => return none
  | .dequeBackwards of i size =>
    match ← dataOf of with
    | .deque items _ =>
      if items.length != size then raiseError .runtimeError "deque mutated during iteration"
      match i with
      | 0 => return none
      | i + 1 =>
        setCursor r (.dequeBackwards of i size)
        return items[i]?
    | _ => return none
  | .subscripts of i =>
    match ← subscriptAt of i with
    | some x =>
      setCursor r (.subscripts of (i + 1))
      return some x
    | none =>
      setCursor r .done
      return none
  | .subscriptsBackwards of i =>
    if i < 0 then return none
    else
      match ← subscriptAt of i with
      | some x =>
        setCursor r (.subscriptsBackwards of (i - 1))
        return some x
      | none =>
        setCursor r .done
        return none
  | .calls f sentinel =>
    match ← recover (some <$> Ops.call f (.of [])) .stopIteration fun _ => return none with
    | none =>
      setCursor r .done
      return none
    | some v =>
      if ← Ops.equal v sentinel then
        setCursor r .done
        return none
      else return some v
  | .enumerate of count =>
    match ← Ops.next of with
    | none => return none
    | some x =>
      setCursor r (.enumerate of (count + 1))
      return some (← newTuple [← newInt count, x])
  | .zip of strict =>
    if of.isEmpty then return none
    else
      match ← nextOfEach of strict 0 with
      | none => return none
      | some xs => return some (← newTuple xs)
  | .map f of =>
    match ← nextOfAll of with
    | none => return none
    | some xs => return some (← Ops.call f (.of xs))
  | .filter f of => nextPassing f of loopLimit

/-- The next line of a buffer; `none` at the end. A class that extends the type of buffers answers
by its own `readline`. -/
def nextLine (r : Ref) : Exec (Option Ref) := do
  checkOpen r ""
  match ← classOf r with
  | .builtin _ =>
    let line ← readLine r none
    if line.points.isEmpty then return none else some <$> newText line
  | .user _ =>
    let line ← Ops.call (← getAttr r "readline") (.of [])
    match ← text? line with
    | none =>
      raiseError .osError
        ("readline() should have returned a str object, not '" ++ (← typeNameOf line) ++ "'")
    | some t => return if t.points.isEmpty then none else some line

/-- The next element of an iterator; `none` at the end. -/
def nextObject (r : Ref) : Exec (Option Ref) := do
  match ← userSpecial? r "__next__" with
  | some f =>
    recover (some <$> callValue f r []) .stopIteration fun _ => return none
  | none =>
    match ← dataOf r with
    | .cursor c => nextCursor r c
    | .generator _ _ _ _ _ =>
      match ← resume r (.ok noneRef) with
      | .yielded v => return some v
      | .finished _ => return none
    | .textBuffer _ _ => nextLine r
    | _ => typeError ("'" ++ (← typeNameOf r) ++ "' object is not an iterator")

/-- The remaining elements of an iterator, after those in `acc`, last first. -/
def remaining (it : Ref) : (fuel : Nat) → (acc : List Ref) → Exec (List Ref)
  | 0, _ => raiseError .memoryError ""
  | fuel + 1, acc => do
    match ← Ops.next it with
    | none => return acc.reverse
    | some x => remaining it fuel (x :: acc)

/-- The elements of an object that can be iterated over. -/
def elements (r : Ref) : Exec (List Ref) := do
  let direct ← match ← classOf r with
    | .builtin _ => pure true
    | _ => pure false
  match direct, ← dataOf r with
  | true, .list items => return items.toList
  | true, .tuple items => return items
  | _, _ => remaining (← iter r) loopLimit []

/-! ### Taking values apart -/

/-- The values that an unpacked object gives to targets. -/
def unpackValues (v : Ref) : Exec (List Ref) := do
  match ← iter? v with
  | none => typeError ("cannot unpack non-iterable " ++ (← typeNameOf v) ++ " object")
  | some _ => elements v

/-- At most `limit` elements of an iterator. -/
def someElements (it : Ref) : (limit : Nat) → Exec (List Ref)
  | 0 => return []
  | limit + 1 => do
    match ← Ops.next it with
    | none => return []
    | some x => return x :: (← someElements it limit)

/-- Takes a value apart into `n` values. -/
def unpackInto (n : Nat) (v : Ref) : Exec (List Ref) := do
  let it ← match ← iter? v with
    | none => typeError ("cannot unpack non-iterable " ++ (← typeNameOf v) ++ " object")
    | some it => pure it
  let xs ← someElements it (n + 1)
  if xs.length < n then
    valueError ("not enough values to unpack (expected " ++ toString n ++ ", got " ++
      toString xs.length ++ ")")
  else if xs.length > n then
    valueError ("too many values to unpack (expected " ++ toString n ++ ")")
  else return xs

/-- Takes a value apart into `before` values, a list of the ones between, and `after` values. -/
def unpackAround (before after : Nat) (v : Ref) : Exec (List Ref) := do
  let xs ← unpackValues v
  if xs.length < before + after then
    valueError ("not enough values to unpack (expected at least " ++ toString (before + after) ++
      ", got " ++ toString xs.length ++ ")")
  else
    let middle ← newList ((xs.drop before).take (xs.length - before - after))
    return xs.take before ++ middle :: xs.drop (xs.length - after)

end

end GuestBridge.Guest
