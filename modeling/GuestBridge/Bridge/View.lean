import GuestBridge.Bridge.Access
import GuestBridge.Bridge.Loop

/-!
# Views, mappings and sequences

Three ways of looking at an object as a collection. A view is a place in an iteration: it holds the
guest's iterator until that has ended, and lets go of it then. A mapping reports absent keys as
index errors, a sequence does so for indices out of range; both work on any object that has the
operations.
-/

namespace GuestBridge.Bridge

open Guest (Ref Raised)

variable {σ : Type} [GuestState σ]

/-! ### Views -/

/-- A place in an iteration; nothing is left once the iterator has ended. -/
structure View where
  iterator : Option Handle
  deriving DecidableEq, Repr, Inhabited

namespace View

/-- The state of a view. -/
inductive State
  /-- More elements may follow. -/
  | active
  /-- The iterator has ended. -/
  | exhausted
  deriving DecidableEq, Repr, Inhabited

/-- The state of a view. -/
def state (v : View) : State := if v.iterator.isSome then .active else .exhausted

/-- A state in debugging texts. -/
def State.debug : State → String
  | active => "Active"
  | exhausted => "Exhausted"

/-- The handles that a view holds. -/
def handles (v : View) : List Handle := v.iterator.toList

/-- A view in debugging texts. -/
def debug (v : View) : String :=
  debugRecord "CollectionView" [("iterator", debugOption Handle.debug v.iterator)]

/-- What asking an iterator for its next element gives: an element, the end, or an error. -/
inductive Next
  | element (h : Handle)
  | ended
  | failed (e : Error)
  deriving Inhabited

/-- Asks an iterator for its next element. -/
def pull (cx : Context) (iterator : Ref) : StateM (World σ) Next := do
  let step : Crossing σ Ref := do
    let next ← request (.getAttr iterator "__next__")
    request (.call next [] [])
  match ← step.run with
  | .ok v => return .element (← acquire cx v)
  | .error (.failed e) =>
    if ← isRaised e .stopIteration then return .ended
    else return .failed (← failure cx .advance e)
  | .error (.panicked _) => return .ended

/-- The next element of a view that holds an iterator on an object, and the view after it. An
exception leaves the view as it is; the end makes it let go of the iterator. -/
def step (cx : Context) (it : Handle) (r : Ref) : StateM (World σ) (Next × View) := do
  match ← pull cx r with
  | .ended =>
    releaseIn cx it
    return (.ended, ⟨none⟩)
  | n => return (n, ⟨some it⟩)

/-- The next element of a view, and the view after it. After the end nothing is asked any more. -/
def advance {ε : Type} (v : View) (cx : Context) :
    ExceptT (Stop ε) (StateM (World σ)) (Next × View) := do
  match v.iterator with
  | none => return (.ended, v)
  | some it => always (step cx it (← it.bind cx))

end View

/-- A host iterator over a view: it ends with the view or after the first error. -/
structure Cursor where
  view : View
  failed : Bool
  deriving DecidableEq, Repr, Inhabited

/-- A cursor at the place of a view. -/
def View.cursor (v : View) : Cursor := ⟨v, false⟩

/-- The next element of a cursor, and the cursor after it. -/
def Cursor.next {ε : Type} (c : Cursor) (cx : Context) :
    ExceptT (Stop ε) (StateM (World σ)) (View.Next × Cursor) := do
  if c.failed then return (.ended, c)
  else
    match ← c.view.advance cx with
    | (.failed e, v) => return (.failed e, ⟨v, true⟩)
    | (n, v) => return (n, ⟨v, false⟩)

/-- Starts to iterate over the object. -/
def Handle.iterate (h : Handle) (cx : Context) : Boundary σ View := do
  let target ← h.bind cx
  let it ← perform cx (.iterate target) (.iterate target)
  return ⟨some (← always (acquire cx it))⟩

/-- Releases several handles inside a job. -/
def releaseAllIn (cx : Context) (hs : List Handle) : StateM (World σ) Unit := fun w =>
  ((), w.releaseAll (.owner cx.session) hs)

namespace View

/-- Ends a collection, of which the elements in `hs` are kept, last first: what the view holds is
released. -/
def collected (cx : Context) (v : View) (hs : List Handle) : Boundary σ (List Handle) := do
  always (releaseAllIn cx v.handles)
  return hs.reverse

/-- How far a collection is. -/
inductive Gathering
  /-- The view goes on after the elements in `hs`, last first. -/
  | going (v : View) (hs : List Handle)
  | finished (result : Except (Stop Error) (List Handle))

/-- Whether a collection has ended. -/
def Gathering.isFinished : Gathering → Bool
  | going _ _ => false
  | finished _ => true

/-- A step of a collection. In the end what the view holds is released, and at the first error all
elements are. -/
def Gathering.step (cx : Context) : Gathering → StateM (World σ) Gathering
  | going v hs => do
    match ← (v.advance cx : Boundary σ (Next × View)).run with
    | .ok (.element h, v) => return going v (h :: hs)
    | .ok (.ended, v) => return finished (← (collected cx v hs).run)
    | .ok (.failed e, v) =>
      releaseAllIn cx (v.handles ++ hs)
      return finished (.error (.failed e))
    | .error stop => return finished (.error stop)
  | finished result => return finished result

/-- The elements that a view still has, after those in `hs`, last first. It ends if the iteration does. -/
def collect (cx : Context) (v : View) (hs : List Handle) : Boundary σ (List Handle) := fun w =>
  match repeatUntil Gathering.isFinished (Gathering.step cx) (.going v hs) w with
  | some (.finished result, w) => (result, w)
  | _ => (collected cx v hs).run w

end View

/-! ### Mappings -/

/-- An object seen as a mapping. -/
structure Mapping where
  handle : Handle
  deriving DecidableEq, Repr, Inhabited

namespace Mapping

/-- A new empty dictionary. -/
def empty (cx : Context) : Boundary σ Mapping := do
  let d ← perform cx .convert (.newDict [])
  return ⟨← always (acquire cx d)⟩

/-- Whether a key is there. -/
def containsKey (m : Mapping) (cx : Context) (key : HostValue) : Boundary σ Bool := do
  let k ← (key.send cx).orError cx .convert
  perform cx .member (.contains (← m.handle.bind cx) k)

/-- The value of a key. -/
def get (m : Mapping) (cx : Context) (key : HostValue) : Boundary σ Handle := do
  let container ← m.handle.bind cx
  let k ← (key.send cx).orError cx .convert
  if ← perform cx .member (.contains container k) then
    let v ← perform cx (.subscript container k) (.getItem container k)
    always (acquire cx v)
  else missingEntry cx container k

/-- Gives a key a value. -/
def set (m : Mapping) (cx : Context) (key new : HostValue) : Boundary σ Unit :=
  m.handle.setSubscript cx key new

/-- Takes a key out. -/
def remove (m : Mapping) (cx : Context) (key : HostValue) : Boundary σ Unit :=
  m.handle.deleteSubscript cx key

/-- The keys in the mapping's own order. -/
def keys (m : Mapping) (cx : Context) : Boundary σ (List Handle) := do
  let keys ← m.handle.callMethod cx "keys" [] []
  let collected : Boundary σ (List Handle) := do
    View.collect cx (← keys.iterate cx) []
  let r ← always collected.run
  always (releaseIn cx keys)
  match r with
  | .ok hs => return hs
  | .error e => throw e

/-- The number of entries. -/
def length (m : Mapping) (cx : Context) : Boundary σ Nat := do
  perform cx .length (.length (← m.handle.bind cx))

/-- Whether there is no entry. -/
def isEmpty (m : Mapping) (cx : Context) : Boundary σ Bool := do
  return (← m.length cx) == 0

end Mapping

/-! ### Sequences -/

/-- An object seen as a sequence. Negative indices count from the end. -/
structure Sequence where
  handle : Handle
  deriving DecidableEq, Repr, Inhabited

namespace Sequence

/-- The number of elements. -/
def length (s : Sequence) (cx : Context) : Boundary σ Nat := do
  perform cx .length (.length (← s.handle.bind cx))

/-- Whether there is no element. -/
def isEmpty (s : Sequence) (cx : Context) : Boundary σ Bool := do
  return (← s.length cx) == 0

/-- An index of the host. -/
abbrev Index := (HostType.int .isize).Value

/-- The sum of an index and a length, if it is an index itself. -/
def checkedSum (i : Int) (length : Nat) : Option Int :=
  if IntType.isize.Contains (i + length) then some (i + length) else none

/-- The position that an index means, counted from the start. -/
def resolved (i : Int) (length : Nat) : Option Int :=
  if i < 0 then checkedSum i length else some i

/-- Whether an index is in range for a length. -/
def inRange (i : Int) (length : Nat) : Bool :=
  match resolved i length with
  | some position => 0 ≤ position && position.natAbs < length
  | none => false

/-- Refuses an index out of range. -/
def checkIndex (s : Sequence) (cx : Context) (i : Index) : Boundary σ Unit := do
  let n ← s.length cx
  if inRange i.val n then return ()
  else indexOutOfRange cx (← s.handle.bind cx) i.val n

/-- The element at an index. -/
def get (s : Sequence) (cx : Context) (i : Index) : Boundary σ Handle := do
  s.checkIndex cx i
  s.handle.subscript cx ⟨.int .isize, i⟩

/-- Replaces the element at an index. -/
def set (s : Sequence) (cx : Context) (i : Index) (new : HostValue) : Boundary σ Unit := do
  s.checkIndex cx i
  s.handle.setSubscript cx ⟨.int .isize, i⟩ new

/-- Adds an element at the end. -/
def push (s : Sequence) (cx : Context) (new : HostValue) : Boundary σ Unit := do
  let h ← s.handle.callMethod cx "append" [new] []
  always (releaseIn cx h)

end Sequence

end GuestBridge.Bridge
