import GuestBridge.Guest.Heap
import GuestBridge.Guest.SetTable

/-!
# Reachability

Which objects are alive: those that can be reached from the modules, the code that runs and what the
host holds. Weak references look at it, and so does the count of references to an object.
-/

namespace GuestBridge.Guest

/-- The objects that a cursor refers to. -/
def Cursor.refs : Cursor → List Ref
  | .done | .range _ _ _ => []
  | .sequence r _ | .backwards r _ | .dict r _ _ _ _ | .dictBackwards r _ _ _ | .set r _ _
  | .deque r _ _ | .dequeBackwards r _ _ | .ordered r _ _ _ | .subscripts r _
  | .subscriptsBackwards r _ | .enumerate r _ => [r]
  | .calls f s => [f, s]
  | .zip rs _ => rs
  | .map f rs => f :: rs
  | .filter f r => [f, r]

/-- The frames that an exception has passed. -/
def traceRefs (es : List TraceEntry) : List Ref := es.filterMap (·.frame)

/-- The objects that something pending refers to. -/
def Pending.refs : Pending → List Ref
  | .raising v t => v :: traceRefs t
  | .returning v => [v]
  | _ => []

/-- The objects that a frame refers to. -/
def Frame.refs (f : Frame) : List Ref :=
  f.store :: f.stack ++ f.handled ++ f.pending.flatMap Pending.refs ++ (f.injected.map (·.1)).toList

/-- The objects that what a frame has refers to. A script and a class body run as functions that
nothing but their frame knows; they hold the module's dictionary. -/
def FrameData.refs (d : FrameData) : List Ref :=
  d.callee.getD d.globals :: d.names.toList ++ d.locals.map (·.2) ++ d.cells.map (·.2)

/-- The objects that the entries of a table refer to. -/
def entryRefs (es : List Entry) : List Ref := es.flatMap fun e => [e.key, e.value]

/-- The objects that a class refers to, if a script made it. -/
def Class.refs : Class → List Ref
  | .builtin _ => []
  | .user r => [r]

/-- The objects that data refer to. Weak references do not count. -/
def Data.refs : Data → List Ref
  | .list items => items.toList
  | .tuple items | .deque items _ | .union items => items
  | .dict es => entryRefs es
  | .defaultDict es f => f :: entryRefs es
  | .set t => t.entries.map (·.key)
  | .slice a b s => [a, b, s]
  | .memory r _ | .proxy r | .view r _ | .module r | .wrapped r | .bound _ _ r => [r]
  | .cls c => (c.base :: c.bases ++ c.order).flatMap Class.refs ++ c.names.map (·.2)
  | .function f =>
    f.globals :: f.closure.map (·.2) ++ f.defaults ++ f.keywordDefaults.map (·.2) ++
      f.moduleName.toList ++ f.doc :: f.annotations.toList
  | .method f s => [f, s]
  | .property g s d => g.toList ++ s.toList ++ d.toList
  | .generator _ _ f _ _ => match f with
    | some f => f.refs
    | none => []
  | .traceback es => traceRefs es
  | .cursor c => c.refs
  | .error e => e.args ++ e.cause.toList ++ e.context.toList ++ traceRefs e.trace
  | .alias o as => o :: as
  | .slotOf c _ => c.refs
  | .upward a s c => a.refs ++ s.toList ++ c.refs
  | .frame d => d.refs
  | .cell v => v.toList
  | _ => []

/-- The objects that an object refers to. -/
def Object.refs (o : Object) : List Ref :=
  o.cls.refs ++ o.attrs.map (·.2) ++ o.dict.toList ++ o.slots.map (·.2) ++ o.data.refs

/-- The objects that an object refers to, in the order in which it gives them up when it dies: a
list and a tuple give up their last element first. -/
def Object.givenUp (o : Object) : List Ref :=
  let inside := match o.data with
    | .list items => items.toList.reverse
    | .tuple items => items.reverse
    | d => d.refs
  o.cls.refs ++ o.attrs.map (·.2) ++ o.dict.toList ++ o.slots.map (·.2) ++ inside

namespace Machine

/-- The objects that are alive by themselves. -/
def roots (m : Machine) : List Ref :=
  m.modules :: m.builtins :: m.system :: m.held ++ m.frames.flatMap Frame.refs ++ m.handling ++
    m.showing

/-- Marks what can be reached from the objects of a stack; `fuel` bounds the number of visits. -/
def mark (m : Machine) : (fuel : Nat) → List Ref → Array Bool → Array Bool
  | 0, _, seen => seen
  | _ + 1, [], seen => seen
  | fuel + 1, r :: rs, seen =>
    if seen.getD r.id true then mark m fuel rs seen
    else
      let more := (m.heap.getD r.id default).refs.filter fun c => !seen.getD c.id true
      mark m fuel (more ++ rs) (seen.setIfInBounds r.id true)

/-- The objects among those that cannot be reached that an object gives up. -/
def lostRefs (m : Machine) (reached : Array Bool) (r : Ref) : List Ref :=
  (m.heap.getD r.id default).givenUp.filter fun c => !reached.getD c.id true

/-- Takes the objects of a stack, to which nothing refers any more, off the counts of references,
and adds them to those that have died, the latest first; `fuel` bounds the number of objects. -/
def release (m : Machine) (reached : Array Bool) : (fuel : Nat) → List Ref → Array Nat × List Ref →
    Array Nat × List Ref
  | 0, _, found | _, [], found => found
  | fuel + 1, r :: rs, (counts, died) =>
    let (counts, freed) := (m.lostRefs reached r).foldl (fun (counts, freed) c =>
      let n := counts.getD c.id 0
      (counts.setIfInBounds c.id (n - 1), if n == 1 then c :: freed else freed)) (counts, [])
    release m reached fuel (freed.reverseAux rs) (counts, r :: died)

/-- The objects of a set in the order in which the living objects of a machine would give them
up. -/
def inOrderOf (m : Machine) (alive : Array Bool) (rs : List Ref) : List Ref :=
  match rs with
  | [] | [_] => rs
  | _ =>
    let given := (List.range m.heap.size).flatMap fun i =>
      if alive.getD i false then (m.heap.getD i default).givenUp.filter rs.contains else []
    (given ++ rs).eraseDups

/-- For each object, whether it is alive: it can be reached, or it is held by lost objects that hold
each other. Then the dead ones, the latest first. Given is the machine before something happened, if
it is known: what was dead then does not hold anything any more. -/
def lifetimes (m : Machine) (before : Option (Machine × Array Bool)) : Array Bool × List Ref :=
  let edges := m.heap.foldl (fun n o => n + o.refs.length) (m.roots.length + 1)
  let reached := m.mark edges m.roots (Array.replicate m.heap.size false)
  let wasAlive (i : Nat) : Bool := match before with
    | some (_, alive) => alive.getD i true
    | none => true
  let lost := (List.range m.heap.size).filter fun i => !reached.getD i true && wasAlive i
  let counts := lost.foldl (fun counts i => (m.lostRefs reached ⟨i⟩).foldl
    (fun (counts : Array Nat) c => counts.modify c.id (· + 1)) counts)
    (Array.replicate m.heap.size 0)
  let free := (lost.filter fun i => counts.getD i 0 == 0).map Ref.mk
  let free := match before with
    | some (b, alive) => b.inOrderOf alive free
    | none => free
  let (counts, died) := m.release reached (m.heap.size + 1) free (counts, [])
  let alive := (List.range m.heap.size).foldl (fun (a : Array Bool) i =>
    if counts.getD i 0 > 0 then a.setIfInBounds i true else a) reached
  (alive, died)

/-- For each object, whether it is alive. -/
def alive (m : Machine) : Array Bool := (m.lifetimes none).1

/-- Whether all the objects sought can be reached from those at the front, nearer ones first; `fuel`
bounds the distance. -/
def reachesAll (m : Machine) : (fuel : Nat) → (front : List Ref) → (seen : Array Bool) →
    (sought : List Ref) → Bool
  | _, _, _, [] => true
  | 0, _, _, _ | _, [], _, _ => false
  | fuel + 1, front, seen, sought =>
    let (next, seen) := front.foldl (fun (next, seen) r =>
      if seen.getD r.id true then (next, seen)
      else ((m.heap.getD r.id default).refs.reverseAux next, seen.setIfInBounds r.id true))
      ([], seen)
    reachesAll m fuel next seen (sought.filter fun r => !seen.getD r.id true)

/-- Whether an object is alive. -/
def isAlive (m : Machine) (r : Ref) : Bool := m.alive.getD r.id false

/-- Whether all watched objects can be reached. -/
def watchedReached (m : Machine) : Bool :=
  m.reachesAll m.heap.size m.roots (Array.replicate m.heap.size false) m.watched

/-- The number of references to an object from objects that are alive and from the host. -/
def references (m : Machine) (r : Ref) : Nat :=
  let alive := m.alive
  let inside := (List.range m.heap.size).foldl
    (fun n i => if alive.getD i false then n + (m.heap.getD i default).refs.count r else n) 0
  inside + m.held.count r

end Machine

end GuestBridge.Guest
