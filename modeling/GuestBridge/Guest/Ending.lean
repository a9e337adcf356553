import GuestBridge.Guest.Iterate
import GuestBridge.Guest.Reach

/-!
# Ends of objects

An object dies when nothing refers to it any more. Its own `__del__` is called first, and a
generator is closed, then whatever asked to be told of its end is called; exceptions that these
raise are lost.
-/

namespace GuestBridge.Guest

section
variable [Ops]

/-- Does something whose exceptions are lost. -/
def ignoring (x : Exec Unit) : Exec Unit := tryCatch x fun _ => return ()

/-- The weak references that want to be told of the end of an object, the latest first. -/
def Machine.listeners (m : Machine) (dead : Ref) : List (Ref × Ref) :=
  let alive := m.alive
  ((List.range m.heap.size).filterMap fun i =>
    let o := m.heap.getD i default
    match o.data, o.slots.lookup "__callback__" with
    | .weakReference t, some f => if t == dead && alive.getD i false then some (⟨i⟩, f) else none
    | _, _ => none).reverse

/-- Tells of the end of an object. -/
def endObject (r : Ref) : Exec Unit := do
  match ← userSpecial? r "__del__", ← dataOf r with
  | some f, _ => ignoring do discard <| callValue f r []
  | none, .generator _ _ _ _ _ => ignoring (closeGenerator r)
  | none, _ => pure ()
  let m ← get
  unless m.isAlive r do
    for (w, f) in m.listeners r do
      ignoring do discard <| Ops.call f (.of [w])

/-- Tells of the ends of watched objects, in the order in which they die, until no more have died;
`fuel` bounds their number. -/
def endObjects (before : Option (Machine × Array Bool)) : (fuel : Nat) → Exec Unit
  | 0 => return ()
  | fuel + 1 => do
    let m ← get
    match (m.lifetimes before).2.reverse.find? m.watched.contains with
    | none => return ()
    | some r =>
      modify fun m => { m with watched := m.watched.filter (· != r) }
      endObject r
      endObjects before fuel

/-- Notices which of the watched objects have died since the machine was as given, if that is
known. -/
def noticeDeaths (before : Option Machine) : Exec Unit := do
  unless (← get).watchedReached do
    modify fun m => { m with settling := false }
    endObjects (before.map fun b => (b, b.alive)) 100000
    modify fun m => { m with settling := true }

end

end GuestBridge.Guest
