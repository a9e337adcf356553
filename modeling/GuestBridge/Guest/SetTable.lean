import GuestBridge.Guest.Object

/-!
# Tables of sets

A set goes through its elements in the order of the slots that they occupy. The slot of an element
is found from its hash: the slots after the first choice are tried, then further choices mix in more
and more of the hash. A table that is three fifths full is replaced by a larger one, into which the
elements are put in the order of the old one.
-/

namespace GuestBridge.Guest

namespace Slot

/-- The element in a slot. -/
def entry? : Slot → Option Entry
  | taken e => some e
  | _ => none

/-- Whether a slot has never held an element. -/
def isFree : Slot → Bool
  | free => true
  | _ => false

end Slot

namespace SetTable

/-- A table of so many empty slots. -/
def ofSize (n : Nat) : SetTable := ⟨Array.replicate n .free, 0⟩

/-- The table of an empty set. -/
def empty : SetTable := ofSize 8

/-- The elements of a table in the order of their slots. -/
def entries (t : SetTable) : List Entry := t.slots.toList.filterMap Slot.entry?

/-- The number of elements. -/
def count (t : SetTable) : Nat := t.entries.length

/-- The number of slots that are not free. -/
def filled (t : SetTable) : Nat := t.slots.size - t.slots.toList.countP Slot.isFree

/-- Whether a slot is free. -/
def isFree (t : SetTable) (i : Nat) : Bool := ((t.slots[i]?).map Slot.isFree).getD false

/-- How many slots after the first choice are tried before the next choice. -/
def nearby : Nat := 9

/-- The first free slot among `i` and the `more` slots after it. -/
def freeFrom (t : SetTable) (i : Nat) : (more : Nat) → Option Nat
  | 0 => if t.isFree i then some i else none
  | more + 1 => if t.isFree i then some i else t.freeFrom (i + 1) more

/-- The free slot for a hash, where `i` is the choice to be tried and `mix` what is left of the
hash. `fuel` bounds the number of choices. -/
def choose (t : SetTable) : (fuel i mix : Nat) → Option Nat
  | 0, _, _ => none
  | fuel + 1, i, mix =>
    let size := t.slots.size
    match t.freeFrom i (if i + nearby < size then nearby else 0) with
    | some j => some j
    | none =>
      let mix := mix / 32
      t.choose fuel ((i * 5 + 1 + mix) % size) mix

/-- Puts an element into its slot. -/
def place (t : SetTable) (e : Entry) : SetTable :=
  let bits := (e.hash % Nat.pow 2 64).toNat
  match t.choose (t.slots.size + 70) (bits % t.slots.size) bits with
  | some i => { t with slots := t.slots.set! i (.taken e) }
  | none => t

/-- The number of slots of a table for more than `n` elements. `fuel` bounds the doublings. -/
def sizeFor (n : Nat) : (fuel size : Nat) → Nat
  | 0, size => size
  | fuel + 1, size => if size ≤ n then sizeFor n fuel (2 * size) else size

/-- The elements of a table in a new one with room for more than `n` elements. -/
def resize (t : SetTable) (n : Nat) : SetTable :=
  { t.entries.foldl place (ofSize (sizeFor n 64 8)) with finger := t.finger }

/-- The room that a growing set of `n` elements gets. -/
def roomFor (n : Nat) : Nat := if n > 50000 then n * 2 else n * 4

/-- Whether a table with so many slots that are not free has to grow. -/
def isCrowded (t : SetTable) (filled : Nat) : Bool := filled * 5 ≥ (t.slots.size - 1) * 3

/-- Adds an element that the set does not have. -/
def add (t : SetTable) (e : Entry) : SetTable :=
  let t := t.place e
  if t.isCrowded t.filled then t.resize (roomFor t.count) else t

/-- Makes room for `n` more elements at once. -/
def reserve (t : SetTable) (n : Nat) : SetTable :=
  if t.isCrowded (t.filled + n) then t.resize ((t.count + n) * 2) else t

/-- Takes an element out. -/
def discard (t : SetTable) (key : Ref) : SetTable :=
  { t with slots := t.slots.map fun
    | .taken e => if e.key == key then .gone else .taken e
    | s => s }

/-- Makes a table new in which too many slots were given up. -/
def tidy (t : SetTable) : SetTable :=
  if t.filled - t.count ≤ (t.slots.size - 1) / 4 then t else t.resize (roomFor t.count)

/-- The elements of a table in another one that was empty. -/
def copy (t : SetTable) : SetTable :=
  if t.count == 0 then empty
  else
    let new := empty.reserve t.count
    if new.slots.size == t.slots.size && t.filled == t.count then ⟨t.slots, 0⟩
    else t.entries.foldl place new

/-- The table of elements that are all different, added in order. -/
def ofList (es : List Entry) : SetTable := es.foldl add empty

/-- The table of a set that is written with constants only: they are gathered in order, then once
more, and then put into the set. -/
def settled (t : SetTable) : SetTable := (ofList t.entries).copy

/-- The element that is taken out next and the table without it. -/
def pop? (t : SetTable) : Option (Entry × SetTable) :=
  let start := t.finger % t.slots.size
  let order := (List.range t.slots.size).map fun i => (start + i) % t.slots.size
  (order.findSome? fun i => ((t.slots[i]?).bind Slot.entry?).map fun e => (e, i)).map fun (e, i) =>
    (e, ⟨t.slots.set! i .gone, i + 1⟩)

end SetTable

end GuestBridge.Guest
