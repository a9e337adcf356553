import GuestBridge.Proofs.Sequences.Ledger
import GuestBridge.Proofs.Sequences.Lengths

/-!
# Indices From the End

The bridge finds out which element a negative index means, but only to see whether there is one: the
guest is given the index as it is. So it is for the guest to count from the end. Lists, tuples and
strings do, and there an index from the end and the same one from the start have the same outcome. Other
objects need not.

## Main statements

* `Sequence.counted_by_guest` — both indices lead to what the guest does with each of them, and over a
  row of elements to the same.
* `Sequence.counted_otherwise` — an object for which they do not.
-/

namespace GuestBridge.Bridge.Sequence

open Guest (Ref Raised)

variable {σ : Type} [GuestState σ] {cx : Context} {q : Sequence} {w w₁ : World σ} {n : Nat}

/-! ### Past the check -/

section

variable (own : q.handle.session = cx.session) (counted : w.ask (.length q.handle.object) = (.ok n, w₁))
  (short : n ≤ IntType.isize.greatest)
include own counted short

theorem run_checkIndex {i : Index} (inside : (place i.toInt n).isSome) :
    (q.checkIndex cx i).run w = (.ok (), w₁) := by
  rw [checkIndex_own own, run_bind_of_ok (run_perform_of_ok counted _), inRange_eq i short, if_pos inside]
  rfl

/-- Where there is a place for an index, the guest is given the index as it is, -/
theorem run_get {i : Index} (inside : (place i.toInt n).isSome) :
    (q.get cx i).run w = (q.handle.subscript cx i.sent).run w₁ := by
  rw [get, run_bind_of_ok (run_checkIndex own counted short inside)]
  rfl

/-- and so it is where an element is replaced. -/
theorem run_set {i : Index} (inside : (place i.toInt n).isSome) (new : HostValue) :
    (q.set cx i new).run w = (q.handle.setSubscript cx i.sent new).run w₁ := by
  rw [set, run_bind_of_ok (run_checkIndex own counted short inside)]
  rfl

end

/-! ### Over a row -/

/-- An index finds an element. -/
def Finds (V : Outlook σ) (cx : Context) (q : Sequence) (i : Index) (w : World σ) (x : Element) : Prop :=
  ∃ e w', (q.get cx i).run w = (.ok (cx.handle e), w') ∧ (V.objects w'.guest).Shows e x

section

variable {V : Catalogue σ} {kind : Kind} {xs : List Element} {i j : Index}

theorem Over.finds (spans : q.Over V cx kind xs w.guest) (short : xs.length ≤ IntType.isize.greatest)
    {x : Element} (there : at? xs i.toInt = some x) : q.Finds V.toOutlook cx i w x := by
  obtain ⟨result, w', run, -, told⟩ := get_serves spans.row spans.ready spans.holds spans.own short i
  rw [there] at told
  obtain ⟨e, shows, rfl⟩ := told
  exact ⟨e, w', run, shows⟩

/-- The same element is replaced. -/
theorem answer_set_from_end {v : Ref} (same : place i.toInt xs.length = place j.toInt xs.length)
    (inside : (place i.toInt xs.length).isSome) :
    (Order.set i v).answer kind xs = (Order.set j v).answer kind xs := by
  obtain ⟨p, placed⟩ := Option.isSome_iff_exists.mp inside
  rw [Order.answer, Order.answer, ← same, placed]
  cases kind.onSet <;> rfl

end

/-- **It is the guest that counts from the end.** Whatever it does with the two indices is the outcome;
over a row of elements they mean the same one. -/
theorem counted_by_guest (own : q.handle.session = cx.session)
    (counted : w.ask (.length q.handle.object) = (.ok n, w₁)) (short : n ≤ IntType.isize.greatest)
    {i j : Index} (negative : i.toInt < 0) (inside : -n ≤ i.toInt) (same : j.toInt = n + i.toInt) :
    ((q.get cx i).run w = (q.handle.subscript cx i.sent).run w₁ ∧
      (q.get cx j).run w = (q.handle.subscript cx j.sent).run w₁) ∧
    (∀ new, (q.set cx i new).run w = (q.handle.setSubscript cx i.sent new).run w₁ ∧
      (q.set cx j new).run w = (q.handle.setSubscript cx j.sent new).run w₁) ∧
    ∀ (V : Catalogue σ) (kind : Kind) (xs : List Element), q.Over V cx kind xs w.guest → n = xs.length →
      (∃ x, q.Finds V.toOutlook cx i w x ∧ q.Finds V.toOutlook cx j w x) ∧
      ∀ v, (Order.set i v).answer kind xs = (Order.set j v).answer kind xs := by
  have place_eq : place i.toInt n = place j.toInt n := by rw [same, place_from_end negative inside]
  have here : (place i.toInt n).isSome := place_isSome_iff.mpr ⟨inside, by omega⟩
  have there : (place j.toInt n).isSome := place_eq ▸ here
  refine ⟨⟨run_get own counted short here, run_get own counted short there⟩, fun new => ?_, ?_⟩
  · exact ⟨run_set own counted short here new, run_set own counted short there new⟩
  · rintro V kind xs spans rfl
    have element : at? xs i.toInt = at? xs j.toInt := by rw [at?, at?, place_eq]
    obtain ⟨x, found⟩ := Option.isSome_iff_exists.mp (at?_isSome_iff.mpr (place_isSome_iff.mp here))
    refine ⟨⟨x, spans.finds short found, spans.finds short (element ▸ found)⟩, fun v => ?_⟩
    exact answer_set_from_end place_eq here

end GuestBridge.Bridge.Sequence

namespace GuestBridge.Bridge

open Guest (Ref noneRef trueRef falseRef)
open Sequence (Element)

open Drawers in
theorem Sequence.counted_by_guest_drawers : ∃ w₁, world.ask (.length row) = (.ok 3, w₁) ∧
    ((sequence row).get ⟨0⟩ ⟨-1, by decide⟩).run world =
      ((sequence row).handle.subscript ⟨0⟩ (Index.sent ⟨-1, by decide⟩)).run w₁ ∧
    (∃ x, (sequence row).Finds catalogue.toOutlook ⟨0⟩ ⟨-1, by decide⟩ world x ∧
      (sequence row).Finds catalogue.toOutlook ⟨0⟩ ⟨2, by decide⟩ world x) ∧
    (((sequence row).get ⟨0⟩ ⟨-1, by decide⟩).run world).1 = .ok ⟨falseRef, 0, none⟩ ∧
    (((sequence row).get ⟨0⟩ ⟨2, by decide⟩).run world).1 = .ok ⟨falseRef, 0, none⟩ := by
  have list : (sequence row).Over catalogue ⟨0⟩ .list
      [.object noneRef, .object trueRef, .object falseRef] world.guest :=
    over_initial (by decide +kernel) (by decide +kernel)
  obtain ⟨_, w₁, counted, rfl, -⟩ := world.ask_of_answers (list.row.length list.ready list.holds)
  obtain ⟨gets, -, rows⟩ := counted_by_guest (i := ⟨-1, by decide⟩) (j := ⟨2, by decide⟩) list.own counted
    (by decide) (by decide) (by decide) (by decide)
  exact ⟨w₁, counted, gets.1, (rows catalogue .list _ list rfl).1, by decide +kernel, by decide +kernel⟩

open Specimens in
/-- A box of length 2 whose item at an index is that index: the items at `-1` and at `1` are two. -/
theorem Sequence.counted_otherwise :
    ((Sequence.length ⟨Specimens.handle box⟩ ⟨0⟩).run world).1 = .ok 2 ∧
      ((Sequence.get ⟨Specimens.handle box⟩ ⟨0⟩ ⟨-1, by decide⟩).run world).1 =
        .ok (Specimens.handle (numeral (-1))) ∧
      ((Sequence.get ⟨Specimens.handle box⟩ ⟨0⟩ ⟨1, by decide⟩).run world).1 =
        .ok (Specimens.handle (numeral 1)) ∧
      numeral (-1) ≠ numeral 1 := by
  refine ⟨?_, ?_, ?_, ?_⟩
  all_goals decide +kernel

end GuestBridge.Bridge
