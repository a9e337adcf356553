import GuestBridge.Proofs.Dictionary.Picture
import GuestBridge.Proofs.RoundTrip.Shelf

/-!
# A Guest That Counts

A shelf whose integers also become floating-point numbers and are compared with them, and whose integers and
truth values are positions.
-/

namespace GuestBridge.Bridge

open Guest (Ref Raised noneRef)
open Number (binary64 ofInt? toInt?)

/-- The position that a built-in object stands for: an integer of 64 bits, or a truth value. -/
def Shape.position? : Shape → Option Int
  | .int n => if IntType.isize.Contains n then some n else Option.none
  | .bool b => some (cond b 1 0)
  | _ => Option.none

/-- A guest of built-in objects that answers for its numbers. -/
structure Abacus where
  shelf : Shelf

namespace Abacus

/-- The 64-bit pattern nearest to an integer. -/
def float? : Shape → Option Nat
  | .int n => ofInt? binary64 n
  | _ => none

/-- Whether an integer and a floating-point number are equal. -/
def equal? : Shape → Shape → Option Bool
  | .int n, .float bits => some (toInt? binary64 bits = some n)
  | _, _ => none

/-- Answers a request; nothing if that raises. -/
def answer (g : Abacus) : {α : Type} → Request α → Option α × Abacus
  | _, .toIndex r => ((g.shelf.objects.shape r).bind Shape.position?, g)
  | _, .toFloat r => ((g.shelf.objects.shape r).bind float?, g)
  | _, .equal r q =>
    ((g.shelf.objects.shape r).bind fun x => (g.shelf.objects.shape q).bind (equal? x), g)
  | _, r => ((g.shelf.answer r).1, ⟨(g.shelf.answer r).2⟩)

instance : GuestState Abacus where
  perform _ r g := match g.answer r with
    | (some a, g) => (.ok a, [], g)
    | (none, g) => (.error ⟨noneRef, []⟩, [], g)

/-- How the abacus is looked at. -/
abbrev outlook : Outlook Abacus := ⟨fun g => g.shelf.Stocked, fun g => g.shelf.objects⟩

variable {g : Abacus}

theorem answers {α : Type} {r : Request α} {a : α} {g' : Abacus} (h : g.answer r = (some a, g'))
    {Q : α → Abacus → Prop} (hQ : Q a g') : Answers g r Q := fun held => by
  refine ⟨a, [], g', ?_, hQ⟩
  simp only [GuestState.perform, h]

/-- What is answered alike wherever something is known is settled by that. -/
theorem settled {o : Objects} {α : Type} {r : Request α} {a : Option α}
    (answered : ∀ g : Abacus, o.Extends g.shelf.objects → g.answer r = (a, g)) :
    outlook.Settled o r a := by
  intro g seen held
  simp only [GuestState.perform, answered g seen.known]
  cases a with
  | some v => exact ⟨.ok v, [], g, rfl, rfl, seen⟩
  | none => exact ⟨.error ⟨noneRef, []⟩, [], g, rfl, rfl, seen⟩

/-- What the shelf answers is answered as on the shelf. -/
theorem answers_shelf {α : Type} {r : Request α}
    (same : g.answer r = ((g.shelf.answer r).1, ⟨(g.shelf.answer r).2⟩)) {P : α → Shelf → Prop}
    {Q : α → Abacus → Prop} (h : Answers g.shelf r P) (hPQ : ∀ a s, P a s → Q a ⟨s⟩) :
    Answers g r Q := by
  obtain ⟨a, writes, s, performed, result⟩ := h []
  refine answers (?_ : g.answer r = (some a, ⟨s⟩)) (hPQ a s result)
  rw [same]
  change Shelf.performed (g.shelf.answer r) = _ at performed
  match answered : g.shelf.answer r with
  | (some a', s') =>
      rw [answered, Shelf.performed] at performed
      cases performed
      rfl
  | (none, s') =>
      rw [answered, Shelf.performed] at performed
      cases performed

theorem makes {x : Shape} {k : Option Key} (r : Ref) (s : Shelf)
    (made : Shelf.outlook.Makes x k g.shelf r s) : outlook.Makes x k g r ⟨s⟩ :=
  ⟨⟨made.keeps.ready, made.keeps.known⟩, made.shape, made.key⟩

/-- **The abacus keeps the laws.** -/
theorem builtins : outlook.Builtins where
  noneShape := Shelf.builtins.noneShape
  noneKey := Shelf.builtins.noneKey
  boolShape := Shelf.builtins.boolShape
  boolKey := Shelf.builtins.boolKey
  shape h known := answers_shelf rfl (Shelf.builtins.shape h known) fun _ _ read =>
    ⟨read.1, read.2.ready, read.2.objects⟩
  index {g r n} h known fits := by
    refine answers (?_ : g.answer (.toIndex r) = (some n, g)) ⟨rfl, h, rfl⟩
    change ((g.shelf.objects.shape r).bind Shape.position?, g) = _
    rw [known, Option.bind_some, Shape.position?, if_pos fits]
  newInt n h := answers_shelf rfl (Shelf.builtins.newInt n h) makes
  newFloat bits h := answers_shelf rfl (Shelf.builtins.newFloat bits h) makes
  newStr t h := answers_shelf rfl (Shelf.builtins.newStr t h) makes
  newBytes bs h := answers_shelf rfl (Shelf.builtins.newBytes bs h) makes
  newList items h := answers_shelf rfl (Shelf.builtins.newList items h) makes
  newTuple items h := answers_shelf rfl (Shelf.builtins.newTuple items h) makes
  newSlice start stop step h := answers_shelf rfl (Shelf.builtins.newSlice start stop step h) makes
  newDict h := answers_shelf rfl (Shelf.builtins.newDict h) fun d s made => ⟨makes d s made.1, made.2⟩
  setItem h dict keys key := answers_shelf rfl (Shelf.builtins.setItem h dict keys key) fun _ _ => id

end Abacus

end GuestBridge.Bridge
