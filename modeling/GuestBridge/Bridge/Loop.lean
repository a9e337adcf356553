import GuestBridge.Bridge.World

/-!
# Loops

A loop repeats a step until something is done. It need not come to an end, and gives nothing if it does
not. What it gives is where its steps lead to: the type of the result says so, and a loop whose steps
lead somewhere gives that.

## Main statements

* `repeatUntil_eq_some_iff` — a loop gives something if and only if its steps lead to it.
-/

namespace GuestBridge.Bridge

variable {σ α : Type}

/-- The steps of a loop lead from one state to another in which something is done. -/
inductive LoopsTo (done : α → Bool) (step : α → StateM (World σ) α) : α × World σ → α × World σ → Prop
  | here {p : α × World σ} (ended : done p.1 = true) : LoopsTo done step p p
  | next {p q : α × World σ} (ongoing : done p.1 = false) (rest : LoopsTo done step (step p.1 p.2) q) :
      LoopsTo done step p q

/-- What a loop gives: nothing, or where its steps lead to. -/
structure LoopResult (done : α → Bool) (step : α → StateM (World σ) α) (p : α × World σ) where
  given : Option (α × World σ)
  leads {q : α × World σ} : given = some q → LoopsTo done step p q

/-- One state follows another in a loop. -/
structure LoopStep (done : α → Bool) (step : α → StateM (World σ) α) (q p : α × World σ) : Prop where
  ongoing : done p.1 = false
  next : q = step p.1 p.2

variable (done : α → Bool) (step : α → StateM (World σ) α)

instance (p : α × World σ) : Nonempty (LoopResult done step p) := ⟨⟨none, nofun⟩⟩

/-- The loop from a state, with the loop from the state that follows. -/
def loopOnce (p : α × World σ) (again : (q : α × World σ) → LoopStep done step q p → LoopResult done step q) :
    LoopResult done step p :=
  if ongoing : done p.1 = false then
    let rest := again (step p.1 p.2) ⟨ongoing, rfl⟩
    ⟨rest.given, fun same => .next ongoing (rest.leads same)⟩
  else ⟨some p, fun same => Option.some.inj same ▸ .here (Bool.not_eq_false _ ▸ ongoing)⟩

/-- The loop from a state. The states that follow it may be without end. -/
def loopFrom (p : α × World σ) : LoopResult done step p :=
  WellFounded.partialExtrinsicFix (C := LoopResult done step) (LoopStep done step) (loopOnce done step) p

/-- Repeats a step until something is done. -/
def repeatUntil (a : α) (w : World σ) : Option (α × World σ) := (loopFrom done step (a, w)).given

variable {done step} {p q : α × World σ} {a : α} {w : World σ}

/-- Where the steps lead somewhere the states that follow come to an end. -/
theorem LoopsTo.acc (leads : LoopsTo done step p q) : Acc (LoopStep done step) p := by
  induction leads with
  | here ended => exact .intro _ fun _ follows => absurd (follows.ongoing.symm.trans ended) Bool.false_ne_true
  | next ongoing rest ih => exact .intro _ fun _ follows => follows.next ▸ ih

theorem LoopsTo.given (leads : LoopsTo done step p q) : (loopFrom done step p).given = some q := by
  induction leads with
  | here ended =>
      rw [loopFrom, WellFounded.partialExtrinsicFix_eq_apply_of_acc (LoopsTo.here ended).acc, loopOnce,
        dif_neg (ended ▸ Bool.noConfusion)]
  | next ongoing rest ih =>
      rw [loopFrom, WellFounded.partialExtrinsicFix_eq_apply_of_acc (LoopsTo.next ongoing rest).acc, loopOnce,
        dif_pos ongoing]
      exact ih

/-- **A loop gives something if and only if its steps lead to it.** -/
theorem repeatUntil_eq_some_iff : repeatUntil done step a w = some q ↔ LoopsTo done step (a, w) q :=
  ⟨fun given => (loopFrom done step (a, w)).leads given, fun leads => leads.given⟩

end GuestBridge.Bridge
