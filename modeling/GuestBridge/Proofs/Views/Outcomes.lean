import GuestBridge.Proofs.Requests.Outcome

/-!
# One Use of a View

The guest's iterator answers each foreign step with an outcome: an element, the end, or an exception
(`View.Outcome`). Which of these it is, is up to the guest; `View.foreign` asks for it.

The host asks a view by itself, or through a cursor, of which there is one at a time: a new one takes
the place of the old. `Consumer` is what the host has in its hands, `Consumer.use` what it does with it.
Whether a use makes a foreign step, and what the host has afterwards, depends on little:
`Consumer.steps` and `Consumer.after`.

## Main statements

* `View.run_step` — a foreign step, and what is made of its outcome.
* `Consumer.run_use` — every use of a view.
-/

namespace GuestBridge.Bridge

open Guest (Ref Raised)

variable {σ : Type} [GuestState σ] {cx : Context}

/-! ### Foreign steps -/

namespace View

/-- The outcome of a foreign step. -/
inductive Outcome
  | element (o : Ref)
  /-- The iterator has ended. -/
  | stop
  /-- Any other exception. -/
  | raised (e : Raised)

/-- The outcome of a step that raises. -/
def Outcome.ofRaised (e : Raised) : StateM (World σ) Outcome := do
  if ← isRaised e .stopIteration then return .stop else return .raised e

/-- A foreign step: the guest is asked for `__next__`, and to call it. -/
def foreign (iterator : Ref) : StateM (World σ) Outcome := do
  match ← ask? (.getAttr iterator "__next__") with
  | .error e => Outcome.ofRaised e
  | .ok next =>
    match ← ask? (.call next [] []) with
    | .error e => Outcome.ofRaised e
    | .ok o => return .element o

/-- What is made of an outcome, once: a handle on the element, an error for the exception; at the end
the handle on the iterator is released. -/
def Outcome.deliver (cx : Context) (it : Handle) : Outcome → World σ → Next × World σ
  | element o, w => (.element (cx.handle o), (w.acquire cx.session o).2)
  | stop, w => (.ended, w.release (.owner cx.session) it)
  | raised e, w => let (error, w) := failure cx .advance e w; (.failed error, w)

/-- A view after a foreign step, if there was one: only at the end it lets go of the iterator. -/
def past : Option Outcome → View → View
  | some .stop, _ => ⟨none⟩
  | _, v => v

/-- The same as a crossing. -/
def crossing (iterator : Ref) : Crossing σ Ref := do
  let next ← request (.getAttr iterator "__next__")
  request (.call next [] [])

/-- The outcome of the crossing, which never panics. -/
def Outcome.ofCrossed : Except (Stop Raised) Ref → StateM (World σ) Outcome
  | .ok o => return .element o
  | .error (.failed e) => Outcome.ofRaised e
  | .error (.panicked _) => return .stop

theorem foreign_eq (r : Ref) : (foreign r : StateM (World σ) Outcome) = (crossing r).run >>= Outcome.ofCrossed := by
  funext w
  rw [foreign, bind_apply]
  change _ = Outcome.ofCrossed ((crossing r).run w).1 ((crossing r).run w).2
  change (match (w.ask (.getAttr r "__next__")).1 with | .error e => _ | .ok next => _ : StateM (World σ) Outcome)
    (w.ask (.getAttr r "__next__")).2 = _
  rcases looked : w.ask (.getAttr r "__next__") with ⟨e | next, w₁⟩
  · have raised : (crossing r).run w = (.error (.failed e), w₁) := by
      rw [crossing, ExceptT.run_bind, bind_apply, run_request, looked]
      rfl
    rw [raised]
    rfl
  · have called : (crossing r).run w = (request (.call next [] [])).run w₁ :=
      run_bind_of_ok (run_request_of_ok looked)
    rw [called, run_request]
    change (match (w₁.ask (.call next [] [])).1 with | .error e => _ | .ok o => _ : StateM (World σ) Outcome)
      (w₁.ask (.call next [] [])).2 = _
    rcases w₁.ask (.call next [] []) with ⟨e | o, w₂⟩ <;> rfl

/-- **A foreign step**, and what is made of its outcome. -/
theorem run_step (it : Handle) (w : World σ) : step cx it it.object w =
    let (o, w₁) := foreign it.object w
    let (n, w₂) := o.deliver cx it w₁
    ((n, past (some o) ⟨some it⟩), w₂) := by
  have pulled : (pull cx it.object : StateM (World σ) Next) = (crossing it.object).run >>= fun
    | .ok v => return .element (← acquire cx v)
    | .error (.failed e) => do
      if ← isRaised e .stopIteration then return .ended else return .failed (← failure cx .advance e)
    | .error (.panicked _) => return .ended := rfl
  rw [foreign_eq, step, pulled]
  simp only [bind_apply]
  generalize (crossing it.object).run w = crossed
  obtain ⟨(e | message) | v, w₁⟩ := crossed
  case error.failed =>
    simp only [Outcome.ofCrossed, Outcome.ofRaised, bind_apply]
    generalize isRaised e .stopIteration w₁ = answer
    obtain ⟨_ | _, w₂⟩ := answer <;> rfl
  all_goals rfl

end View

/-! ### Uses of a view -/

/-- What the host has of a view: the view itself, or a cursor over it. -/
inductive Consumer
  | view (v : View)
  | cursor (c : Cursor)
  deriving DecidableEq, Repr, Inhabited

namespace Consumer

/-- What the host can do. -/
inductive Use
  /-- Ask the view for its next element. -/
  | advance
  /-- Begin with a new cursor. -/
  | begin
  /-- Ask the cursor for its next element. -/
  | next
  /-- Drop the cursor. -/
  | drop
  deriving DecidableEq, Repr, Inhabited

/-- The view that is looked at. -/
def place : Consumer → View
  | view v => v
  | cursor c => c.view

/-- Does it; where an element is asked for there is an answer. To ask the view is to drop the cursor. -/
def use {ε : Type} (cx : Context) : Use → Consumer →
    ExceptT (Stop ε) (StateM (World σ)) (Option View.Next × Consumer)
  | .advance, r => do
    let (n, v) ← r.place.advance cx
    return (some n, view v)
  | .next, cursor c => do
    let (n, c) ← c.next cx
    return (some n, cursor c)
  | .begin, r => return (none, cursor r.place.cursor)
  | .next, view v => return (none, view v)
  | .drop, r => return (none, view r.place)

/-- Whether a use makes a foreign step: a view that has ended makes none, nor does a cursor that has
failed. -/
def steps : Use → Consumer → Bool
  | .advance, r => r.place.iterator.isSome
  | .next, cursor c => !c.failed && c.view.iterator.isSome
  | _, _ => false

/-- The answer to a use that makes no foreign step. -/
def idle : Use → Consumer → Option View.Next
  | .advance, _ | .next, cursor _ => some .ended
  | _, _ => none

/-- What the host has after a use, by the outcome of the foreign step if there was one. -/
def after (u : Use) (o : Option View.Outcome) (r : Consumer) : Consumer :=
  match u, r with
  | .advance, r => view (View.past o r.place)
  | .next, cursor c => cursor ⟨View.past o c.view, c.failed || (o matches some (.raised _))⟩
  | .begin, r => cursor ⟨r.place, false⟩
  | .next, view v => view v
  | .drop, r => view r.place

variable {it : Handle} {r : Consumer} {u : Use}

/-- The iterator's handle is all that the host holds for a view, until that has ended. -/
def Of (it : Handle) (r : Consumer) : Prop := r.place = ⟨some it⟩ ∨ r.place = ⟨none⟩

/-- The outcome of a use, if it makes a foreign step. -/
def outcome (it : Handle) (u : Use) (r : Consumer) (w : World σ) : Option View.Outcome :=
  if r.steps u then some (View.foreign it.object w).1 else none

/-- The answer to a use and the world after it: as the outcome of its foreign step says, if it makes
one, and otherwise nothing happens. -/
def served (cx : Context) (it : Handle) (u : Use) (r : Consumer) (w : World σ) : Option View.Next × World σ :=
  if r.steps u then
    let (o, w₁) := View.foreign it.object w
    let (n, w₂) := o.deliver cx it w₁
    (some n, w₂)
  else (r.idle u, w)

/-- A view that has ended makes no step any more. -/
theorem stays_of_exhausted (ended : r.place = ⟨none⟩) (u : Use) : r.steps u = false := by
  match u, r with
  | .advance, r => rw [steps, ended]; rfl
  | .next, cursor ⟨v, failed⟩ =>
      obtain rfl : v = ⟨none⟩ := ended
      exact Bool.and_false _
  | .next, view _ | .begin, _ | .drop, _ => rfl

theorem outcome_of_steps (steps : r.steps u = true) (w : World σ) :
    r.outcome it u w = some (View.foreign it.object w).1 :=
  if_pos steps

theorem served_of_steps (steps : r.steps u = true) (w : World σ) : r.served cx it u w =
    (some ((View.foreign it.object w).1.deliver cx it (View.foreign it.object w).2).1,
      ((View.foreign it.object w).1.deliver cx it (View.foreign it.object w).2).2) :=
  if_pos steps

theorem outcome_of_stays (stays : r.steps u = false) (w : World σ) : r.outcome it u w = none :=
  if_neg (Bool.not_eq_true _ ▸ stays)

theorem served_of_stays (stays : r.steps u = false) (w : World σ) :
    r.served cx it u w = (r.idle u, w) :=
  if_neg (Bool.not_eq_true _ ▸ stays)

/-- To ask a view that holds the iterator is to make a foreign step. -/
theorem run_advance (own : it.session = cx.session) (w : World σ) {ε : Type} :
    (View.advance ⟨some it⟩ cx : ExceptT (Stop ε) (StateM (World σ)) _).run w =
      (.ok (View.step cx it it.object w).1, (View.step cx it it.object w).2) :=
  congrFun (Handle.bind_own own) w

/-- To ask a cursor that has not failed is the same. -/
theorem run_next (own : it.session = cx.session) (w : World σ) {ε : Type} :
    (Cursor.next ⟨⟨some it⟩, false⟩ cx : ExceptT (Stop ε) (StateM (World σ)) _).run w =
      (.ok (Cursor.after (View.step cx it it.object w).1), (View.step cx it it.object w).2) :=
  congrFun (Cursor.next_active own) w

/-- **Every use of a view**: it is answered as the outcome of its foreign step says, if it makes one,
and otherwise nothing happens. -/
theorem run_use (own : it.session = cx.session) (h : r.Of it) (u : Use) (w : World σ) {ε : Type} :
    (r.use cx u : ExceptT (Stop ε) (StateM (World σ)) _).run w =
      (.ok ((r.served cx it u w).1, r.after u (r.outcome it u w)), (r.served cx it u w).2) := by
  match r, u with
  | r, .advance =>
      rcases h with active | ended
      · have steps : r.steps .advance = true := by rw [Consumer.steps, active]; rfl
        rw [served_of_steps steps, outcome_of_steps steps, use, active, run_bind_of_ok (run_advance own w),
          View.run_step, after, active]
        rfl
      · have stays := stays_of_exhausted ended .advance
        rw [served_of_stays stays, outcome_of_stays stays, use, ended, after, ended]
        rfl
  | cursor ⟨v, true⟩, .next => rfl
  | cursor ⟨v, false⟩, .next =>
      rcases h with rfl | rfl
      · have steps : (cursor ⟨⟨some it⟩, false⟩).steps .next = true := rfl
        rw [served_of_steps steps, outcome_of_steps steps, use, run_bind_of_ok (run_next own w), View.run_step]
        rcases View.foreign it.object w with ⟨_ | _ | _, w₁⟩ <;> rfl
      · rfl
  | view v, .next | _, .begin | _, .drop => rfl

end Consumer

end GuestBridge.Bridge
