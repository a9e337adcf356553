import GuestBridge.Proofs.Views.Outcomes

/-!
# Every Outcome Once and in Order

A view is used again and again, by itself and through cursors, while between the uses anything may
happen to the guest (`Draws`). Each use that makes a foreign step is answered with its outcome, and the
others are answered without the guest being asked, so no outcome is lost, given twice or asked for ahead
of its time. How long steps are made is read off the outcomes: the end ends the view, and an exception
the cursor through which it came.

## Main statements

* `Draws.told` — every use of a run is answered as it should be.
* `View.delivers` — views deliver every outcome once and in order.
-/

namespace GuestBridge.Bridge

open Guest (Ref Raised noneRef)

variable {σ : Type} [GuestState σ] {cx : Context} {it : Handle}

/-- A use of a view: what the host had before and after it, in which worlds it began and ended, and the
answer. -/
structure Draw (σ : Type) where
  use : Consumer.Use
  before : Consumer
  start : World σ
  answer : Option View.Next
  after : Consumer
  finish : World σ

namespace Draw

/-- It went as it says. -/
def Happens (cx : Context) (t : Draw σ) : Prop :=
  (t.before.use cx t.use : Boundary σ _).run t.start = (.ok (t.answer, t.after), t.finish)

/-- The outcome of its foreign step, if it made one. -/
def outcome (it : Handle) (t : Draw σ) : Option View.Outcome := t.before.outcome it t.use t.start

/-- The iterator raised an exception that was not its end. -/
def raises (it : Handle) (t : Draw σ) : Bool := t.outcome it matches some (.raised _)

/-- The answer and the world are those of the outcome, or the guest was not asked. -/
structure Told (cx : Context) (it : Handle) (t : Draw σ) : Prop where
  served : (t.answer, t.finish) = t.before.served cx it t.use t.start
  after : t.after = t.before.after t.use (t.outcome it)

variable {t : Draw σ}

theorem Happens.told (own : it.session = cx.session) (h : t.before.Of it) (happens : t.Happens cx) :
    t.Told cx it := by
  have ran := t.before.run_use own h t.use t.start (ε := Error)
  have same := happens.symm.trans ran
  rw [Prod.mk.injEq, Except.ok.injEq, Prod.mk.injEq] at same
  obtain ⟨⟨answer, after⟩, finish⟩ := same
  exact ⟨Prod.ext answer finish, after⟩

/-- Without a foreign step nothing happens. -/
theorem Told.idle (told : t.Told cx it) (stays : t.before.steps t.use = false) :
    t.outcome it = none ∧ t.answer = t.before.idle t.use ∧ t.finish = t.start := by
  have served := told.served
  rw [Consumer.served_of_stays stays, Prod.mk.injEq] at served
  exact ⟨Consumer.outcome_of_stays stays t.start, served⟩

theorem steps_of_outcome {o : View.Outcome} (out : t.outcome it = some o) : t.before.steps t.use = true := by
  by_contra stays
  rw [outcome, Consumer.outcome_of_stays (Bool.not_eq_true _ ▸ stays)] at out
  cases out

/-- A foreign step is answered with its outcome. -/
theorem Told.stepped {o : View.Outcome} (told : t.Told cx it) (out : t.outcome it = some o) :
    t.answer = some (o.deliver cx it (View.foreign it.object t.start).2).1 ∧
      t.finish = (o.deliver cx it (View.foreign it.object t.start).2).2 := by
  have steps := steps_of_outcome out
  have served := told.served
  rw [outcome, Consumer.outcome_of_steps steps, Option.some.injEq] at out
  rw [Consumer.served_of_steps steps, out, Prod.mk.injEq] at served
  exact served

/-- The view is past the outcome. -/
theorem Told.place (told : t.Told cx it) : t.after.place = View.past (t.outcome it) t.before.place := by
  rw [told.after, outcome, Consumer.outcome]
  match t.before, t.use with
  | _, .advance | .cursor _, .next => rfl
  | .view _, .next | .view _, .begin | .view _, .drop | .cursor _, .begin | .cursor _, .drop => rfl

theorem Told.of (told : t.Told cx it) (of : t.before.Of it) : t.after.Of it := by
  rw [Consumer.Of, told.place]
  match t.outcome it with
  | none | some (.element _) | some (.raised _) => exact of
  | some .stop => exact .inr rfl

/-- A cursor through which an exception came has failed, and its view goes on. -/
theorem Told.fails (told : t.Told cx it) (of : t.before.Of it) (next : t.use = .next) (raises : t.raises it) :
    t.after = .cursor ⟨⟨some it⟩, true⟩ := by
  obtain ⟨e, out⟩ : ∃ e, t.outcome it = some (.raised e) := by
    rw [Draw.raises] at raises
    split at raises
    · exact ⟨_, by assumption⟩
    · cases raises
  have steps := steps_of_outcome out
  have after := told.after
  rw [next] at steps after
  rw [out] at after
  cases before : t.before with
  | view v =>
      rw [before] at steps
      cases steps
  | cursor c =>
      rw [before] at steps of after
      have some : c.view = ⟨some it⟩ := of.resolve_right fun ended =>
        Bool.false_ne_true ((Consumer.stays_of_exhausted (r := .cursor c) ended .next).symm.trans steps)
      rw [after, ← some]
      exact congrArg (fun failed => Consumer.cursor ⟨c.view, failed⟩) (Bool.or_true _)

end Draw

/-- Uses one after the other. Between two of them anything may happen. -/
inductive Draws (cx : Context) : Consumer → List (Draw σ) → Consumer → Prop
  | nil (r : Consumer) : Draws cx r [] r
  | cons {t : Draw σ} {ts : List (Draw σ)} {r : Consumer} (happens : t.Happens cx)
      (rest : Draws cx t.after ts r) : Draws cx t.before (t :: ts) r

namespace Draws

variable {r r' : Consumer} {ts us : List (Draw σ)}

theorem last (h : Draws (σ := σ) cx r [] r') : r' = r := by
  cases h
  rfl

theorem head {t : Draw σ} (h : Draws cx r (t :: ts) r') :
    t.before = r ∧ t.Happens cx ∧ Draws cx t.after ts r' := by
  cases h with
  | cons happens rest => exact ⟨rfl, happens, rest⟩

theorem split (h : Draws cx r (ts ++ us) r') : ∃ r₁, Draws cx r ts r₁ ∧ Draws cx r₁ us r' := by
  induction ts generalizing r with
  | nil => exact ⟨r, .nil r, h⟩
  | cons t ts ih =>
      cases h with
      | cons happens rest =>
          obtain ⟨r₁, first, second⟩ := ih rest
          exact ⟨r₁, .cons happens first, second⟩

/-- **Every use of a run is answered as it should be**, and the iterator's handle is all that is held. -/
theorem told (own : it.session = cx.session) (h : Draws cx r ts r') (of : r.Of it) :
    (∀ t ∈ ts, t.Told cx it) ∧ r'.Of it := by
  induction h with
  | nil => exact ⟨List.forall_mem_nil _, of⟩
  | @cons t ts r' happens rest ih =>
      have told := happens.told own of
      obtain ⟨all, last⟩ := ih (told.of of)
      exact ⟨List.forall_mem_cons.mpr ⟨told, all⟩, last⟩

/-- As long as the iterator has not ended, the view holds it. -/
theorem active (own : it.session = cx.session) (h : Draws cx r ts r') (holds : r.place = ⟨some it⟩)
    (goesOn : ∀ t ∈ ts, t.outcome it ≠ some .stop) : r'.place = ⟨some it⟩ := by
  induction h with
  | nil => exact holds
  | @cons t ts r' happens rest ih =>
      obtain ⟨here, later⟩ := List.forall_mem_cons.mp goesOn
      refine ih ?_ later
      rw [(happens.told own (.inl holds)).place, View.past, holds]
      exact here

/-- A view that has ended makes no step any more. -/
theorem exhausted (own : it.session = cx.session) (h : Draws cx r ts r') (ended : r.place = ⟨none⟩) :
    r'.place = ⟨none⟩ ∧ ∀ t ∈ ts, t.outcome it = none ∧ t.answer = t.before.idle t.use ∧ t.finish = t.start := by
  induction h with
  | nil => exact ⟨ended, List.forall_mem_nil _⟩
  | @cons t ts r' happens rest ih =>
      have told := happens.told own (.inr ended)
      have idle := told.idle (Consumer.stays_of_exhausted ended t.use)
      have after : t.after.place = ⟨none⟩ := by rw [told.place, idle.1]; exact ended
      obtain ⟨last, all⟩ := ih after
      exact ⟨last, List.forall_mem_cons.mpr ⟨idle, all⟩⟩

/-- A cursor stays as it is once it has failed, however often it is asked. -/
theorem failed (own : it.session = cx.session) {v : View} (h : Draws cx (.cursor ⟨v, true⟩) ts r')
    (of : (Consumer.cursor ⟨v, true⟩).Of it) (only : ∀ t ∈ ts, t.use = .next) : r' = .cursor ⟨v, true⟩ := by
  induction ts with
  | nil => exact h.last
  | cons t ts ih =>
      obtain ⟨before, happens, rest⟩ := h.head
      obtain ⟨next, only⟩ := List.forall_mem_cons.mp only
      have told := happens.told own (before.symm ▸ of)
      have idle := told.idle (by rw [before, next]; rfl)
      have same : t.after = .cursor ⟨v, true⟩ := by
        rw [told.after, idle.1, before, next]
        rfl
      rw [same] at rest
      exact ih rest only

/-- A cursor has not failed if no exception came through it. -/
theorem unfailed (own : it.session = cx.session) {v : View} (h : Draws cx (.cursor ⟨v, false⟩) ts r')
    (of : (Consumer.cursor ⟨v, false⟩).Of it) (only : ∀ t ∈ ts, t.use = .next ∧ t.raises it = false) :
    ∃ v', r' = .cursor ⟨v', false⟩ := by
  induction ts generalizing v with
  | nil => exact ⟨v, h.last⟩
  | cons t ts ih =>
      obtain ⟨before, happens, rest⟩ := h.head
      obtain ⟨⟨next, calm⟩, only⟩ := List.forall_mem_cons.mp only
      have told := happens.told own (before.symm ▸ of)
      have after : t.after = .cursor ⟨View.past (t.outcome it) v, t.raises it⟩ := by
        rw [told.after, before, next]
        rfl
      have of := told.of (before.symm ▸ of)
      rw [after, calm] at rest of
      exact ih rest of only

/-- What comes between two uses. -/
theorem between {before mid after : List (Draw σ)} {t t' : Draw σ}
    (h : Draws cx r (before ++ t :: (mid ++ t' :: after)) r') : t.Happens cx ∧ Draws cx t.after mid t'.before := by
  obtain ⟨r₁, -, second⟩ := h.split
  obtain ⟨-, happens, rest⟩ := second.head
  obtain ⟨r₂, third, fourth⟩ := rest.split
  exact ⟨happens, fourth.head.1 ▸ third⟩

end Draws

/-! ### What views deliver -/

/-- A run of uses of a view on an iterator, and what the host has afterwards. -/
structure View.Delivers (cx : Context) (it : Handle) (ts : List (Draw σ)) (r : Consumer) : Prop where
  /-- Whatever is done next, there is an answer. -/
  goesOn (u : Consumer.Use) (w : World σ) : ∃ t : Draw σ, t.use = u ∧ t.before = r ∧ t.start = w ∧ t.Happens cx
  /-- Each use is answered with the outcome of its foreign step; without one the guest is not asked. -/
  told : ∀ t ∈ ts, t.Told cx it
  /-- Until the iterator ends, the view is active and holds one handle. -/
  active : (∀ t ∈ ts, t.outcome it ≠ some .stop) → r.place.state = .active ∧ r.place.handles = [it]
  /-- As long as it is, the view makes a foreign step whenever it is asked, -/
  advances : ∀ t ∈ ts, t.before.place.state = .active → t.use = .advance → (t.outcome it).isSome
  /-- and so does a cursor through which no exception came. -/
  iterates : ∀ before t mid t' after, ts = before ++ t :: (mid ++ t' :: after) → t.use = .begin →
    (∀ m ∈ mid, m.use = .next ∧ m.raises it = false) → t'.use = .next → t'.before.place.state = .active →
    (t'.outcome it).isSome
  /-- After an exception a cursor gives nothing any more, and the view stays active. -/
  fails : ∀ before t mid t' after, ts = before ++ t :: (mid ++ t' :: after) → t.use = .next → t.raises it →
    (∀ m ∈ mid, m.use = .next) → t'.use = .next →
    t'.answer = some .ended ∧ t'.outcome it = none ∧ t'.finish = t'.start ∧ t'.before.place.state = .active
  /-- When the iterator ends its handle is released; the view is exhausted from then on, and the guest
  is not asked any more. -/
  ends : ∀ before t after, ts = before ++ t :: after → t.outcome it = some .stop →
    t.finish = (View.foreign it.object t.start).2.release (.owner cx.session) it ∧
    (∀ t' ∈ after, t'.outcome it = none ∧ t'.answer = t'.before.idle t'.use ∧ t'.finish = t'.start) ∧
    r.place.state = .exhausted ∧ r.place.handles = []

section

variable {ts : List (Draw σ)} {r : Consumer}

theorem Consumer.goesOn (own : it.session = cx.session) (of : r.Of it) (u : Consumer.Use) (w : World σ) :
    ∃ t : Draw σ, t.use = u ∧ t.before = r ∧ t.start = w ∧ t.Happens cx :=
  ⟨⟨u, r, w, _, _, _⟩, rfl, rfl, rfl, r.run_use own of u w⟩

theorem View.state_active {v : View} (of : v = ⟨some it⟩ ∨ v = ⟨none⟩) (active : v.state = .active) :
    v = ⟨some it⟩ := by
  rcases of with holds | rfl
  · exact holds
  · cases active

theorem Draw.outcome_isSome {t : Draw σ} (steps : t.before.steps t.use = true) : (t.outcome it).isSome := by
  rw [Draw.outcome, Consumer.outcome_of_steps steps]
  rfl

namespace Draws

variable {r₀ : Consumer} {before mid after : List (Draw σ)} {t t' : Draw σ}

/-- Every use finds the view with the iterator's handle or none. -/
theorem of (own : it.session = cx.session) (start : r₀.Of it) (h : Draws cx r₀ ts r) : ∀ t ∈ ts, t.before.Of it := by
  intro t ht
  obtain ⟨before, after, rfl⟩ := List.append_of_mem ht
  obtain ⟨r₁, first, second⟩ := h.split
  exact second.head.1 ▸ (first.told own start).2

/-- A cursor through which no exception came makes a step when it is asked, as long as the view is
active. -/
theorem iterates (own : it.session = cx.session) (start : r₀.Of it)
    (h : Draws cx r₀ (before ++ t :: (mid ++ t' :: after)) r) (use : t.use = .begin)
    (calm : ∀ m ∈ mid, m.use = .next ∧ m.raises it = false) (use' : t'.use = .next)
    (active : t'.before.place.state = .active) : (t'.outcome it).isSome := by
  have told := (h.told own start).1 t (by simp)
  obtain ⟨-, through⟩ := h.between
  have fresh : t.after = .cursor ⟨t.before.place, false⟩ := by rw [told.after, use]; rfl
  have ofAfter := told.of (h.of own start t (by simp))
  rw [fresh] at through ofAfter
  obtain ⟨v, last⟩ := through.unfailed own ofAfter calm
  have holds := View.state_active (h.of own start t' (by simp)) active
  refine Draw.outcome_isSome ?_
  rw [use', last]
  rw [last] at holds
  change (!false && v.iterator.isSome) = true
  rw [show v = ⟨some it⟩ from holds]
  rfl

/-- A cursor through which an exception came gives nothing any more, and the view stays active. -/
theorem fails (own : it.session = cx.session) (start : r₀.Of it)
    (h : Draws cx r₀ (before ++ t :: (mid ++ t' :: after)) r) (use : t.use = .next) (raises : t.raises it)
    (only : ∀ m ∈ mid, m.use = .next) (use' : t'.use = .next) :
    t'.answer = some .ended ∧ t'.outcome it = none ∧ t'.finish = t'.start ∧ t'.before.place.state = .active := by
  have told := (h.told own start).1
  obtain ⟨-, through⟩ := h.between
  have ofBefore := h.of own start t (by simp)
  have ofAfter := (told t (by simp)).of ofBefore
  rw [(told t (by simp)).fails ofBefore use raises] at through ofAfter
  have same := through.failed own ofAfter only
  obtain ⟨none, answer, finish⟩ := (told t' (by simp)).idle (by rw [same, use']; rfl)
  refine ⟨?_, none, finish, ?_⟩
  · rw [answer, same, use']
    rfl
  · rw [same]
    rfl

/-- When the iterator ends its handle is released, and nothing is asked for any more. -/
theorem ends (own : it.session = cx.session) (start : r₀.Of it) (h : Draws cx r₀ (before ++ t :: after) r)
    (stop : t.outcome it = some .stop) :
    t.finish = (View.foreign it.object t.start).2.release (.owner cx.session) it ∧
    (∀ t' ∈ after, t'.outcome it = none ∧ t'.answer = t'.before.idle t'.use ∧ t'.finish = t'.start) ∧
    r.place.state = .exhausted ∧ r.place.handles = [] := by
  have told := (h.told own start).1 t (by simp)
  obtain ⟨r₁, -, second⟩ := h.split
  obtain ⟨-, -, rest⟩ := second.head
  have ended : t.after.place = ⟨none⟩ := by rw [told.place, stop]; rfl
  obtain ⟨last, idle⟩ := rest.exhausted own ended
  refine ⟨(told.stepped stop).2, idle, ?_, ?_⟩
  · rw [last]
    rfl
  · rw [last]
    rfl

end Draws

/-- **Views deliver every outcome once and in order.** -/
theorem View.delivers (own : it.session = cx.session) (h : Draws cx (.view ⟨some it⟩) ts r) :
    View.Delivers cx it ts r := by
  have start : (Consumer.view ⟨some it⟩).Of it := .inl rfl
  obtain ⟨told, of⟩ := h.told own start
  refine ⟨fun u w => Consumer.goesOn own of u w, told, fun still => ?_, fun t ht active use => ?_, ?_, ?_, ?_⟩
  · rw [h.active own rfl still]
    exact ⟨rfl, rfl⟩
  · refine Draw.outcome_isSome ?_
    rw [use, Consumer.steps, View.state_active (h.of own start t ht) active]
    rfl
  · rintro before t mid t' after rfl
    exact h.iterates own start
  · rintro before t mid t' after rfl
    exact h.fails own start
  · rintro before t after rfl
    exact h.ends own start

end

/-! ### An iterator that raises and then goes on -/

/-- A guest with one iterator, by what is left of its outcomes. After the end it would go on. -/
structure Spool where
  left : List (Except Raised Ref)

namespace Spool

/-- The exception at the end, and another. -/
def stop : Raised := ⟨⟨10⟩, []⟩
def fault : Raised := ⟨⟨11⟩, []⟩

/-- Answers a request. -/
def answer (s : Spool) : {α : Type} → Request α → Except Raised α × Spool
  | _, .getAttr o _ => (.ok o, s)
  | _, .call _ _ _ => match s.left with
    | [] => (.error stop, s)
    | o :: left => (o, ⟨left⟩)
  | _, .belongs r _ => (.ok (r == stop.value), s)
  | _, .typeName _ => (.ok "RuntimeError", s)
  | _, .str _ => (.ok (Text.ofString "mid-stream"), s)
  | _, _ => (.error fault, s)

instance : GuestState Spool where
  perform _ r s := ((s.answer r).1, [], (s.answer r).2)

/-- The iterator, with the handle that a view holds. -/
def held : Handle := ⟨⟨9⟩, 0, none⟩

/-- An element, an exception, another element, the end, and one more element. -/
def world : World Spool :=
  ⟨⟨[.ok ⟨5⟩, .error fault, .ok ⟨6⟩, .error stop, .ok ⟨7⟩]⟩, [⟨9⟩], [⟨1, some [], "", none⟩], []⟩

end Spool

/-- The uses that there are if nothing happens between them. -/
def Consumer.draw (cx : Context) (it : Handle) : List Consumer.Use → Consumer → World σ → List (Draw σ)
  | [], _, _ => []
  | u :: us, r, w =>
    let t : Draw σ := ⟨u, r, w, (r.served cx it u w).1, r.after u (r.outcome it u w), (r.served cx it u w).2⟩
    t :: draw cx it us t.after t.finish

theorem Consumer.draws_draw (own : it.session = cx.session) (us : List Consumer.Use) (r : Consumer) (of : r.Of it)
    (w : World σ) : ∃ r', Draws cx r (r.draw cx it us w) r' := by
  induction us generalizing r w with
  | nil => exact ⟨r, .nil r⟩
  | cons u us ih =>
      have happens : Draw.Happens cx
          ⟨u, r, w, (r.served cx it u w).1, r.after u (r.outcome it u w), (r.served cx it u w).2⟩ :=
        r.run_use own of u w
      obtain ⟨r', rest⟩ := ih _ ((happens.told own of).of of) _
      exact ⟨r', .cons happens rest⟩

theorem View.delivers_spool :
    Spool.held.session = (⟨0⟩ : Context).session ∧
    ∃ (ts : List (Draw Spool)) (r : Consumer), Draws ⟨0⟩ (.view ⟨some Spool.held⟩) ts r ∧ View.Delivers ⟨0⟩ Spool.held ts r ∧
      ts.map Draw.use = [.advance, .begin, .next, .next, .begin, .next, .drop, .advance, .advance, .begin, .next] ∧
      ts.map Draw.answer = [some (.element ⟨⟨5⟩, 0, none⟩), none,
        some (.failed (.foreignException ⟨⟨11⟩, 0, none⟩ none ⟨"RuntimeError", "mid-stream", none⟩)), some .ended,
        none, some (.element ⟨⟨6⟩, 0, none⟩), none, some .ended, some .ended, none, some .ended] ∧
      ts.getLast?.map (·.finish.held) = some [⟨6⟩, ⟨11⟩, ⟨5⟩] := by
  have own : Spool.held.session = (⟨0⟩ : Context).session := rfl
  obtain ⟨r, draws⟩ := Consumer.draws_draw own
    [.advance, .begin, .next, .next, .begin, .next, .drop, .advance, .advance, .begin, .next] (.view ⟨some Spool.held⟩)
    (.inl rfl) Spool.world
  exact ⟨own, _, r, draws, View.delivers own draws, rfl, rfl, rfl⟩

end GuestBridge.Bridge
