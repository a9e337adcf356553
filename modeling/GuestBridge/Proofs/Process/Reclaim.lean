import GuestBridge.Proofs.Process.Releases

/-!
# Giving References Back

What is promised about references that are released, on the owner of their session or on any other
thread, before, during and after the session's end.

## Main results

* `released_run` — in every run every released reference is given back once, those parked before a
  job begins are given back before it runs, nothing is left on a closed list, and owners report as
  many references as were parked.
-/

namespace GuestBridge.Session

open Bridge
open Guest (Ref)

variable {σ J R : Type}

namespace Process

/-- What holds between any two steps. -/
structure Sound [HasHandles R] (p : Process σ J R) : Prop where
  booked : p.Booked
  queued : p.Queued
  phased : p.Phased
  ledger : p.Ledger

variable [HasHandles R] {p p' : Process σ J R} {s : SessionId}

/-! ### In the hands of the owner -/

/-- The reference of a release is parked, or in the hands of the owner at its end. -/
def Waits (p : Process σ J R) (s : SessionId) (i : Nat) : Prop :=
  ∃ r, p.releases[i]? = some r ∧ r.handle.session = s ∧ (r.stage = .parked ∨ r.stage = .taken)

omit [HasHandles R] in
theorem Waits.mem_numbersAt {stage : Stage} {r : Release} {i : Nat}
    (there : p.releases[i]? = some r) (session : r.handle.session = s) (at_ : r.stage = stage) :
    i ∈ numbersAt s stage p.releases := by
  rw [Process.mem_numbersAt]
  exact ⟨r, there, by simp [Release.isAt, session, at_]⟩

/-- Owners hold references only at their end. -/
theorem Booked.not_taken (b : p.Booked) (rest : (p.owner s).rest = []) {i : Nat} {r : Release}
    (there : p.releases[i]? = some r) (session : r.handle.session = s) : r.stage ≠ .taken := by
  intro taken
  have none : refsAt s .taken p.releases = [] := by
    have perm := b.taken s
    rw [rest] at perm
    exact perm.nil_eq.symm
  rw [refsAt, List.flatMap_eq_nil_iff] at none
  have here := none r (List.mem_of_getElem? there)
  rw [refAt_pos (by simp [Release.isAt, session, taken])] at here
  cases here

/-- Nothing is parked on a closed list. -/
theorem Booked.parked_nil (b : p.Booked) (closed : p.isShut s) :
    refsAt s .parked p.releases = [] := by
  have parked : (p.system.world.session s).parked = none := closed
  have perm := b.parked s
  rw [SessionState.parkedRefs, parked] at perm
  exact perm.nil_eq.symm

theorem Booked.not_parked (b : p.Booked) (closed : p.isShut s) {i : Nat} {r : Release}
    (there : p.releases[i]? = some r) (session : r.handle.session = s) : r.stage ≠ .parked := by
  intro parked
  have none := b.parked_nil closed
  rw [refsAt, List.flatMap_eq_nil_iff] at none
  have here := none r (List.mem_of_getElem? there)
  rw [refAt_pos (by simp [Release.isAt, session, parked])] at here
  cases here

/-- What waits for an owner is given back before the next job begins. -/
theorem Waits.flow (b : p.Booked) (flow : p.Flow p') {i : Nat} (w : p.Waits s i) :
    i ∈ p'.returns ∨ p'.Waits s i ∧
      ∀ ticket job, p'.owner s = .working ticket job → p.owner s = .working ticket job := by
  obtain ⟨r, there, session, waits⟩ := w
  have elsewhere {u : SessionId} {before after : Stage} {ns : List Nat}
      (brings : p.Brings p' u before after ns) (other : s ≠ u) : p'.Waits s i ∧
        ∀ ticket job, p'.owner s = .working ticket job → p.owner s = .working ticket job := by
    refine ⟨⟨r, ?_, session, waits⟩, fun ticket job h => brings.others s other ▸ h⟩
    rw [brings.releases, List.getElem?_map, there, Option.map_some,
      move_neg (by simp [Release.isAt, session, other])]
  cases flow with
  | calm calm =>
      refine .inr ⟨⟨r, ?_, session, waits⟩, calm.begins s⟩
      rw [calm.releases, there]
  | begins t h begins =>
      refine .inr ⟨⟨r, ?_, session, waits⟩, fun ticket job h => begins.owners s ▸ h⟩
      rw [begins.releases, List.getElem?_append_left (List.getElem?_eq_some_iff.mp there).1, there]
  | continues j r' stage continues =>
      refine .inr ⟨⟨r, ?_, session, waits⟩, fun ticket job h => continues.owners s ▸ h⟩
      have other : j ≠ i := by
        rintro rfl
        cases continues.there.symm.trans there
        rcases continues.hand with h | h <;> rcases waits with h' | h' <;> cases h.symm.trans h'
      rw [continues.releases, List.getElem?_set_ne other, there]
  | reclaims u ticket job ns taking working sum brings =>
      by_cases own : s = u
      · subst own
        have parked : r.stage = .parked := waits.resolve_right
          (b.not_taken (by rw [taking]; rfl) there session)
        refine .inl ?_
        rw [brings.returns]
        exact List.mem_append_right _ (mem_numbersAt there session parked)
      · exact .inr (elsewhere brings own)
  | shuts u rest leaving shut closed brings =>
      by_cases own : s = u
      · subst own
        have parked : r.stage = .parked := waits.resolve_right
          (b.not_taken (by rw [leaving]; rfl) there session)
        refine .inr ⟨⟨{ r with stage := .taken }, ?_, session, .inr rfl⟩, fun ticket job h => ?_⟩
        · rw [brings.releases, List.getElem?_map, there, Option.map_some,
            move_pos (by simp [Release.isAt, session, parked])]
        · rw [shut] at h
          cases h
      · exact .inr (elsewhere brings own)
  | ends u rest n shut left number brings =>
      by_cases own : s = u
      · subst own
        rcases waits with parked | taken
        · refine .inr ⟨⟨r, ?_, session, .inl parked⟩, fun ticket job h => ?_⟩
          · rw [brings.releases, List.getElem?_map, there, Option.map_some,
              move_neg (by simp [Release.isAt, session, parked])]
          · rw [left] at h
            cases h
        · refine .inl ?_
          rw [brings.returns]
          exact List.mem_append_right _ (mem_numbersAt there session taken)
      · exact .inr (elsewhere brings own)

/-! ### What is held for releases -/

omit [HasHandles R] in
/-- Each session's part of a list of all sessions' parts. -/
theorem flatMap_sessions {α β : Type} (xs : List α) (d : α) (g : α → List β) :
    (List.range xs.length).flatMap (fun i => g (xs.getD i d)) = xs.flatMap g := by
  induction xs with
  | nil => rfl
  | cons x xs ih =>
      rw [List.length_cons, List.range_succ_eq_map, List.flatMap_cons, List.flatMap_map,
        List.flatMap_cons, ← ih]
      rfl

omit [HasHandles R] in
/-- A release counts for its own session only. -/
theorem flatMap_refAt {r : Release} {n : Nat} (lt : r.handle.session < n) (stage : Stage) :
    (List.range n).flatMap (fun s => r.refAt s stage) =
      if r.stage = stage then [r.object] else [] := by
  induction n with
  | zero => exact absurd lt (Nat.not_lt_zero _)
  | succ n ih =>
      rw [List.range_succ, List.flatMap_append, List.flatMap_singleton]
      rcases Nat.lt_succ_iff_lt_or_eq.mp lt with before | last
      · have other : r.refAt n stage = [] :=
          refAt_neg (by simp [Release.isAt, Nat.ne_of_lt before])
        rw [ih before, other, List.append_nil]
      · have before : (List.range n).flatMap (fun s => r.refAt s stage) = [] := by
          rw [List.flatMap_eq_nil_iff]
          intro s hs
          have ne : r.handle.session ≠ s := by
            rw [last]
            exact Ne.symm (Nat.ne_of_lt (List.mem_range.mp hs))
          exact refAt_neg (by simp [Release.isAt, ne])
        rw [before, List.nil_append, Release.refAt]
        simp [Release.isAt, last]

omit [HasHandles R] in
/-- Over all sessions, the references at a stage are those of all releases at that stage. -/
theorem flatMap_refsAt {rs : List Release} {n : Nat} (known : ∀ r ∈ rs, r.handle.session < n)
    (stage : Stage) : ((List.range n).flatMap fun s => refsAt s stage rs).Perm
      ((rs.filter (·.stage = stage)).map Release.object) := by
  induction rs with
  | nil => simp [refsAt]
  | cons r rs ih =>
      have split := List.flatMap_append_perm (List.range n) (fun s => r.refAt s stage)
        (fun s => refsAt s stage rs)
      rw [flatMap_refAt (known r List.mem_cons_self)] at split
      refine split.symm.trans ((ih fun r hr => known r (List.mem_cons_of_mem _ hr)).append_left _
        |>.trans (.of_eq ?_))
      rw [List.filter_cons]
      by_cases at_ : r.stage = stage <;> simp [at_]

/-- What is parked for all sessions. -/
theorem Booked.parkedRefs (b : p.Booked) : p.system.world.parkedRefs.Perm
    ((p.releases.filter (·.stage = .parked)).map Release.object) := by
  rw [World.parkedRefs, ← flatMap_sessions _ SessionState.fresh]
  refine List.Perm.trans ?_ (flatMap_refsAt (fun r hr => b.sessions ▸ b.known r hr) .parked)
  exact List.Perm.flatMap_left _ fun s _ => b.parked s

omit [HasHandles R] in
/-- A released reference is parked, in somebody's hands, or given back. -/
theorem count_releases (rs : List Release) (x : Ref) :
    (rs.map Release.object).count x = ((rs.filter (·.stage = .parked)).map Release.object).count x +
      (handRefs rs).count x + ((rs.filter (·.stage.given)).map Release.object).count x := by
  induction rs with
  | nil => rfl
  | cons r rs ih =>
      rw [handRefs, List.flatMap_cons, ← handRefs, List.count_append, List.map_cons,
        List.count_cons, ih, List.filter_cons, List.filter_cons, Release.handRef]
      cases hs : r.stage <;> simp [Stage.inHand, Stage.given, List.count_cons] <;> omega

/-- Every released reference is held until it is given back. -/
theorem Booked.held (b : p.Booked) (x : Ref) : p.system.world.held.count x +
      ((p.releases.filter (·.stage.given)).map Release.object).count x =
    (p.existing.map Handle.object).count x + p.system.world.ownRefs.count x +
      (p.releases.map Release.object).count x := by
  have held := b.accounted.held x
  have released := count_releases p.releases x
  rw [b.parkedRefs.count_eq x, inHand] at held
  omega

/-! ### Several steps -/

theorem sound_initial (g : σ) : (initial g : Process σ J R).Sound where
  booked := booked_initial g
  queued := queued_initial g
  phased := phased_initial g
  ledger := .initial g

variable [GuestState σ]

theorem sound_step (h : p.Sound) (a : Action J R) : (p.step a).Sound where
  booked := booked_step h.booked h.queued a
  queued := h.queued.turned (turned_step h.queued a)
  phased := phased_step h.booked h.queued h.phased a
  ledger := h.ledger.flow (flow_step h.booked h.queued a)

theorem sound_run (g : σ) (as : List (Action J R)) : (run g as).Sound :=
  run_induction (P := Sound) (sound_initial g) (fun _ a h => sound_step h a) as

/-- What holds at first, and is kept by the steps of a sound process, holds after all of them. -/
theorem Sound.steps {P : Process σ J R → Prop} (h : p.Sound) (start : P p)
    (kept : ∀ q a, q.Sound → P q → P (q.step a)) (as : List (Action J R)) : P (p.steps as) := by
  induction as generalizing p with
  | nil => exact start
  | cons a as ih => exact ih (sound_step h a) (kept p a h start)

theorem Sound.play (h : p.Sound) (slots : List (Slot J R)) : (p.play s slots).Sound := by
  induction slots generalizing p with
  | nil => exact h
  | cons slot slots ih =>
      cases slot with
      | owner e => exact ih (sound_step h _)
      | other a => exact ih (sound_step h a)

/-! ### The promises -/

/-- What is promised about references that are released. -/
structure Released (p : Process σ J R) : Prop where
  /-- No reference is given back twice. -/
  once : p.returns.Nodup
  /-- Those given back are those whose releases say so. -/
  given : ∀ i, i ∈ p.returns ↔ ∃ r, p.releases[i]? = some r ∧ r.stage.given = true
  /-- Until it is given back a released reference is held; then it is not held any more. -/
  held : ∀ x, p.system.world.held.count x +
      ((p.releases.filter (·.stage.given)).map Release.object).count x =
    (p.existing.map Handle.object).count x + p.system.world.ownRefs.count x +
      (p.releases.map Release.object).count x
  /-- A release goes from stage to stage, and none of them twice. -/
  life : ∀ i r, p.releases[i]? = some r → ∀ a, (p.step a).Leads i r
  /-- What was given back stays so. -/
  kept : ∀ i ∈ p.returns, ∀ as, i ∈ (p.steps as).returns
  /-- The owner itself gives back what it releases. -/
  own : ∀ i r, p.releases[i]? = some r → r.stage = .counted →
    r.thread = .owner r.handle.session → i ∈ (p.step (.advance i)).returns
  /-- Another thread parks what it releases, as long as the list is not closed. -/
  away : ∀ i r, p.releases[i]? = some r → r.stage = .counted →
    r.thread ≠ .owner r.handle.session → ¬ p.isShut r.handle.session →
    (p.step (.advance i)).Waits r.handle.session i
  /-- After that it gives it back itself. -/
  late : ∀ i r, p.releases[i]? = some r → r.stage = .counted ∨ r.stage = .refused →
    p.isShut r.handle.session → i ∈ ((p.step (.advance i)).step (.advance i)).returns
  /-- A reference that a thread has released before the owner takes up a job has been given back
  before the job runs. -/
  before : ∀ i r, p.releases[i]? = some r → r.stage.inHand = false → ∀ as ticket job,
    (p.steps as).owner r.handle.session = .working ticket job →
    ticket ∉ (begunIn (p.events r.handle.session)).map (·.1) → i ∈ (p.steps as).returns
  /-- A closed list stays closed; nothing is left on it, and nothing is parked on it any more. -/
  closed : ∀ s, p.isShut s → ∀ as, (p.steps as).isShut s ∧ (p.steps as).numberAt s .parked = 0 ∧
    (p.steps as).everParked s = p.everParked s
  /-- At the end of a session everything that was released is given back, except for what threads
  have in hand. -/
  ended : ∀ s, p.owner s = .left ∨ p.owner s = .gone → ∀ i r, p.releases[i]? = some r →
    r.handle.session = s → i ∈ p.returns ∨ r.stage = .counted ∨ r.stage = .refused
  /-- A closed session comes to this end, after as many steps of its owner as remain. -/
  ends : ∀ s < p.system.controls.length, p.system.isRunning s = false →
    (p.owner s).hasStarted = true → ∀ slots,
    (p.system.control s).remaining ≤ slots.countP Slot.isOwner → ∀ i r,
    (p.play s slots).releases[i]? = some r → r.handle.session = s →
    i ∈ (p.play s slots).returns ∨ r.stage = .counted ∨ r.stage = .refused
  /-- The log says what owners report. -/
  noted : p.system.world.drained = p.reports.map fun e => toString e.2
  /-- What an owner reports and what is still to be given back is what was ever parked. -/
  reported : ∀ s, p.reported s + p.numberAt s .parked + p.numberAt s .taken = p.everParked s
  /-- At the end of a session it has reported all that was ever parked. -/
  total : ∀ s, p.owner s = .left ∨ p.owner s = .gone → p.reported s = p.everParked s

theorem Sound.closed (h : p.Sound) (closed : p.isShut s) (as : List (Action J R)) :
    (p.steps as).isShut s ∧ (p.steps as).numberAt s .parked = 0 ∧
      (p.steps as).everParked s = p.everParked s := by
  have stays : (p.steps as).Sound ∧ (p.steps as).isShut s ∧
      (p.steps as).everParked s = p.everParked s := by
    refine h.steps (P := fun q => q.Sound ∧ q.isShut s ∧ q.everParked s = p.everParked s)
      ⟨h, closed, rfl⟩ (fun q a sound before => ?_) as
    have flow := flow_step sound.booked sound.queued a
    exact ⟨sound_step sound a, flow.stays before.2.1,
      (flow.everParked before.2.1).trans before.2.2⟩
  obtain ⟨sound, shut, number⟩ := stays
  refine ⟨shut, ?_, number⟩
  rw [numberAt, ← length_refsAt, sound.booked.parked_nil shut, List.length_nil]

theorem Sound.before (h : p.Sound) {i : Nat} {r : Release} (there : p.releases[i]? = some r)
    (past : r.stage.inHand = false) (as : List (Action J R)) {ticket : Nat} {job : J}
    (working : (p.steps as).owner r.handle.session = .working ticket job)
    (later : ticket ∉ (begunIn (p.events r.handle.session)).map (·.1)) :
    i ∈ (p.steps as).returns := by
  have way : i ∈ (p.steps as).returns ∨ (p.steps as).Waits r.handle.session i ∧
      ∀ ticket job, (p.steps as).owner r.handle.session = .working ticket job →
        p.owner r.handle.session = .working ticket job := by
    refine h.steps (P := fun q => i ∈ q.returns ∨ q.Waits r.handle.session i ∧
      ∀ ticket job, q.owner r.handle.session = .working ticket job →
        p.owner r.handle.session = .working ticket job) ?_ (fun q a sound before => ?_) as
    · cases hs : r.stage with
      | parked => exact .inr ⟨⟨r, there, rfl, .inl hs⟩, fun _ _ h => h⟩
      | reclaimed | dropped => exact .inl ((h.ledger.given i).mpr ⟨r, there, by rw [hs]; rfl⟩)
      | counted | refused | taken =>
          rw [hs] at past
          cases past
    · have flow := flow_step sound.booked sound.queued a
      rcases before with given | ⟨waits, same⟩
      · exact .inl (flow.returns given)
      · rcases waits.flow sound.booked flow with given | ⟨waits, kept⟩
        · exact .inl given
        · exact .inr ⟨waits, fun ticket job h => same ticket job (kept ticket job h)⟩
  rcases way with given | ⟨-, same⟩
  · exact given
  · -- the job has begun before
    have work : (p.system.control r.handle.session).owner = .working ticket job :=
      same ticket job working
    have single := (h.queued r.handle.session).single
    rw [work] at single
    refine absurd ?_ later
    rw [single]
    exact List.mem_append_right _ List.mem_cons_self

omit [GuestState σ] in
theorem Sound.isShut (h : p.Sound) {r : Release} (hr : r ∈ p.releases)
    (past : p.owner r.handle.session = .left ∨ p.owner r.handle.session = .gone) :
    p.isShut r.handle.session := by
  rcases past with left | gone
  · exact h.phased.shut _ (by rw [left]; rfl)
  · exact (h.phased.releases r hr).2 gone

omit [GuestState σ] in
theorem Sound.ended (h : p.Sound) (past : p.owner s = .left ∨ p.owner s = .gone) {i : Nat}
    {r : Release} (there : p.releases[i]? = some r) (session : r.handle.session = s) :
    i ∈ p.returns ∨ r.stage = .counted ∨ r.stage = .refused := by
  subst session
  have closed := h.isShut (List.mem_of_getElem? there) past
  have rest : (p.owner r.handle.session).rest = [] := by
    rcases past with h | h <;> rw [h] <;> rfl
  cases hs : r.stage with
  | counted => exact .inr (.inl rfl)
  | refused => exact .inr (.inr rfl)
  | parked => exact absurd hs (h.booked.not_parked closed there rfl)
  | taken => exact absurd hs (h.booked.not_taken rest there rfl)
  | reclaimed | dropped => exact .inl ((h.ledger.given i).mpr ⟨r, there, by rw [hs]; rfl⟩)

omit [GuestState σ] in
theorem Sound.reported (h : p.Sound) (s : SessionId) :
    p.reported s + p.numberAt s .parked + p.numberAt s .taken = p.everParked s := by
  rw [everParked_eq, h.ledger.reported s]
  omega

omit [GuestState σ] in
theorem Sound.total (h : p.Sound) (past : p.owner s = .left ∨ p.owner s = .gone) :
    p.reported s = p.everParked s := by
  have none (stage : Stage) (waiting : stage = .parked ∨ stage = .taken) :
      p.numberAt s stage = 0 := by
    rw [numberAt, List.countP_eq_zero]
    intro r hr at_
    obtain ⟨i, there⟩ := List.mem_iff_getElem?.mp hr
    have session : r.handle.session = s := by
      rw [Release.isAt, Bool.and_eq_true] at at_
      exact of_decide_eq_true at_.1
    have stage := stage_of_isAt at_
    rcases h.ended past there session with given | hand | hand
    · refine h.ledger.not_mem there ?_ given
      rw [stage]
      rcases waiting with rfl | rfl <;> rfl
    · rw [stage] at hand
      rcases waiting with rfl | rfl <;> cases hand
    · rw [stage] at hand
      rcases waiting with rfl | rfl <;> cases hand
  rw [← h.reported s, none _ (.inl rfl), none _ (.inr rfl)]
  rfl

section

variable {i : Nat} {r : Release}

omit [HasHandles R] [GuestState σ] in
/-- What a thread gives back itself. -/
theorem mem_returns_dropped (world : World σ) : i ∈ (p.moveTo i r .dropped world).returns :=
  List.mem_append_right _ List.mem_cons_self

theorem advance_own (there : p.releases[i]? = some r) (counted : r.stage = .counted)
    (own : r.thread = .owner r.handle.session) : i ∈ (p.step (.advance i)).returns := by
  simp only [step, advance, there, counted, own, if_true]
  exact mem_returns_dropped _

theorem advance_away (there : p.releases[i]? = some r) (counted : r.stage = .counted)
    (away : r.thread ≠ .owner r.handle.session) (open_ : ¬ p.isShut r.handle.session) :
    (p.step (.advance i)).Waits r.handle.session i := by
  obtain ⟨rs, parked⟩ := Option.ne_none_iff_exists'.mp open_
  have lt : i < p.releases.length := (List.getElem?_eq_some_iff.mp there).1
  simp only [step, advance, there, counted, if_neg away, World.park?, parked, Option.map_some]
  exact ⟨{ r with stage := .parked }, List.getElem?_set_self lt, rfl, .inl rfl⟩

/-- Where nothing is parked any more, another thread keeps in hand what it has counted out. -/
theorem advance_closed (there : p.releases[i]? = some r) (counted : r.stage = .counted)
    (away : r.thread ≠ .owner r.handle.session) (closed : p.isShut r.handle.session) :
    p.step (.advance i) = p.moveTo i r .refused p.system.world := by
  have parked : (p.system.world.session r.handle.session).parked = none := closed
  simp only [step, advance, there, counted, if_neg away, World.park?, parked, Option.map_none]

/-- Then it gives it back. -/
theorem advance_refused (there : p.releases[i]? = some r) (refused : r.stage = .refused) :
    p.step (.advance i) = p.moveTo i r .dropped (p.system.world.drop r.object) := by
  simp only [step, advance, there, refused]

theorem Sound.late (h : p.Sound) (there : p.releases[i]? = some r)
    (hand : r.stage = .counted ∨ r.stage = .refused) (closed : p.isShut r.handle.session) :
    i ∈ ((p.step (.advance i)).step (.advance i)).returns := by
  have given (first : i ∈ (p.step (.advance i)).returns) :
      i ∈ ((p.step (.advance i)).step (.advance i)).returns := by
    have sound := sound_step h (.advance i)
    exact (flow_step sound.booked sound.queued (.advance i)).returns first
  rcases hand with counted | refused
  · by_cases own : r.thread = .owner r.handle.session
    · exact given (advance_own there counted own)
    · have lt : i < p.releases.length := (List.getElem?_eq_some_iff.mp there).1
      rw [advance_closed there counted own closed,
        advance_refused (r := { r with stage := .refused }) (List.getElem?_set_self lt) rfl]
      exact mem_returns_dropped _
  · refine given ?_
    rw [advance_refused there refused]
    exact mem_returns_dropped _

end

theorem Sound.released (h : p.Sound) : p.Released where
  once := h.ledger.once
  given := h.ledger.given
  held := h.booked.held
  life _ _ there a := (flow_step h.booked h.queued a).leads there
  kept i given as := h.steps (P := fun q => i ∈ q.returns) given
    (fun _ a sound before => (flow_step sound.booked sound.queued a).returns before) as
  own _ _ := advance_own
  away _ _ := advance_away
  late _ _ := h.late
  before _ _ there past as _ _ working later := h.before there past as working later
  closed _ := h.closed
  ended _ past _ _ := h.ended past
  ends _ lt closed started slots enough _ _ :=
    (h.play slots).ended (.inr (comes_to_end h.queued lt closed started slots enough))
  noted := h.ledger.noted
  reported := h.reported
  total _ := h.total

/-- **In every run references that are released are given back once.** Handles are released on any
thread at any time, while owners drain and close their lists at any time. -/
theorem released_run (g : σ) (as : List (Action J R)) : (run g as).Released :=
  (sound_run g as).released

end Process

end GuestBridge.Session
