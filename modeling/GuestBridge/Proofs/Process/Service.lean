import GuestBridge.Proofs.Process.Jobs

/-!
# What a Session Promises About Its Jobs

The owner runs exactly the jobs that were accepted, each once, one at a time and in order, and all
of them once the session is closed. `Service` says so for a session of a process, `service_run` that
it holds in every run: whatever the threads do, in any order, and however jobs end.

That the owner does not stop before it is done is `comes_to_end`: a closed session is at its end
after `Control.remaining` steps of its owner, no matter what other threads do in between.
-/

namespace GuestBridge.Session

open Bridge

variable {σ J R : Type}

/-! ### What stays -/

section

variable {c c' : Control J R} {es : List (Event J R)}

/-- A closed session stays closed. -/
theorem Turn.closed (t : Turn c es c') (closed : c.accepting = false) : c'.accepting = false := by
  cases t with
  | prepare starting reason => cases reason <;> first | exact closed | rfl
  | accept open_ started job =>
      rw [closed] at open_
      cases open_
  | close => rfl
  | stay | abort | receive | begin | finish | forget | answer | leave | shut | giveBack
  | surrender => exact closed

/-- A session that was handed out stays so. -/
theorem Turn.started (t : Turn c es c') (started : c.owner.hasStarted = true) :
    c'.owner.hasStarted = true := by
  cases t with
  | prepare starting reason =>
      rw [starting] at started
      cases started
  | stay | accept | close | forget | answer => exact started
  | abort | receive | begin | finish | leave | shut | giveBack | surrender => rfl

end

/-! ### The way to the end -/

/-- How many steps an owner has to go once its session is closed: three for each job, and four for
the end. -/
def Control.remaining (c : Control J R) : Nat :=
  match c.owner with
  | .starting | .failed | .idle => 3 * c.queue.length + 4
  | .taking _ _ => 3 * c.queue.length + 6
  | .working _ _ => 3 * c.queue.length + 5
  | .leaving => 3
  | .shut _ => 2
  | .left => 1
  | .gone => 0

theorem Control.gone_of_remaining {c : Control J R} (h : c.remaining = 0) : c.owner = .gone := by
  cases ho : c.owner <;> simp [Control.remaining, ho] at h ⊢

/-- Nobody makes the way longer. -/
theorem Turn.remaining {c c' : Control J R} {es : List (Event J R)} (t : Turn c es c')
    (closed : c.accepting = false) (started : c.owner.hasStarted = true) :
    c'.remaining ≤ c.remaining := by
  cases t with
  | stay | close | forget | answer => exact Nat.le_refl _
  | prepare starting reason =>
      rw [starting] at started
      cases started
  | abort failed =>
      rw [failed] at started
      cases started
  | accept open_ started job =>
      rw [closed] at open_
      cases open_
  | receive idle queue =>
      simp only [Control.remaining, idle, queue, List.length_cons]
      omega
  | begin taking =>
      simp only [Control.remaining, taking]
      omega
  | finish work e =>
      simp only [Control.remaining, work]
      omega
  | leave idle queue closed =>
      simp only [Control.remaining, idle]
      omega
  | shut leaving rest => simp [Control.remaining, leaving]
  | giveBack shut => simp [Control.remaining, shut]
  | surrender left => simp [Control.remaining]

namespace Process

variable [HasHandles R]

/-- The next step of the owner of a session. A job in work ends with `e`, or panics if not all
handles of `e` exist. -/
def ownerAction (p : Process σ J R) (s : SessionId) (e : Ending R) : Action J R :=
  match p.owner s with
  | .starting => .prepare s
  | .failed => .abort s
  | .idle => if (p.system.control s).queue.isEmpty then .leave s else .receive s
  | .taking _ _ => .begin s
  | .working _ _ => .finish s (if e.handles.Subperm p.handles then e else .panicked "")
  | .leaving => .shut s
  | .shut _ => .giveBack s
  | .left | .gone => .surrender s

variable [GuestState σ] {p : Process σ J R} {s : SessionId}

omit [HasHandles R] [GuestState σ] in
/-- What a step at a session leaves to do there. -/
theorem remaining_modify (p : Process σ J R) {sys : System σ J R} {f : Control J R → Control J R}
    (there : (p.system.control s).owner ≠ .gone)
    (controls : sys.controls = p.system.controls.modify s f) :
    (sys.control s).remaining = (f (p.system.control s)).remaining := by
  have control : sys.control s = (p.system.modifyControl s f).control s := by
    rw [System.control, controls]
    rfl
  rw [control, System.control_modifyControl _ f (System.lt_of_owner there)]

/-- The owner of a closed session is never stuck: its next step brings it nearer to its end. -/
theorem remaining_ownerAction (closed : p.system.isRunning s = false)
    (started : (p.owner s).hasStarted = true) (e : Ending R) :
    ((p.step (p.ownerAction s e)).system.control s).remaining =
      (p.system.control s).remaining - 1 := by
  have accepting : (p.system.control s).accepting = false := closed
  cases ho : (p.system.control s).owner with
  | starting | failed =>
      rw [owner, ho] at started
      cases started
  | idle =>
      have there : (p.system.control s).owner ≠ .gone := by simp [ho]
      cases hq : (p.system.control s).queue with
      | nil =>
          simp only [ownerAction, owner, ho, hq, List.isEmpty_nil, if_true, step, act, System.leave,
            accepting]
          rw [p.remaining_modify (f := fun c => { c with owner := .leaving }) there rfl]
          simp [Control.remaining, ho, hq]
      | cons j rest =>
          simp only [ownerAction, owner, ho, hq, List.isEmpty_cons, Bool.false_eq_true, if_false,
            step, act, System.receive]
          rw [p.remaining_modify (f := fun c =>
            { c with owner := .taking j.1 j.2, queue := rest }) there rfl]
          simp only [Control.remaining, ho, hq, List.length_cons]
          omega
  | taking ticket job =>
      have there : (p.system.control s).owner ≠ .gone := by simp [ho]
      simp only [ownerAction, owner, ho, step, begin, System.begin]
      rw [p.remaining_modify (f := fun c => { c with owner := .working ticket job }) there rfl]
      simp [Control.remaining, ho]
  | working ticket job =>
      have there : (p.system.control s).owner ≠ .gone := by simp [ho]
      have exist : (if e.handles.Subperm p.handles then e else .panicked "").handles.Subperm
          p.handles := by
        split
        · assumption
        · exact List.nil_subperm
      simp only [ownerAction, owner, ho, step]
      generalize (if e.handles.Subperm p.handles then e else .panicked "") = e' at exist ⊢
      simp only [finish, System.finish, owner, ho, if_pos exist]
      refine (p.remaining_modify (f := fun c => { c with
        owner := .idle
        results := if (p.system.control s).wanted.contains ticket then (ticket, e') :: c.results
          else c.results }) there rfl).trans ?_
      simp [Control.remaining, ho]
  | leaving =>
      have there : (p.system.control s).owner ≠ .gone := by simp [ho]
      simp only [ownerAction, owner, ho, step, shut, System.shut]
      rw [p.remaining_modify (f := fun c =>
        { c with owner := .shut (p.system.world.closeParked s).1 }) there rfl]
      simp [Control.remaining, ho]
  | shut rest =>
      have there : (p.system.control s).owner ≠ .gone := by simp [ho]
      simp only [ownerAction, owner, ho, step, giveBack, System.giveBack]
      rw [p.remaining_modify (f := fun c => { c with owner := .left }) there rfl]
      simp [Control.remaining, ho]
  | left =>
      have there : (p.system.control s).owner ≠ .gone := by simp [ho]
      simp only [ownerAction, owner, ho, step, act, System.surrender]
      rw [p.remaining_modify (f := fun c => { c with owner := .gone }) there rfl]
      simp [Control.remaining, ho]
  | gone =>
      simp only [ownerAction, owner, ho, step, act, System.surrender]
      simp [Control.remaining, ho]

/-! ### Any order of steps -/

/-- A step of the owner of a session, or of anybody. -/
inductive Slot (J R : Type)
  | owner (e : Ending R)
  | other (a : Action J R)

/-- Whether it is the owner's turn. -/
def Slot.isOwner : Slot J R → Bool
  | owner _ => true
  | other _ => false

/-- Steps one after the other, some of them the owner's. -/
def play (p : Process σ J R) (s : SessionId) (slots : List (Slot J R)) : Process σ J R :=
  slots.foldl (fun p slot => match slot with
    | .owner e => p.step (p.ownerAction s e)
    | .other a => p.step a) p

omit [HasHandles R] [GuestState σ] in
/-- For a session that exists, every step is a turn. -/
theorem Turned.turn {p' : Process σ J R} (t : p.Turned p') (lt : s < p.system.controls.length) :
    ∃ es, Turn (p.system.control s) es (p'.system.control s) := by
  rcases t.each s with ⟨es, -, turn⟩ | ⟨new, -⟩
  · exact ⟨es, turn⟩
  · exact absurd lt new

/-- **A closed session comes to its end**: after as many steps of its owner as remain, whatever
others do in between. -/
theorem comes_to_end (q : p.Queued) (lt : s < p.system.controls.length)
    (closed : p.system.isRunning s = false) (started : (p.owner s).hasStarted = true)
    (slots : List (Slot J R))
    (enough : (p.system.control s).remaining ≤ slots.countP Slot.isOwner) :
    (p.play s slots).owner s = .gone := by
  induction slots generalizing p with
  | nil => exact Control.gone_of_remaining (Nat.le_zero.mp enough)
  | cons slot slots ih =>
      have after (a : Action J R) (near : ((p.step a).system.control s).remaining ≤
          slots.countP Slot.isOwner) : ((p.step a).play s slots).owner s = .gone := by
        have turned := turned_step q a
        obtain ⟨es, turn⟩ := turned.turn lt
        exact ih (q.turned turned) (Nat.lt_of_lt_of_le lt turned.length) (turn.closed closed)
          (turn.started started) near
      cases slot with
      | owner e =>
          refine after _ ?_
          rw [remaining_ownerAction closed started]
          rw [List.countP_cons_of_pos rfl] at enough
          exact Nat.sub_le_of_le_add enough
      | other a =>
          refine after a ?_
          rw [List.countP_cons_of_neg (by simp [Slot.isOwner])] at enough
          obtain ⟨es, turn⟩ := (turned_step q a).turn lt
          exact Nat.le_trans (turn.remaining closed started) enough

/-! ### The promises -/

/-- Two processes in which a session's jobs are at the same place: what is taken, queued, begun and
ended. -/
def SameWork (p p' : Process σ J R) (s : SessionId) : Prop :=
  p'.system.isRunning s = p.system.isRunning s ∧ p'.owner s = p.owner s ∧
    (p'.system.control s).queue = (p.system.control s).queue ∧
    begunIn (p'.events s) = begunIn (p.events s) ∧ endedIn (p'.events s) = endedIn (p.events s)

/-- What a session promises about its jobs. -/
structure Service (p : Process σ J R) (s : SessionId) : Prop where
  /-- Tickets number the accepted jobs, so no two jobs share one. -/
  tickets : (acceptedIn (p.events s)).map (·.1) = List.range (acceptedIn (p.events s)).length
  /-- Only accepted jobs begin, each once, in the order of acceptance. -/
  order : begunIn (p.events s) <+: acceptedIn (p.events s)
  /-- One job at a time: at most one of those begun has not ended. -/
  single : ∃ work : List Nat, work.length ≤ 1 ∧
    (begunIn (p.events s)).map (·.1) = (endedIn (p.events s)).map (·.1) ++ work
  /-- An owner that takes no more jobs has run all that were accepted. -/
  complete : (p.owner s).isOver = true → begunIn (p.events s) = acceptedIn (p.events s) ∧
    (endedIn (p.events s)).map (·.1) = (acceptedIn (p.events s)).map (·.1)
  /-- A wait gives the value of its own job, or that this job panicked, or that time ran out. -/
  answers : ∀ ticket answer, (ticket, answer) ∈ answersIn (p.events s) →
    answer = .error .timedOut ∨
    (∃ r, (ticket, .returned r) ∈ endedIn (p.events s) ∧ answer = .ok r) ∨
    ∃ message, (ticket, .panicked message) ∈ endedIn (p.events s) ∧ answer = .error .jobPanicked
  /-- Nobody gets two answers for a job. -/
  once : ((answersIn (p.events s)).map (·.1)).Nodup
  /-- Who still waits for a job that has ended gets its answer. -/
  ready : ∀ ticket e, (ticket, e) ∈ endedIn (p.events s) → ticket ∈ (p.system.control s).wanted →
    (p.system.wait s ticket).map (·.1) = some e.answer
  /-- The owner itself can neither submit nor stop; trying changes nothing. -/
  reentrant : ∀ job, p.system.submit (.owner s) s job = .error .reentrant ∧
    p.system.close (.owner s) s = .error .reentrant ∧
    p.step (.submit (.owner s) s job) = p ∧ p.step (.close (.owner s) s) = p
  /-- A closed session takes no jobs; trying changes nothing. -/
  finalized : p.system.isRunning s = false → ∀ t, t ≠ .owner s → ∀ job,
    p.system.submit t s job = .error .finalized ∧ p.step (.submit t s job) = p
  /-- A session that is closed stays closed. -/
  closed : s < p.system.controls.length → p.system.isRunning s = false →
    ∀ as, (p.steps as).system.isRunning s = false
  /-- Waiting, giving up and running out of time change nothing of what is executed. -/
  waits : ∀ ticket, ∀ a ∈ [Action.collect s ticket, .timeOut s ticket, .abandon s ticket],
    p.SameWork (p.step a) s
  /-- A closed session comes to its end, with all its jobs done, after as many steps of its owner as
  remain, whatever others do in between. -/
  ends : s < p.system.controls.length → p.system.isRunning s = false →
    (p.owner s).hasStarted = true → ∀ slots,
    (p.system.control s).remaining ≤ slots.countP Slot.isOwner →
    (p.play s slots).owner s = .gone ∧ (endedIn ((p.play s slots).events s)).map (·.1) =
      (acceptedIn ((p.play s slots).events s)).map (·.1)

omit [HasHandles R] [GuestState σ] in
theorem Queued.complete (q : p.Queued) (past : (p.owner s).isOver = true) :
    begunIn (p.events s) = acceptedIn (p.events s) ∧
      (endedIn (p.events s)).map (·.1) = (acceptedIn (p.events s)).map (·.1) := by
  have fits := q s
  have idle : (p.system.control s).owner.inTaking = [] ∧ (p.system.control s).owner.inWork = [] :=
    Owner.jobless_of_over past
  have begun : begunIn (p.events s) = acceptedIn (p.events s) := by
    rw [fits.order, idle.1, (fits.late past).1, List.append_nil, List.append_nil]
  refine ⟨begun, ?_⟩
  rw [← begun, fits.single, idle.2, List.map_nil, List.append_nil]

theorem Queued.steps (q : p.Queued) (as : List (Action J R)) : (p.steps as).Queued := by
  induction as generalizing p with
  | nil => exact q
  | cons a as ih => exact ih (q.turned (turned_step q a))

theorem Queued.play (q : p.Queued) (slots : List (Slot J R)) : (p.play s slots).Queued := by
  induction slots generalizing p with
  | nil => exact q
  | cons slot slots ih =>
      cases slot with
      | owner e => exact ih (q.turned (turned_step q _))
      | other a => exact ih (q.turned (turned_step q a))

theorem Queued.closed (q : p.Queued) (lt : s < p.system.controls.length)
    (closed : p.system.isRunning s = false) (as : List (Action J R)) :
    (p.steps as).system.isRunning s = false := by
  induction as generalizing p with
  | nil => exact closed
  | cons a as ih =>
      have turned := turned_step q a
      obtain ⟨es, turn⟩ := turned.turn lt
      exact ih (q.turned turned) (Nat.lt_of_lt_of_le lt turned.length) (turn.closed closed)

omit [HasHandles R] [GuestState σ] in
theorem Queued.ready (q : p.Queued) {ticket : Nat} {e : Ending R}
    (ended : (ticket, e) ∈ endedIn (p.events s))
    (wanted : ticket ∈ (p.system.control s).wanted) :
    (p.system.wait s ticket).map (·.1) = some e.answer := by
  have there := ((q s).results ticket e).mpr ⟨ended, wanted⟩
  have found : (p.system.control s).results.lookup ticket = some e :=
    lookup_of_mem (q s).kept there
  simp [System.wait, System.collect, found]

omit [GuestState σ] [HasHandles R] in
/-- Forgetting a ticket leaves the rest of a session's queue and owner as it is. -/
theorem forget_elsewhere (sys : System σ J R) (s : SessionId) (ticket : Nat) :
    (sys.forget s ticket).isRunning s = sys.isRunning s ∧
      ((sys.forget s ticket).control s).owner = (sys.control s).owner ∧
      ((sys.forget s ticket).control s).queue = (sys.control s).queue := by
  by_cases lt : s < sys.controls.length
  · rw [System.isRunning, System.forget, System.control_modifyControl _ _ lt]
    exact ⟨rfl, rfl, rfl⟩
  · have outside : ¬ s < (sys.forget s ticket).controls.length := by
      simpa [System.forget, System.modifyControl] using lt
    rw [System.isRunning, System.control_outside _ outside, System.isRunning,
      System.control_outside _ lt]
    exact ⟨rfl, rfl, rfl⟩

omit [GuestState σ] [HasHandles R] in
/-- An answer is not part of what is executed. -/
theorem executed_answered (p : Process σ J R) (s : SessionId) (ticket : Nat)
    (answer : Except SessionError R) :
    begunIn ((p.record s (.answered ticket answer)).events s) = begunIn (p.events s) ∧
      endedIn ((p.record s (.answered ticket answer)).events s) = endedIn (p.events s) := by
  rw [events_record]
  simp

omit [GuestState σ] in
theorem sameWork_abandon (p : Process σ J R) (s : SessionId) (ticket : Nat) :
    p.SameWork (p.abandon s ticket) s := by
  obtain ⟨running, owner, queue⟩ := forget_elsewhere p.system s ticket
  have events : (p.abandon s ticket).events s = p.events s := by
    rw [events, p.abandon_history, Process.events]
  rw [SameWork, Process.owner, p.abandon_system, events]
  exact ⟨running, owner, queue, rfl, rfl⟩

omit [GuestState σ] [HasHandles R] in
theorem SameWork.answered {p p' : Process σ J R} (h : p.SameWork p' s) (ticket : Nat)
    (answer : Except SessionError R) : p.SameWork (p'.record s (.answered ticket answer)) s := by
  obtain ⟨running, owner, queue, begun, ended⟩ := h
  obtain ⟨begun', ended'⟩ := executed_answered p' s ticket answer
  exact ⟨running, owner, queue, begun'.trans begun, ended'.trans ended⟩

/-- Whoever waits, gives up or runs out of time changes nothing of what is executed. -/
theorem sameWork_waits (p : Process σ J R) (s : SessionId) (ticket : Nat) :
    ∀ a ∈ [Action.collect s ticket, .timeOut s ticket, .abandon s ticket],
    p.SameWork (p.step a) s := by
  have same : p.SameWork p s := ⟨rfl, rfl, rfl, rfl, rfl⟩
  intro a ha
  simp only [List.mem_cons, List.not_mem_nil, or_false] at ha
  rcases ha with rfl | rfl | rfl
  · change p.SameWork (p.collect s ticket) s
    unfold Process.collect
    split
    · rename_i e system h
      obtain ⟨-, rfl⟩ := collect_eq_some h
      exact SameWork.answered (p := p) (forget_elsewhere p.system s ticket |>.imp_right
        fun ⟨owner, queue⟩ => ⟨owner, queue, rfl, rfl⟩) ticket e.answer
    · exact same
  · change p.SameWork (p.timeOut s ticket) s
    unfold Process.timeOut
    split
    · exact (p.sameWork_abandon s ticket).answered ticket _
    · exact same
  · exact p.sameWork_abandon s ticket

/-- **In every run every session keeps its promises.** -/
theorem service_run (g : σ) (as : List (Action J R)) (s : SessionId) :
    Service (run g as) s := by
  have q : (run g as).Queued := queued_run g as
  have fits := q s
  refine ⟨?_, ?_, ?_, q.complete, ?_, fits.once, fun t e => q.ready, ?_, ?_, q.closed,
    sameWork_waits (run g as) s, ?_⟩
  · have length := congrArg List.length fits.tickets
    rw [List.length_map, List.length_range] at length
    rw [length]
    exact fits.tickets
  · exact ⟨_, fits.order.symm⟩
  · refine ⟨_, ?_, fits.single⟩
    cases ((run g as).system.control s).owner <;> simp [Owner.inWork]
  · intro ticket answer h
    obtain ⟨-, -, late | ⟨e, ended, same⟩⟩ := fits.answers ticket answer h
    · exact .inl late
    · cases e with
      | returned r => exact .inr (.inl ⟨r, ended, same⟩)
      | panicked message => exact .inr (.inr ⟨message, ended, same⟩)
  · intro job
    have submit : (run g as).system.submit (.owner s) s job = .error .reentrant := by
      rw [System.submit, if_pos rfl]
    have close : (run g as).system.close (.owner s) s = .error .reentrant := by
      rw [System.close, if_pos rfl]
    refine ⟨submit, close, ?_, ?_⟩
    · simp only [step, Process.submit, submit, ite_self]
    · simp only [step, Process.close, close, ite_self]
  · intro closed t other job
    have refused : ¬ ((run g as).system.control s).accepting = true := ne_true_of_eq_false closed
    have submit : (run g as).system.submit t s job = .error .finalized := by
      rw [System.submit, if_neg other, if_neg refused]
    refine ⟨submit, ?_⟩
    simp only [step, Process.submit, submit, ite_self]
  · intro lt closed started slots enough
    have gone := comes_to_end q lt closed started slots enough
    refine ⟨gone, ((q.play slots).complete ?_).2⟩
    rw [gone]
    rfl

end Process

end GuestBridge.Session
