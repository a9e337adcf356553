import GuestBridge.Proofs.Process.Machine

/-!
# The Queue of a Session

What happens to the jobs of a session, as an invariant of its queue and its history: the jobs
accepted so far are those begun, the one just taken, and those queued, in this order; those begun are
those ended and the one in work; results wait for those who may still ask.
-/

namespace GuestBridge.Session

open Bridge

variable {σ J R : Type}

/-! ### Reading a history -/

/-- The jobs accepted in a history, in order. -/
def acceptedIn (h : List (Event J R)) : List (Nat × J) :=
  h.filterMap fun
    | .accepted ticket job => some (ticket, job)
    | _ => none

/-- The jobs begun in a history, in order. -/
def begunIn (h : List (Event J R)) : List (Nat × J) :=
  h.filterMap fun
    | .began ticket job => some (ticket, job)
    | _ => none

/-- How jobs ended in a history, in order. -/
def endedIn (h : List (Event J R)) : List (Nat × Ending R) :=
  h.filterMap fun
    | .ended ticket e => some (ticket, e)
    | _ => none

/-- What waits gave in a history, in order. -/
def answersIn (h : List (Event J R)) : List (Nat × Except SessionError R) :=
  h.filterMap fun
    | .answered ticket answer => some (ticket, answer)
    | _ => none

@[simp] theorem acceptedIn_append (h h' : List (Event J R)) :
    acceptedIn (h ++ h') = acceptedIn h ++ acceptedIn h' :=
  List.filterMap_append

@[simp] theorem begunIn_append (h h' : List (Event J R)) :
    begunIn (h ++ h') = begunIn h ++ begunIn h' :=
  List.filterMap_append

@[simp] theorem endedIn_append (h h' : List (Event J R)) :
    endedIn (h ++ h') = endedIn h ++ endedIn h' :=
  List.filterMap_append

@[simp] theorem answersIn_append (h h' : List (Event J R)) :
    answersIn (h ++ h') = answersIn h ++ answersIn h' :=
  List.filterMap_append

@[simp] theorem acceptedIn_singleton (e : Event J R) :
    acceptedIn [e] = match e with
      | .accepted ticket job => [(ticket, job)]
      | _ => [] := by
  cases e <;> rfl

@[simp] theorem begunIn_singleton (e : Event J R) :
    begunIn [e] = match e with
      | .began ticket job => [(ticket, job)]
      | _ => [] := by
  cases e <;> rfl

@[simp] theorem endedIn_singleton (e : Event J R) :
    endedIn [e] = match e with
      | .ended ticket e => [(ticket, e)]
      | _ => [] := by
  cases e <;> rfl

@[simp] theorem answersIn_singleton (e : Event J R) :
    answersIn [e] = match e with
      | .answered ticket answer => [(ticket, answer)]
      | _ => [] := by
  cases e <;> rfl

namespace Owner

/-- The job that has left the queue and not begun. -/
def inTaking : Owner J → List (Nat × J)
  | taking ticket job => [(ticket, job)]
  | _ => []

/-- The job in work. -/
def inWork : Owner J → List (Nat × J)
  | working ticket job => [(ticket, job)]
  | _ => []

/-- Whether an owner takes no more jobs. -/
def isOver : Owner J → Bool
  | failed | leaving | shut _ | left | gone => true
  | starting | idle | taking _ _ | working _ _ => false

end Owner

/-- An owner that takes no more jobs has none. -/
theorem Owner.jobless_of_over {owner : Owner J} (past : owner.isOver = true) :
    owner.inTaking = [] ∧ owner.inWork = [] := by
  cases owner with
  | starting | idle | taking | working => cases past
  | failed | leaving | shut | left | gone => exact ⟨rfl, rfl⟩

/-! ### What can happen -/

/-- What a step can do to the queue and owner of a session, and what it adds to the history. -/
inductive Turn : Control J R → List (Event J R) → Control J R → Prop
  | stay (c : Control J R) : Turn c [] c
  | prepare (c : Control J R) (starting : c.owner = .starting) (reason : Option String) :
      Turn c [] (c.prepared reason)
  | abort (c : Control J R) (failed : c.owner = .failed) : Turn c [] { c with owner := .gone }
  | accept (c : Control J R) (open_ : c.accepting = true) (started : c.owner.hasStarted = true)
      (job : J) :
      Turn c [.accepted c.accepted job] { c with
        queue := c.queue ++ [(c.accepted, job)]
        accepted := c.accepted + 1
        wanted := c.accepted :: c.wanted }
  | close (c : Control J R) : Turn c [] { c with accepting := false }
  | receive (c : Control J R) {ticket : Nat} {job : J} {rest : List (Nat × J)}
      (idle : c.owner = .idle) (queue : c.queue = (ticket, job) :: rest) :
      Turn c [] { c with owner := .taking ticket job, queue := rest }
  | begin (c : Control J R) {ticket : Nat} {job : J} (taking : c.owner = .taking ticket job) :
      Turn c [.began ticket job] { c with owner := .working ticket job }
  | finish (c : Control J R) {ticket : Nat} {job : J} (work : c.owner = .working ticket job)
      (e : Ending R) :
      Turn c [.ended ticket e] { c with
        owner := .idle
        results := if c.wanted.contains ticket then (ticket, e) :: c.results else c.results }
  /-- Nobody asks for the result of a job any more. -/
  | forget (c : Control J R) (ticket : Nat) :
      Turn c [] { c with
        results := c.results.filter (·.1 != ticket)
        wanted := c.wanted.filter (· != ticket) }
  /-- A wait for a job comes back: with its answer or because time ran out. -/
  | answer (c : Control J R) {ticket : Nat} (wanted : ticket ∈ c.wanted)
      {answer : Except SessionError R}
      (own : answer = .error .timedOut ∨ ∃ e, (ticket, e) ∈ c.results ∧ answer = e.answer) :
      Turn c [.answered ticket answer] { c with
        results := c.results.filter (·.1 != ticket)
        wanted := c.wanted.filter (· != ticket) }
  | leave (c : Control J R) (idle : c.owner = .idle) (queue : c.queue = [])
      (closed : c.accepting = false) : Turn c [] { c with owner := .leaving }
  | shut (c : Control J R) (leaving : c.owner = .leaving) (rest : List Guest.Ref) :
      Turn c [] { c with owner := .shut rest }
  | giveBack (c : Control J R) {rest : List Guest.Ref} (shut : c.owner = .shut rest) :
      Turn c [] { c with owner := .left }
  | surrender (c : Control J R) (left : c.owner = .left) : Turn c [] { c with owner := .gone }

/-! ### The invariant -/

/-- A queue and owner that fit what happened. -/
structure Queue (c : Control J R) (h : List (Event J R)) : Prop where
  order : acceptedIn h = begunIn h ++ (c.owner.inTaking ++ c.queue)
  tickets : (acceptedIn h).map (·.1) = List.range c.accepted
  single : (begunIn h).map (·.1) = (endedIn h).map (·.1) ++ c.owner.inWork.map (·.1)
  early : c.owner.hasStarted = false → c.accepted = 0
  late : c.owner.isOver = true → c.queue = [] ∧ c.accepting = false
  wanted : ∀ t ∈ c.wanted, t < c.accepted
  results : ∀ t e, (t, e) ∈ c.results ↔ (t, e) ∈ endedIn h ∧ t ∈ c.wanted
  kept : (c.results.map (·.1)).Nodup
  answers : ∀ t a, (t, a) ∈ answersIn h → t < c.accepted ∧ t ∉ c.wanted ∧
    (a = .error .timedOut ∨ ∃ e, (t, e) ∈ endedIn h ∧ a = e.answer)
  once : ((answersIn h).map (·.1)).Nodup

namespace Queue

variable {c : Control J R} {h : List (Event J R)}

/-- Where no job was accepted nothing happened to jobs. -/
theorem blank (q : Queue c h) (none : c.accepted = 0) :
    acceptedIn h = [] ∧ begunIn h = [] ∧ endedIn h = [] ∧ answersIn h = [] := by
  have accepted : acceptedIn h = [] := by
    have tickets := q.tickets
    rw [none, List.range_zero] at tickets
    exact List.map_eq_nil_iff.mp tickets
  have begun : begunIn h = [] := by
    have order := q.order
    rw [accepted] at order
    exact (List.append_eq_nil_iff.mp order.symm).1
  have ended : endedIn h = [] := by
    have single := q.single
    rw [begun] at single
    exact List.map_eq_nil_iff.mp (List.append_eq_nil_iff.mp single.symm).1
  refine ⟨accepted, begun, ended, List.eq_nil_iff_forall_not_mem.mpr fun (t, a) ht => ?_⟩
  exact absurd (q.answers t a ht).1 (none ▸ Nat.not_lt_zero t)

/-- A session for which nothing was done yet. -/
theorem fresh (config : SessionConfig) (accepting : Bool) {owner : Owner J}
    (jobless : owner.inTaking = [] ∧ owner.inWork = [])
    (past : owner.isOver = true → accepting = false)
    (blank : acceptedIn h = [] ∧ begunIn h = [] ∧ endedIn h = [] ∧ answersIn h = []) :
    Queue (R := R) ⟨config, accepting, owner, [], 0, [], []⟩ h where
  order := by simp [blank, jobless]
  tickets := by simp [blank]
  single := by simp [blank, jobless]
  early _ := rfl
  late h := ⟨rfl, past h⟩
  wanted t ht := absurd ht List.not_mem_nil
  results t e := by simp [blank]
  kept := List.nodup_nil
  answers t a ht := by simp [blank] at ht
  once := by simp [blank]

/-- The tickets of jobs begun are all different. -/
theorem begun_nodup (q : Queue c h) : ((begunIn h).map (·.1)).Nodup := by
  have all : ((acceptedIn h).map (·.1)).Nodup := q.tickets ▸ List.nodup_range
  rw [q.order, List.map_append] at all
  exact (List.nodup_append.mp all).1

theorem begun_lt (q : Queue c h) {ticket : Nat} (begun : ticket ∈ (begunIn h).map (·.1)) :
    ticket < c.accepted := by
  rw [← List.mem_range, ← q.tickets, q.order, List.map_append]
  exact List.mem_append_left _ begun

theorem ended_lt (q : Queue c h) {ticket : Nat} {e : Ending R} (ended : (ticket, e) ∈ endedIn h) :
    ticket < c.accepted := by
  refine q.begun_lt ?_
  rw [q.single]
  exact List.mem_append_left _ (List.mem_map.mpr ⟨_, ended, rfl⟩)

/-- A job in work has not ended. -/
theorem not_ended (q : Queue c h) {ticket : Nat} {job : J} (work : c.owner = .working ticket job) :
    ∀ e, (ticket, e) ∉ endedIn h := by
  intro e there
  have nodup := q.begun_nodup
  rw [q.single, work] at nodup
  have apart := (List.nodup_append.mp nodup).2.2 ticket (List.mem_map.mpr ⟨_, there, rfl⟩) ticket
  exact apart List.mem_cons_self rfl

/-- The owner goes from one phase to another without a job. -/
theorem phase (q : Queue c h) (owner : Owner J) (accepting : Bool)
    (before : c.owner.inTaking = [] ∧ c.owner.inWork = [])
    (after : owner.inTaking = [] ∧ owner.inWork = [])
    (early : owner.hasStarted = false → c.accepted = 0)
    (late : owner.isOver = true → c.queue = [] ∧ accepting = false) :
    Queue { c with owner, accepting } h where
  order := by rw [q.order, before.1, after.1]
  tickets := q.tickets
  single := by rw [q.single, before.2, after.2]
  early := early
  late := late
  wanted := q.wanted
  results := q.results
  kept := q.kept
  answers := q.answers
  once := q.once

/-- An owner that takes no more jobs goes on with its end. -/
theorem ending (q : Queue c h) (owner : Owner J) (past : c.owner.isOver = true)
    (after : owner.inTaking = [] ∧ owner.inWork = [] ∧ owner.hasStarted = true) :
    Queue { c with owner } h := by
  refine q.phase owner c.accepting (Owner.jobless_of_over past) ⟨after.1, after.2.1⟩ (fun h => ?_) fun _ => q.late past
  rw [after.2.2] at h
  cases h

/-- A session is closed. -/
theorem close (q : Queue c h) : Queue { c with accepting := false } h where
  order := q.order
  tickets := q.tickets
  single := q.single
  early := q.early
  late past := ⟨(q.late past).1, rfl⟩
  wanted := q.wanted
  results := q.results
  kept := q.kept
  answers := q.answers
  once := q.once

/-- A job is accepted. -/
theorem accept (q : Queue c h) (job : J) (open_ : c.accepting = true)
    (started : c.owner.hasStarted = true) :
    Queue { c with
      queue := c.queue ++ [(c.accepted, job)]
      accepted := c.accepted + 1
      wanted := c.accepted :: c.wanted } (h ++ [.accepted c.accepted job]) := by
  refine ⟨?_, ?_, ?_, fun h => ?_, fun past => ?_, fun t ht => ?_, fun t e => ?_, q.kept,
    fun t a ht => ?_, ?_⟩
  · simp [q.order]
  · simp [q.tickets, List.range_succ]
  · simpa using q.single
  · exact absurd started (by simp [h])
  · exact absurd open_ (by simp [(q.late past).2])
  · rcases List.mem_cons.mp ht with rfl | ht
    · exact Nat.lt_succ_self _
    · exact Nat.lt_succ_of_lt (q.wanted t ht)
  · rw [q.results, endedIn_append, endedIn_singleton, List.append_nil, List.mem_cons]
    constructor
    · exact fun ⟨ended, wanted⟩ => ⟨ended, .inr wanted⟩
    · rintro ⟨ended, rfl | wanted⟩
      · exact absurd (q.ended_lt ended) (Nat.lt_irrefl _)
      · exact ⟨ended, wanted⟩
  · rw [answersIn_append, answersIn_singleton, List.append_nil] at ht
    obtain ⟨lt, unwanted, answer⟩ := q.answers t a ht
    refine ⟨Nat.lt_succ_of_lt lt, fun there => ?_, by simpa using answer⟩
    rcases List.mem_cons.mp there with rfl | there
    · exact Nat.lt_irrefl _ lt
    · exact unwanted there
  · simpa using q.once

/-- The owner takes the next job from the queue. -/
theorem receive (q : Queue c h) {ticket : Nat} {job : J} {rest : List (Nat × J)}
    (idle : c.owner = .idle) (queue : c.queue = (ticket, job) :: rest) :
    Queue { c with owner := .taking ticket job, queue := rest } h where
  order := by simp [q.order, idle, queue, Owner.inTaking]
  tickets := q.tickets
  single := by simp [q.single, idle, Owner.inWork]
  early h := by simp [Owner.hasStarted] at h
  late h := by simp [Owner.isOver] at h
  wanted := q.wanted
  results := q.results
  kept := q.kept
  answers := q.answers
  once := q.once

/-- The job that was taken begins. -/
theorem begin (q : Queue c h) {ticket : Nat} {job : J} (taking : c.owner = .taking ticket job) :
    Queue { c with owner := .working ticket job } (h ++ [.began ticket job]) where
  order := by simp [q.order, taking, Owner.inTaking]
  tickets := by simpa using q.tickets
  single := by simp [q.single, taking, Owner.inWork]
  early h := by simp [Owner.hasStarted] at h
  late h := by simp [Owner.isOver] at h
  wanted := q.wanted
  results := by simpa using q.results
  kept := q.kept
  answers := by simpa using q.answers
  once := by simpa using q.once

/-- The job in work ends; its result waits if somebody may still ask for it. -/
theorem finish (q : Queue c h) {ticket : Nat} {job : J} (work : c.owner = .working ticket job)
    (e : Ending R) :
    Queue { c with
      owner := .idle
      results := if c.wanted.contains ticket then (ticket, e) :: c.results else c.results }
      (h ++ [.ended ticket e]) where
  order := by simp [q.order, work, Owner.inTaking]
  tickets := by simpa using q.tickets
  single := by simp [q.single, work, Owner.inWork]
  early h := by simp [Owner.hasStarted] at h
  late h := by simp [Owner.isOver] at h
  wanted := q.wanted
  results t x := by
    have others := q.results t x
    simp only [endedIn_append, endedIn_singleton, List.mem_append, List.mem_singleton]
    by_cases asked : c.wanted.contains ticket = true
    · have wanted : ticket ∈ c.wanted := List.contains_iff_mem.mp asked
      rw [if_pos asked, List.mem_cons, others]
      constructor
      · rintro (same | ⟨ended, wanted⟩)
        · cases same
          exact ⟨.inr rfl, wanted⟩
        · exact ⟨.inl ended, wanted⟩
      · rintro ⟨ended | same, wanted⟩
        · exact .inr ⟨ended, wanted⟩
        · exact .inl same
    · rw [if_neg asked, others]
      constructor
      · exact fun ⟨ended, wanted⟩ => ⟨.inl ended, wanted⟩
      · rintro ⟨ended | same, wanted⟩
        · exact ⟨ended, wanted⟩
        · cases same
          exact absurd (List.contains_iff_mem.mpr wanted) asked
  kept := by
    split
    · rw [List.map_cons, List.nodup_cons]
      refine ⟨fun there => ?_, q.kept⟩
      obtain ⟨⟨t, x⟩, hx, rfl⟩ := List.mem_map.mp there
      exact q.not_ended work x ((q.results _ x).mp hx).1
    · exact q.kept
  answers t a ht := by
    rw [answersIn_append, answersIn_singleton, List.append_nil] at ht
    obtain ⟨lt, unwanted, late | ⟨x, ended, rfl⟩⟩ := q.answers t a ht
    · exact ⟨lt, unwanted, .inl late⟩
    · refine ⟨lt, unwanted, .inr ⟨x, ?_, rfl⟩⟩
      rw [endedIn_append]
      exact List.mem_append_left _ ended
  once := by simpa using q.once

/-- Nobody asks for the result of a job any more. -/
theorem forget (q : Queue c h) (ticket : Nat) :
    Queue { c with
      results := c.results.filter (·.1 != ticket)
      wanted := c.wanted.filter (· != ticket) } h where
  order := q.order
  tickets := q.tickets
  single := q.single
  early := q.early
  late := q.late
  wanted t ht := q.wanted t (List.mem_filter.mp ht).1
  results t e := by
    rw [List.mem_filter, List.mem_filter, q.results]
    exact and_assoc
  kept := q.kept.sublist ((List.filter_sublist).map _)
  answers t a ht := by
    obtain ⟨lt, unwanted, own⟩ := q.answers t a ht
    exact ⟨lt, fun there => unwanted (List.mem_filter.mp there).1, own⟩
  once := q.once

/-- A wait for a job comes back: with its answer or because time ran out. -/
theorem answer (q : Queue c h) {ticket : Nat} (wanted : ticket ∈ c.wanted)
    {answer : Except SessionError R}
    (own : answer = .error .timedOut ∨ ∃ e, (ticket, e) ∈ c.results ∧ answer = e.answer) :
    Queue { c with
      results := c.results.filter (·.1 != ticket)
      wanted := c.wanted.filter (· != ticket) } (h ++ [.answered ticket answer]) := by
  have forgotten := q.forget ticket
  refine ⟨?_, ?_, ?_, q.early, q.late, forgotten.wanted, ?_, forgotten.kept, fun t a ht => ?_, ?_⟩
  · simpa using q.order
  · simpa using q.tickets
  · simpa using q.single
  · simpa using forgotten.results
  · rw [answersIn_append, answersIn_singleton, List.mem_append, List.mem_singleton] at ht
    rw [endedIn_append, endedIn_singleton, List.append_nil]
    rcases ht with ht | same
    · exact forgotten.answers t a ht
    · cases same
      refine ⟨q.wanted ticket wanted, by simp, own.imp_right fun ⟨e, there, same⟩ => ?_⟩
      exact ⟨e, ((q.results ticket e).mp there).1, same⟩
  · rw [answersIn_append, answersIn_singleton, List.map_append, List.nodup_append]
    refine ⟨q.once, List.nodup_cons.mpr ⟨List.not_mem_nil, List.nodup_nil⟩, fun t ht u hu same => ?_⟩
    obtain ⟨⟨t, a⟩, ha, rfl⟩ := List.mem_map.mp ht
    cases List.mem_singleton.mp hu
    cases same
    exact (q.answers _ a ha).2.1 wanted

/-- Before a session is handed out it has no jobs. -/
theorem queue_eq_nil (q : Queue c h) (new : c.owner.hasStarted = false) : c.queue = [] := by
  have order := q.order
  rw [(q.blank (q.early new)).1] at order
  exact (List.append_eq_nil_iff.mp (List.append_eq_nil_iff.mp order.symm).2).2

/-- **Whatever happens, the queue and the history fit each other.** -/
theorem turn {c' : Control J R} {es : List (Event J R)} (q : Queue c h) (t : Turn c es c') :
    Queue c' (h ++ es) := by
  cases t with
  | stay => exact (List.append_nil h).symm ▸ q
  | prepare starting reason =>
      rw [List.append_nil]
      have new : c.owner.hasStarted = false := by rw [starting]; rfl
      have jobless : c.owner.inTaking = [] ∧ c.owner.inWork = [] := by
        rw [starting]
        exact ⟨rfl, rfl⟩
      cases reason with
      | none => exact q.phase .idle _ jobless ⟨rfl, rfl⟩ (fun h => nomatch h) fun h => nomatch h
      | some message =>
          exact q.phase .failed false jobless ⟨rfl, rfl⟩ (fun _ => q.early new) fun _ =>
            ⟨q.queue_eq_nil new, rfl⟩
  | abort failed =>
      rw [List.append_nil]
      exact q.ending .gone (by rw [failed]; rfl) ⟨rfl, rfl, rfl⟩
  | accept open_ started job => exact q.accept job open_ started
  | close => exact (List.append_nil h).symm ▸ q.close
  | receive idle queue => exact (List.append_nil h).symm ▸ q.receive idle queue
  | begin taking => exact q.begin taking
  | finish work e => exact q.finish work e
  | forget ticket => exact (List.append_nil h).symm ▸ q.forget ticket
  | answer wanted own => exact q.answer wanted own
  | leave idle queue closed =>
      rw [List.append_nil]
      refine q.phase .leaving _ ?_ ⟨rfl, rfl⟩ (fun h => nomatch h) fun _ => ⟨queue, closed⟩
      rw [idle]
      exact ⟨rfl, rfl⟩
  | shut leaving rest =>
      rw [List.append_nil]
      exact q.ending (.shut rest) (by rw [leaving]; rfl) ⟨rfl, rfl, rfl⟩
  | giveBack shut =>
      rw [List.append_nil]
      exact q.ending .left (by rw [shut]; rfl) ⟨rfl, rfl, rfl⟩
  | surrender left =>
      rw [List.append_nil]
      exact q.ending .gone (by rw [left]; rfl) ⟨rfl, rfl, rfl⟩

end Queue

end GuestBridge.Session
