import GuestBridge.Proofs.Process.Queue

/-!
# Jobs in Every Interleaving

Every step of a process is, for each session, one of the turns that its queue and owner can take
(`turned_step`). So the queue and the history of every session fit each other in every run
(`queued_run`); what a session promises about its jobs is read off there.
-/

namespace GuestBridge.Session

open Bridge

variable {σ J R : Type}

/-! ### Sessions of a system -/

theorem mem_of_lookup {α : Type} {es : List (Nat × α)} {n : Nat} {a : α}
    (h : es.lookup n = some a) : (n, a) ∈ es := by
  obtain ⟨before, after, split, -⟩ := List.lookup_eq_some_iff.mp h
  rw [split]
  exact List.mem_append_right _ List.mem_cons_self

theorem lookup_of_mem {α : Type} {es : List (Nat × α)} {n : Nat} {a : α}
    (nodup : (es.map (·.1)).Nodup) (h : (n, a) ∈ es) : es.lookup n = some a := by
  induction es with
  | nil => cases h
  | cons e es ih =>
      rw [List.map_cons, List.nodup_cons] at nodup
      rcases List.mem_cons.mp h with rfl | h
      · exact List.lookup_cons_self
      · have other : n ≠ e.1 := fun same => nodup.1 (List.mem_map.mpr ⟨_, h, same⟩)
        rw [List.lookup_cons, beq_false_of_ne other]
        exact ih nodup.2 h

namespace System

theorem control_modifyControl (sys : System σ J R) {s : SessionId} (f : Control J R → Control J R)
    (lt : s < sys.controls.length) : (sys.modifyControl s f).control s = f (sys.control s) := by
  simp [control, modifyControl, List.getD_eq_getElem?_getD, lt]

theorem control_modifyControl_ne (sys : System σ J R) {s u : SessionId}
    (f : Control J R → Control J R) (h : s ≠ u) :
    (sys.modifyControl s f).control u = sys.control u := by
  simp [control, modifyControl, List.getD_eq_getElem?_getD, h]

/-- The queue and owner of a session that does not exist. -/
theorem control_outside (sys : System σ J R) {s : SessionId} (h : ¬ s < sys.controls.length) :
    sys.control s = ⟨.standard, false, .gone, [], 0, [], []⟩ := by
  simp [control, List.getD_eq_getElem?_getD, h]

/-- After a step at one session, a session is as before or is the one that changed. -/
theorem control_of_modify {sys sys' : System σ J R} {s : SessionId} {f : Control J R → Control J R}
    (controls : sys'.controls = sys.controls.modify s f) (u : SessionId) :
    (s < sys.controls.length → u ≠ s) ∧ sys'.control u = sys.control u ∨
      u = s ∧ s < sys.controls.length ∧ sys'.control u = f (sys.control s) := by
  have control : sys'.control u = (sys.modifyControl s f).control u := by
    rw [System.control, controls]
    rfl
  rw [control]
  by_cases hu : s = u
  · subst hu
    by_cases lt : s < sys.controls.length
    · exact .inr ⟨rfl, lt, sys.control_modifyControl f lt⟩
    · refine .inl ⟨fun h => absurd h lt, ?_⟩
      rw [control_outside, control_outside _ lt]
      simpa [modifyControl] using lt
  · exact .inl ⟨fun _ => Ne.symm hu, sys.control_modifyControl_ne f hu⟩

/-- After a new session, a session is as before or is the new one. -/
theorem control_of_concat {sys sys' : System σ J R} {c : Control J R}
    (controls : sys'.controls = sys.controls ++ [c]) (u : SessionId) :
    sys'.control u = sys.control u ∨ u = sys.controls.length ∧ sys'.control u = c := by
  by_cases new : u = sys.controls.length
  · subst new
    refine .inr ⟨rfl, ?_⟩
    rw [control, controls]
    simp
  · refine .inl ?_
    by_cases lt : u < sys.controls.length
    · rw [control, control, controls]
      simp [List.getD_eq_getElem?_getD, List.getElem?_append_left lt]
    · rw [control_outside _ lt, control_outside]
      rw [controls, List.length_append, List.length_singleton]
      exact fun h => (Nat.lt_succ_iff_lt_or_eq.mp h).elim lt new

theorem lt_of_accepting {sys : System σ J R} {s : SessionId} (h : sys.isRunning s = true) :
    s < sys.controls.length := by
  by_contra outside
  rw [isRunning, sys.control_outside outside] at h
  cases h

theorem lt_of_wanted {sys : System σ J R} {s : SessionId} {ticket : Nat}
    (h : ticket ∈ (sys.control s).wanted) : s < sys.controls.length := by
  by_contra outside
  rw [sys.control_outside outside] at h
  exact absurd h List.not_mem_nil

theorem lt_of_owner {sys : System σ J R} {s : SessionId} (h : (sys.control s).owner ≠ .gone) :
    s < sys.controls.length := by
  by_contra outside
  rw [sys.control_outside outside] at h
  exact h rfl

end System

namespace Process

/-- What happened to the jobs of a session, in order. -/
def events (p : Process σ J R) (s : SessionId) : List (Event J R) :=
  p.history.filterMap fun (u, e) => if u = s then some e else none

theorem events_record (p : Process σ J R) (s : SessionId) (e : Event J R) :
    (p.record s e).events s = p.events s ++ [e] := by
  simp [record, events]

theorem events_record_ne (p : Process σ J R) {s u : SessionId} (e : Event J R) (h : s ≠ u) :
    (p.record s e).events u = p.events u := by
  simp [record, events, h]

/-! ### Every step is a turn -/

/-- For each session, what happened between two processes is one turn, or the session is new. -/
structure Turned (p p' : Process σ J R) : Prop where
  length : p.system.controls.length ≤ p'.system.controls.length
  each : ∀ u,
    (∃ es, p'.events u = p.events u ++ es ∧ Turn (p.system.control u) es (p'.system.control u)) ∨
    (¬ u < p.system.controls.length ∧ p'.events u = p.events u ∧
      ∃ config, p'.system.control u = ⟨config, true, .starting, [], 0, [], []⟩)

variable {p p' : Process σ J R} {s : SessionId}

/-- A step that leaves queues, owners and history as they are. -/
theorem Turned.stay (controls : p'.system.controls = p.system.controls)
    (history : p'.history = p.history) : p.Turned p' := by
  refine ⟨Nat.le_of_eq (congrArg List.length controls.symm), fun u => ?_⟩
  refine .inl ⟨[], ?_, ?_⟩
  · rw [events, history, List.append_nil, events]
  · have same : p'.system.control u = p.system.control u := by
      rw [System.control, controls, System.control]
    exact same ▸ .stay _

/-- A step at one session that is not recorded. -/
theorem Turned.at {f : Control J R → Control J R}
    (controls : p'.system.controls = p.system.controls.modify s f)
    (history : p'.history = p.history)
    (turn : Turn (p.system.control s) [] (f (p.system.control s))) : p.Turned p' := by
  have length : p'.system.controls.length = p.system.controls.length := by
    rw [controls, List.length_modify]
  refine ⟨Nat.le_of_eq length.symm, fun u => .inl ⟨[], ?_, ?_⟩⟩
  · rw [events, history, List.append_nil, events]
  · rcases System.control_of_modify controls u with ⟨-, same⟩ | ⟨rfl, -, changed⟩
    · exact same ▸ .stay _
    · exact changed ▸ turn

/-- A step at one session that is recorded. -/
theorem Turned.record {f : Control J R → Control J R} {e : Event J R}
    (lt : s < p.system.controls.length)
    (controls : p'.system.controls = p.system.controls.modify s f)
    (history : p'.history = p.history)
    (turn : Turn (p.system.control s) [e] (f (p.system.control s))) : p.Turned (p'.record s e) := by
  have length : p'.system.controls.length = p.system.controls.length := by
    rw [controls, List.length_modify]
  have events (u : SessionId) : p'.events u = p.events u := by
    rw [Process.events, history, Process.events]
  refine ⟨Nat.le_of_eq length.symm, fun u => ?_⟩
  by_cases hu : s = u
  · subst hu
    refine .inl ⟨[e], by rw [events_record, events], ?_⟩
    have changed : p'.system.control s = f (p.system.control s) := by
      rw [System.control, controls]
      exact p.system.control_modifyControl f lt
    exact changed ▸ turn
  · refine .inl ⟨[], by rw [events_record_ne _ _ hu, events, List.append_nil], ?_⟩
    rcases System.control_of_modify controls u with ⟨-, same⟩ | ⟨rfl, -⟩
    · exact same ▸ .stay _
    · exact absurd rfl hu

theorem turned_claim (config : SessionConfig) : p.Turned (p.claim config) := by
  unfold Process.claim System.claim
  split
  · rename_i s system h
    split at h
    · cases h
    · cases h
      have controls : (p.system.opened config).controls = p.system.controls ++ [_] := rfl
      refine ⟨by simp [controls], fun u => ?_⟩
      rcases System.control_of_concat controls u with same | ⟨rfl, new⟩
      · exact .inl ⟨[], (List.append_nil _).symm, same ▸ .stay _⟩
      · exact .inr ⟨Nat.lt_irrefl _, rfl, config, new⟩
  · exact .stay rfl rfl

theorem turned_prepare [GuestState σ] (s : SessionId) : p.Turned (p.prepare s) := by
  unfold Process.prepare
  split
  · rename_i starting
    exact .at (f := fun c => c.prepared (p.system.prepare s).1) rfl rfl (.prepare _ starting _)
  · exact .stay rfl rfl

theorem turned_abort (s : SessionId) : p.Turned (p.act (p.system.abort s)) := by
  unfold System.abort
  split
  · rename_i failed
    exact .at (f := fun c => { c with owner := .gone }) rfl rfl (.abort _ failed)
  · exact .stay rfl rfl

theorem turned_submit (t : Thread) (s : SessionId) (job : J) : p.Turned (p.submit t s job) := by
  unfold Process.submit System.submit
  split
  · rename_i started
    by_cases reentrant : t = .owner s
    · rw [if_pos reentrant]
      exact .stay rfl rfl
    · rw [if_neg reentrant]
      by_cases open_ : (p.system.control s).accepting = true
      · rw [if_pos open_]
        exact .record (System.lt_of_accepting open_) rfl rfl (.accept _ open_ started job)
      · rw [if_neg open_]
        exact .stay rfl rfl
  · exact .stay rfl rfl

theorem turned_close (t : Thread) (s : SessionId) : p.Turned (p.close t s) := by
  unfold Process.close System.close
  split
  · by_cases reentrant : t = .owner s
    · rw [if_pos reentrant]
      exact .stay rfl rfl
    · rw [if_neg reentrant]
      exact .at (f := fun c => { c with accepting := false }) rfl rfl (.close _)
  · exact .stay rfl rfl

theorem turned_closeFromJob (s : SessionId) : p.Turned (p.closeFromJob s) := by
  unfold Process.closeFromJob System.closeFromJob
  split
  · refine .at (s := s) (f := fun c => { c with accepting := false }) ?_ rfl (.close _)
    split <;> rfl
  · exact .stay rfl rfl

theorem turned_receive (s : SessionId) : p.Turned (p.act (p.system.receive s)) := by
  unfold System.receive
  dsimp only
  split
  · rename_i ticket job rest idle queue
    exact .at (f := fun c => { c with owner := .taking ticket job, queue := rest }) rfl rfl
      (.receive _ idle queue)
  · exact .stay rfl rfl

theorem turned_begin (s : SessionId) : p.Turned (p.begin s) := by
  unfold Process.begin System.begin
  split
  · rename_i ticket job job' system taking h
    have owner : (p.system.control s).owner = .taking ticket job := taking
    rw [owner] at h
    cases h
    exact .record (f := fun c => { c with owner := .working ticket job })
      (System.lt_of_owner (by simp [owner])) rfl rfl (.begin _ owner)
  · exact .stay rfl rfl

theorem turned_operate [GuestState σ] (s : SessionId) (op : Operation) :
    p.Turned (p.operate s op) := by
  unfold Process.operate
  split
  · split <;> exact .stay rfl rfl
  · exact .stay rfl rfl

theorem turned_release (t : Thread) (h : Handle) : p.Turned (p.release t h) := by
  unfold Process.release
  split <;> exact .stay rfl rfl

theorem turned_advance (i : Nat) : p.Turned (p.advance i) := by
  unfold Process.advance
  dsimp only
  split
  · exact .stay rfl rfl
  · split
    · split
      · exact .stay rfl rfl
      · split <;> exact .stay rfl rfl
    · exact .stay rfl rfl
    · exact .stay rfl rfl

theorem turned_leave [GuestState σ] (s : SessionId) : p.Turned (p.act (p.system.leave s)) := by
  unfold System.leave
  dsimp only
  split
  · rename_i idle queue closed
    exact .at (f := fun c => { c with owner := .leaving }) rfl rfl (.leave _ idle queue closed)
  · exact .stay rfl rfl

theorem turned_shut (s : SessionId) : p.Turned (p.shut s) := by
  unfold Process.shut System.shut
  dsimp only
  split
  · rename_i system h
    split at h
    · rename_i leaving
      cases h
      exact .at (f := fun c => { c with owner := .shut (p.system.world.closeParked s).1 }) rfl rfl
        (.shut _ leaving _)
    · cases h
  · exact .stay rfl rfl

theorem turned_giveBack (s : SessionId) : p.Turned (p.giveBack s) := by
  unfold Process.giveBack System.giveBack
  split
  · rename_i rest system closed h
    have owner : (p.system.control s).owner = .shut rest := closed
    rw [owner] at h
    cases h
    exact .at (f := fun c => { c with owner := .left }) rfl rfl (.giveBack _ owner)
  · exact .stay rfl rfl

theorem turned_surrender (s : SessionId) : p.Turned (p.act (p.system.surrender s)) := by
  unfold System.surrender
  split
  · rename_i left
    exact .at (f := fun c => { c with owner := .gone }) rfl rfl (.surrender _ left)
  · exact .stay rfl rfl

section

variable [HasHandles R]

theorem turned_finish (s : SessionId) (e : Ending R) : p.Turned (p.finish s e) := by
  unfold Process.finish System.finish
  split
  · split
    · rename_i ticket job unwanted system working h
      have owner : (p.system.control s).owner = .working ticket job := working
      rw [owner] at h
      cases h
      refine .record (System.lt_of_owner (by simp [owner])) rfl rfl ?_
      exact .finish _ owner e
    · exact .stay rfl rfl
  · exact .stay rfl rfl

omit [HasHandles R] in
/-- Looking for a result finds it among those that wait. -/
theorem collect_eq_some {sys sys' : System σ J R} {ticket : Nat} {e : Ending R}
    (h : sys.collect s ticket = some (e, sys')) :
    (sys.control s).results.lookup ticket = some e ∧ sys' = sys.forget s ticket := by
  obtain ⟨e', found, same⟩ := Option.map_eq_some_iff.mp h
  cases same
  exact ⟨found, rfl⟩

theorem turned_collect (q : ∀ e ticket, (ticket, e) ∈ (p.system.control s).results →
    ticket ∈ (p.system.control s).wanted) (ticket : Nat) : p.Turned (p.collect s ticket) := by
  unfold Process.collect
  split
  · rename_i e system h
    obtain ⟨found, rfl⟩ := collect_eq_some h
    have wanted := q e ticket (mem_of_lookup found)
    exact .record (System.lt_of_wanted wanted) rfl rfl
      (.answer _ wanted (.inr ⟨e, mem_of_lookup found, rfl⟩))
  · exact .stay rfl rfl

theorem abandon_system (p : Process σ J R) (s : SessionId) (ticket : Nat) :
    (p.abandon s ticket).system = p.system.forget s ticket := by
  unfold Process.abandon
  split
  · rename_i e system h
    exact (collect_eq_some h).2
  · rfl

theorem abandon_history (p : Process σ J R) (s : SessionId) (ticket : Nat) :
    (p.abandon s ticket).history = p.history := by
  unfold Process.abandon
  split <;> rfl

theorem turned_abandon (s : SessionId) (ticket : Nat) : p.Turned (p.abandon s ticket) :=
  .at (congrArg System.controls (p.abandon_system s ticket)) (p.abandon_history s ticket)
    (.forget _ ticket)

theorem turned_timeOut (s : SessionId) (ticket : Nat) : p.Turned (p.timeOut s ticket) := by
  unfold Process.timeOut
  split
  · rename_i h
    have wanted : ticket ∈ (p.system.control s).wanted := List.contains_iff_mem.mp h
    exact .record (System.lt_of_wanted wanted)
      (congrArg System.controls (p.abandon_system s ticket)) (p.abandon_history s ticket)
      (.answer _ wanted (.inl rfl))
  · exact .stay rfl rfl

variable [GuestState σ]

/-- Every session's queue and owner fit what happened. -/
def Queued (p : Process σ J R) : Prop := ∀ s, Queue (p.system.control s) (p.events s)

/-- **Every step is a turn of each session.** -/
theorem turned_step (q : p.Queued) (a : Action J R) : p.Turned (p.step a) := by
  cases a with
  | claim config => exact turned_claim config
  | prepare s => exact turned_prepare s
  | abort s => exact turned_abort s
  | submit t s job => exact turned_submit t s job
  | close t s => exact turned_close t s
  | closeFromJob s => exact turned_closeFromJob s
  | receive s => exact turned_receive s
  | begin s => exact turned_begin s
  | operate s op => exact turned_operate s op
  | finish s e => exact turned_finish s e
  | collect s ticket => exact turned_collect (fun e t h => (((q s).results t e).mp h).2) ticket
  | timeOut s ticket => exact turned_timeOut s ticket
  | abandon s ticket => exact turned_abandon s ticket
  | release t h => exact turned_release t h
  | advance i => exact turned_advance i
  | leave s => exact turned_leave s
  | shut s => exact turned_shut s
  | giveBack s => exact turned_giveBack s
  | surrender s => exact turned_surrender s
  | clearOutput s => exact .stay rfl rfl

/-! ### The queues of a run -/

omit [HasHandles R] [GuestState σ] in
theorem queued_initial (g : σ) : (initial g : Process σ J R).Queued := fun s => by
  rw [System.control_outside _ (Nat.not_lt_zero s)]
  exact Queue.fresh .standard false ⟨rfl, rfl⟩ (fun _ => rfl) ⟨rfl, rfl, rfl, rfl⟩

omit [HasHandles R] [GuestState σ] in
theorem Queued.turned (q : p.Queued) (t : p.Turned p') : p'.Queued := by
  intro u
  rcases t.each u with ⟨es, history, turn⟩ | ⟨new, history, config, control⟩
  · exact history ▸ (q u).turn turn
  · have before := q u
    rw [System.control_outside _ new] at before
    rw [control, history]
    exact Queue.fresh config true ⟨rfl, rfl⟩ (fun h => nomatch h) (before.blank rfl)

/-- **In every run the queues fit what happened.** -/
theorem queued_run (g : σ) (as : List (Action J R)) : (run g as).Queued :=
  run_induction (queued_initial g) (fun _ a q => q.turned (turned_step q a)) as

end

end Process

end GuestBridge.Session
