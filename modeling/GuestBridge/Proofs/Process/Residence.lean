import GuestBridge.Proofs.Process.Desk

/-!
# What Sessions Live On

From the moment at which its owner has entered the guest until it leaves it, a session has what it
lives on, and no job changes that apart from the modules. This is followed through every step of a
desk, together with what is known of its process: the books, the queues and the phases of owners.

## Main results

* `sound_run` — in every run a session whose owner is in the guest has what it lives on.
-/

namespace GuestBridge.Bridge

variable {σ : Type} [GuestState σ]

/-- Entering the guest is for one session. -/
theorem World.base_enter_ne {s u : SessionId} (config : SessionConfig) (w : World σ) (h : u ≠ s) :
    (enterGuest s config w).2.base u = w.base u :=
  congrArg (Option.map Runtime.base) ((steady_enter config w).runtime u h)

/-- Leaving the guest is for one session. -/
theorem World.base_leave_ne {s u : SessionId} (w : World σ) (h : u ≠ s) :
    (leaveGuest s w).2.base u = w.base u :=
  congrArg (Option.map Runtime.base) ((steady_leave w).runtime u h)

/-- A session that has entered the guest lives on what the start made. -/
theorem World.base_enter {s : SessionId} (config : SessionConfig) (w : World σ)
    (known : s < w.sessions.length) (entered : (enterGuest s config w).1 = none) :
    ∃ rt, ((startRuntime s config).run w).1 = .ok rt ∧
      (enterGuest s config w).2.base s = some rt.base := by
  have asked := asks_startRuntime s config w
  rw [enterGuest, bind_apply] at entered ⊢
  cases hr : ((startRuntime s config).run w).1 with
  | ok rt =>
      refine ⟨rt, rfl, ?_⟩
      have lt : s < (rt.refs.foldl World.hold ((startRuntime s config).run w).2).sessions.length := by
        rw [World.sessions_holdAll, asked.length]
        exact known
      change World.base (World.modifySession _ s _) s = _
      rw [World.base, World.session_modifySession _ _ _ lt]
      rfl
  | error e =>
      rw [hr] at entered
      cases e with
      | failed e => cases entered
      | panicked message => cases entered

end GuestBridge.Bridge

namespace GuestBridge.Session

open Bridge

variable {σ J R : Type}

namespace Process

variable [HasHandles R] {p : Process σ J R}

/-! ### A call that gives the claim back itself -/

theorem Booked.withdraw (b : p.Booked) (s : SessionId) :
    (p.act (p.system.withdraw s)).Booked := by
  unfold System.withdraw
  split
  · rename_i starting
    refine b.quiet (f := fun c => { c with owner := .gone, accepting := false }) rfl ⟨rfl, rfl, rfl⟩
      rfl rfl rfl ?_ fun h => nomatch h
    rw [starting]
    rfl
  · exact b

omit [HasHandles R] in
/-- A step at one session to which nothing happens. -/
theorem Queued.at {p' : Process σ J R} {s : SessionId} {f : Control J R → Control J R} (q : p.Queued)
    (controls : p'.system.controls = p.system.controls.modify s f) (history : p'.history = p.history)
    (own : Queue (f (p.system.control s)) (p.events s)) : p'.Queued := by
  intro u
  have events : p'.events u = p.events u := by rw [Process.events, history, Process.events]
  rw [events]
  rcases System.control_of_modify controls u with ⟨-, same⟩ | ⟨rfl, -, changed⟩
  · exact same ▸ q u
  · exact changed ▸ own

omit [HasHandles R] in
theorem Queued.withdraw (q : p.Queued) (s : SessionId) :
    (p.act (p.system.withdraw s)).Queued := by
  unfold System.withdraw
  split
  · rename_i starting
    have before := q s
    have jobless : (p.system.control s).owner.inTaking = [] ∧
        (p.system.control s).owner.inWork = [] := by
      rw [starting]
      exact ⟨rfl, rfl⟩
    have none : (p.system.control s).accepted = 0 := before.early (by rw [starting]; rfl)
    have empty : (p.system.control s).queue = [] := by
      have order := before.order
      rw [(before.blank none).1] at order
      exact (List.append_eq_nil_iff.mp (List.append_eq_nil_iff.mp order.symm).2).2
    refine q.at (s := s) (f := fun c => { c with owner := .gone, accepting := false }) rfl rfl ?_
    exact before.phase .gone false jobless ⟨rfl, rfl⟩ (fun h => nomatch h) fun _ => ⟨empty, rfl⟩
  · exact q

theorem Phased.withdraw (ph : p.Phased) (s : SessionId) :
    (p.act (p.system.withdraw s)).Phased := by
  cases starting : (p.system.control s).owner with
  | starting =>
      have system : p.system.withdraw s = some ({ p.system with claimed := false }.modifyControl s
          fun c => { c with owner := .gone, accepting := false }) := by
        rw [System.withdraw, starting]
      have controls : (p.act (p.system.withdraw s)).system.controls = p.system.controls.modify s
          fun c => { c with owner := .gone, accepting := false } := by
        rw [system]
        rfl
      have world : (p.act (p.system.withdraw s)).system.world = p.system.world := by
        rw [system]
        rfl
      have kept {u : SessionId} (h : p.served u) : (p.act (p.system.withdraw s)).served u := by
        have other : u ≠ s := by
          rintro rfl
          have started := h.1
          rw [owner, starting] at started
          cases started
        rw [served, owner_others controls u other, isShut, world]
        exact h
      refine ⟨fun u hu => ?_, fun h hh => kept (ph.handles h ?_), fun r hr =>
        kept (ph.releases r hr)⟩
      · by_cases same : u = s
        · subst same
          rw [owner_own (o := .gone) (System.lt_of_owner (by simp [starting])) controls rfl] at hu
          cases hu
        · rw [owner_others controls u same] at hu
          rw [isShut, world]
          exact ph.shut u hu
      · rwa [existing_modify controls rfl rfl] at hh
  | _ =>
      rw [System.withdraw, starting]
      exact ph

/-! ### What sessions live on -/

/-- A session whose owner is in the guest has what it lives on. -/
def Housed (p : Process σ J R) : Prop :=
  ∀ s, p.phase s = .inside → (p.system.world.base s).isSome = true

variable {p' : Process σ J R} {s : SessionId}

omit [HasHandles R] in
theorem Housed.same (h : p.Housed) (phase : ∀ u, p'.phase u = p.phase u)
    (base : ∀ u, p'.system.world.base u = p.system.world.base u) : p'.Housed := by
  intro u hu
  rw [base]
  exact h u (phase u ▸ hu)

omit [HasHandles R] in
/-- A step at one session. -/
theorem Housed.at {f : Control J R → Control J R} (h : p.Housed)
    (controls : p'.system.controls = p.system.controls.modify s f)
    (others : ∀ u, u ≠ s → p'.system.world.base u = p.system.world.base u)
    (own : (f (p.system.control s)).owner.phase = .inside →
      (p'.system.world.base s).isSome = true) : p'.Housed := by
  intro u hu
  rw [phase_of_modify controls] at hu
  by_cases here : u = s ∧ s < p.system.controls.length
  · rw [if_pos here] at hu
    exact here.1 ▸ own hu
  · rw [if_neg here] at hu
    have other : u ≠ s := by
      rintro rfl
      refine here ⟨rfl, System.lt_of_owner fun gone => ?_⟩
      rw [phase, owner, gone] at hu
      cases hu
    rw [others u other]
    exact h u hu

omit [HasHandles R] in
/-- An owner that gives the claim back is in the guest no more. -/
theorem Housed.givesBack {before : Phase} (h : p.Housed) (gives : p.GivesBack p' s before) :
    p'.Housed := by
  obtain ⟨f, gone, controls⟩ := gives.controls
  refine h.at controls (fun u _ => by rw [gives.world]) fun inside => ?_
  rw [(gone _).1] at inside
  cases inside

omit [HasHandles R] in
theorem Housed.inner [GuestState σ] {a : Action J R} (h : p.Housed) (inner : p.Inner a p') :
    p'.Housed := by
  cases inner with
  | aside aside => exact h.same aside.phase aside.base
  | operates s ticket job op action working system =>
      have moves := (op.turns_run : Turns (σ := σ) ⟨s⟩ op.used (op.run ⟨s⟩) id) p.system.world []
      refine h.same (fun u => ?_) fun u => ?_
      · rw [phase, owner, system]
        rfl
      · rw [system]
        exact moves.base u
  | leaves s idle queue closed system =>
      refine h.at (s := s) (congrArg System.controls system) (fun u hu => ?_) fun inside => by cases inside
      rw [system]
      exact World.base_leave_ne _ hu

end Process

namespace Desk

variable [GuestState σ] [HasHandles R] {d d' : Desk σ J R} {m : Move J R}

/-- What is known of the process of a desk. -/
structure Sound (d : Desk σ J R) : Prop where
  booked : d.process.Booked
  queued : d.process.Queued
  phased : d.process.Phased
  housed : d.process.Housed

/-- The process takes a step, or a call gives the claim back itself. -/
theorem Effect.process (e : d.Effect m d') : d'.process = d.process ∨
    (∃ a, d'.process = d.process.step a) ∨
    ∃ s, d'.process = d.process.act (d.process.system.withdraw s) := by
  cases e with
  | rests process => exact .inl process
  | inner a move inner process => exact .inr (.inl ⟨a, process⟩)
  | opens config free process =>
      refine .inr (.inl ⟨.claim config, process.trans ?_⟩)
      simp [Process.step, Process.claim, System.claim, free]
  | proceeds s l l' there next process => exact .inl process
  | enters s there starting process => exact .inr (.inl ⟨.prepare s, process⟩)
  | withdraws s reason there starting process => exact .inr (.inr ⟨s, process⟩)
  | surrenders s last =>
      rcases last with ⟨-, process⟩ | ⟨-, process⟩
      · exact .inr (.inl ⟨.abort s, process⟩)
      · exact .inr (.inl ⟨.surrender s, process⟩)

theorem Effect.housed (e : d.Effect m d') (b : d.process.Booked) (h : d.process.Housed) :
    d'.process.Housed := by
  cases e with
  | rests process launches surrendered => exact process ▸ h
  | inner a move inner process launches surrendered => exact h.inner inner
  | opens config free process launches surrendered =>
      intro u hu
      have controls : d'.process.system.controls =
          d.process.system.controls ++ [⟨config, true, .starting, [], 0, [], []⟩] := by
        rw [process]
        rfl
      have base : d'.process.system.world.base u = d.process.system.world.base u := by
        rw [process]
        exact congrArg (fun st => st.runtime.map Runtime.base)
          (d.process.system.world.session_concat u)
      rw [Process.phase, Process.owner] at hu
      rcases System.control_of_concat controls u with old | ⟨-, new⟩
      · rw [old] at hu
        exact base ▸ h u hu
      · rw [new] at hu
        cases hu
  | proceeds s l l' there next process launches surrendered => exact process ▸ h
  | enters s there starting process launches surrendered =>
      have system : d'.process.system = (d.process.system.prepare s).2 := by
        rw [process, Process.prepare, starting]
      have known : s < d.process.system.world.sessions.length := by
        rw [b.sessions]
        exact System.lt_of_owner fun gone => by
          rw [Process.owner, gone] at starting
          cases starting
      refine h.at (s := s) (f := fun c => c.prepared (d.process.system.prepare s).1)
        (congrArg System.controls system) (fun u hu => ?_) fun inside => ?_
      · rw [system]
        exact World.base_enter_ne _ _ hu
      · rw [phase_prepared] at inside
        have entered : (d.process.system.prepare s).1 = none := by
          cases reason : (d.process.system.prepare s).1 with
          | none => rfl
          | some message =>
              rw [reason] at inside
              cases inside
        obtain ⟨rt, -, base⟩ := World.base_enter _ _ known entered
        rw [system]
        exact Option.isSome_of_eq_some base
  | withdraws s reason there starting process launches surrendered =>
      exact h.givesBack (process ▸ Process.givesBack_withdraw starting)
  | surrenders s last launches surrendered =>
      obtain ⟨before, -, -, gives⟩ := Process.givesBack_last last
      exact h.givesBack gives

/-- **Every step keeps what is known of the process.** -/
theorem Sound.step (sound : d.Sound) (e : d.Effect m d') : d'.Sound := by
  have housed := e.housed sound.booked sound.housed
  obtain ⟨b, q, ph, -⟩ := sound
  rcases e.process with same | ⟨a, step⟩ | ⟨s, withdraw⟩
  · exact ⟨same ▸ b, same ▸ q, same ▸ ph, housed⟩
  · exact ⟨step ▸ Process.booked_step b q a, step ▸ q.turned (Process.turned_step q a),
      step ▸ Process.phased_step b q ph a, housed⟩
  · exact ⟨withdraw ▸ b.withdraw s, withdraw ▸ q.withdraw s, withdraw ▸ ph.withdraw s, housed⟩

omit [GuestState σ] in
theorem sound_initial (g : σ) : (initial g : Desk σ J R).Sound where
  booked := Process.booked_initial g
  queued := Process.queued_initial g
  phased := Process.phased_initial g
  housed s inside := by
    have outside : ¬ s < (Process.initial g : Process σ J R).system.controls.length :=
      Nat.not_lt_zero s
    change Process.phase (Process.initial g) s = .inside at inside
    rw [Process.phase, Process.owner, System.control_outside _ outside] at inside
    cases inside

/-- **In every run** the books, the queues and the phases are in order, and a session whose owner is
in the guest has what it lives on. -/
theorem sound_run (g : σ) (ms : List (Move J R)) : (run g ms).Sound :=
  run_induction (sound_initial g) (fun d m sound => sound.step (d.effect_step m)) ms

end Desk

end GuestBridge.Session
