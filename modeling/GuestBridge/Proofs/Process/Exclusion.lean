import Mathlib.Data.List.Induction
import GuestBridge.Proofs.Requests.Stream
import GuestBridge.Proofs.Process.Phases
import GuestBridge.Proofs.Process.Residence

/-!
# One Owner at a Time

At most one session has the claim on the guest. `Exclusive` says what this means for the calls that
start sessions, for their owners, and for the order in which things happen at the end of a session;
`exclusive_run` says that it holds in every run, whatever the guest answers.

An owner whose session was handed out gives the claim back after it has left the guest and closed its
list of parked references. Leaving the guest means that the globals are emptied and that the output
stream is put back, or that putting it back was tried and the failure noted (`Departs`): an owner does
not keep the claim because the guest no longer lets it load a module.

## Main results

* `left_run` — an owner that has left the guest did so in one step, with nothing left to do.
* `exclusive_run` — the claim is with one session, from one step to another, in every run.
-/

namespace GuestBridge.Session

open Bridge

variable {σ J R : Type}

namespace Desk

/-- The call that starts a session is between taking the claim and making the thread of the owner. -/
def calling (d : Desk σ J R) (s : SessionId) : Prop :=
  ∃ l, d.launches[s]? = some l ∧ l.isCalling = true

/-- The owner of a session has its thread, and has not given the claim back. -/
def holds (d : Desk σ J R) (s : SessionId) : Prop :=
  ∃ l, d.launches[s]? = some l ∧ l.isCalling = false ∧ d.phase s ≠ .gone

/-- The owner of a session has said that it is in the guest. -/
def succeeded (d : Desk σ J R) (s : SessionId) : Prop :=
  ∃ l, d.launches[s]? = some l ∧ l.succeeded = true

/-- The owner of a session has said why it could not enter the guest. -/
def failed (d : Desk σ J R) (s : SessionId) : Prop :=
  ∃ reason, d.launches[s]? = some (.heard (some reason)) ∨
    d.launches[s]? = some (.returned (some reason))

/-- The owner of a session has been in the guest and has left it. -/
def hasLeft (d : Desk σ J R) (s : SessionId) : Prop :=
  d.phase s = .outside ∨ d.succeeded s ∧ d.phase s = .gone

/-- Whether a step is one of the owner of a session. -/
def takes (d : Desk σ J R) (s : SessionId) : Action J R → Prop
  | .prepare u | .abort u | .closeFromJob u | .receive u | .begin u | .operate u _ | .finish u _
  | .leave u | .shut u | .giveBack u | .surrender u => u = s
  | a => d.process.threadOf a = some (.owner s)

variable {d d' : Desk σ J R} {m : Move J R} {s : SessionId}

/-! ### Calls -/

/-- Who has the claim: a call, or the owner that it made a thread for. -/
theorem Tended.alive (t : d.Tended) : d.phase s ≠ .gone ↔ d.calling s ∨ d.holds s := by
  constructor
  · intro there
    have lt : s < d.launches.length := t.length ▸ lt_of_phase there
    cases calling : d.launches[s].isCalling with
    | true => exact .inl ⟨_, List.getElem?_eq_getElem lt, calling⟩
    | false => exact .inr ⟨_, List.getElem?_eq_getElem lt, calling, there⟩
  · rintro (⟨l, there, calling⟩ | ⟨l, there, -, alive⟩)
    · rw [Launch.starting_of_isCalling calling (t.fits s l there)]
      simp
    · exact alive

/-- A call that has not made a thread has no owner in the guest. -/
theorem not_holds_of_calling (calling : d.calling s) : ¬ d.holds s := by
  rintro ⟨l, there, thread, -⟩
  obtain ⟨l', there', calling⟩ := calling
  rw [there] at there'
  cases there'
  simp [thread] at calling

/-- An owner that is gone has said how entering the guest went, or never had a thread. -/
theorem Tended.said (t : d.Tended) (known : s < d.launches.length) (gone : d.phase s = .gone) :
    d.succeeded s ∨ d.failed s := by
  have there := List.getElem?_eq_getElem known
  have fit := t.fits s _ there
  rw [gone] at fit
  generalize d.launches[s] = l at there fit
  rcases l with _ | _ | _ | (_ | reason) | (_ | reason)
  · simp [Launch.phases] at fit
  · simp [Launch.phases] at fit
  · simp [Launch.phases] at fit
  · exact .inl ⟨_, there, rfl⟩
  · exact .inr ⟨reason, .inl there⟩
  · exact .inl ⟨_, there, rfl⟩
  · exact .inr ⟨reason, .inr there⟩

theorem answers_surrender (system : Option (System σ J R)) :
    (d.surrender s system).answers = d.answers := by
  unfold Desk.surrender
  split <;> rfl

section

variable [GuestState σ] [HasHandles R]

/-- Threads of owners answer no calls. -/
theorem answers_act (a : Action J R) : (d.act a).answers = d.answers := by
  cases a with
  | claim config => rfl
  | prepare s =>
      change (d.prepare s).answers = _
      unfold Desk.prepare
      split <;> rfl
  | abort s => exact answers_surrender _
  | surrender s => exact answers_surrender _
  | _ =>
      change (d.inner _).answers = _
      unfold Desk.inner
      split <;> rfl

/-- A call comes back without having been refused. -/
theorem answers_step (m : Move J R) (other : ∀ config, m ≠ .call config) :
    (d.step m).answers ≠ d.answers ++ [.error .alreadyRunning] := by
  have same : d.answers ≠ d.answers ++ [.error .alreadyRunning] := fun h => by simp at h
  cases m with
  | call config => exact absurd rfl (other config)
  | spawn s =>
      change (d.spawn s).answers ≠ _
      unfold Desk.spawn
      split <;> exact same
  | failSpawn s reason =>
      change (d.failSpawn s reason).answers ≠ _
      unfold Desk.failSpawn
      split <;> exact same
  | withdraw s =>
      change (d.withdraw s).answers ≠ _
      unfold Desk.withdraw
      split
      · exact fun h => by simpa using List.append_cancel_left h
      · exact same
  | act a =>
      change (d.act a).answers ≠ _
      rw [answers_act]
      exact same
  | comeBack s =>
      change (d.comeBack s).answers ≠ _
      unfold Desk.comeBack
      split
      · exact fun h => by simpa using List.append_cancel_left h
      · exact fun h => by simpa using List.append_cancel_left h
      · exact same

/-- A call is refused exactly if it comes in while the claim is taken. -/
theorem refused_iff (m : Move J R) :
    (d.step m).answers = d.answers ++ [.error .alreadyRunning] ↔
      ∃ config, m = .call config ∧ d.claimed = true := by
  by_cases call : ∃ config, m = .call config
  · obtain ⟨config, rfl⟩ := call
    change (d.call config).answers = _ ↔ _
    unfold Desk.call System.claim Desk.claimed
    cases d.process.system.claimed with
    | true => exact iff_of_true rfl ⟨config, rfl, rfl⟩
    | false => exact iff_of_false (fun h => by simp at h) fun ⟨_, _, h⟩ => nomatch h
  · refine iff_of_false (answers_step m fun config h => call ⟨config, h⟩) ?_
    rintro ⟨config, rfl, -⟩
    exact call ⟨config, rfl⟩

end

/-- A call that comes in while the claim is free gets it. -/
theorem admitted (config : SessionConfig) (free : d.claimed = false) :
    (d.call config).claimed = true ∧ (d.call config).launches = d.launches ++ [.claimed] ∧
      (d.call config).answers = d.answers := by
  have open_ : d.process.system.claimed = false := free
  unfold Desk.call System.claim
  rw [open_]
  exact ⟨rfl, rfl, rfl⟩

/-- Its call has yet to make the thread of the owner. -/
theorem calling_call (config : SessionConfig) (free : d.claimed = false) :
    (d.call config).calling d.launches.length := by
  obtain ⟨-, launches, -⟩ := admitted config free
  refine ⟨.claimed, ?_, rfl⟩
  rw [launches]
  exact List.getElem?_concat_length

/-- A start in one go is refused exactly if the claim is taken. -/
theorem start_refused [GuestState σ] (config : SessionConfig) :
    (d.process.system.start config).1 = .error .alreadyRunning ↔ d.claimed = true := by
  unfold System.start System.claim Desk.claimed
  cases d.process.system.claimed with
  | true => exact iff_of_true rfl rfl
  | false =>
      refine iff_of_false (fun h => ?_) Bool.false_ne_true
      simp only [Bool.false_eq_true, if_false] at h
      split at h <;> cases h

/-! ### The end of a session -/

section

variable [GuestState σ]

/-- An owner comes to its end after a call that could not make its thread, after a failure, or with
all done. -/
theorem Shift.ends (shift : d.Shift d') (there : d.phase s ≠ .gone) (gone : d'.phase s = .gone) :
    (∃ reason, d.launches[s]? = some (.unspawned reason)) ∨ d.phase s = .failed ∨
      d.phase s = .outside ∧ d.process.owner s = .left := by
  have elsewhere {u : SessionId} {before after : Phase} (passes : d.Passes d' u before after)
      (alive : after ≠ .gone) : False := by
    by_cases same : s = u
    · exact alive (by rw [← passes.there, ← same, gone])
    · exact there (by rw [← passes.others s same, gone])
  cases shift with
  | stays phase => exact absurd (phase s ▸ gone) there
  | proceeds u l l' known next phase => exact absurd (phase s ▸ gone) there
  | enters u reason known passes => exact (elsewhere passes (by cases reason <;> simp)).elim
  | leaves u leaves passes => exact (elsewhere passes (by simp)).elim
  | withdraws u reason known passes =>
      by_cases same : s = u
      · exact .inl ⟨reason, same ▸ known⟩
      · exact absurd (passes.others s same ▸ gone) there
  | surrenders u before last own passes =>
      by_cases same : s = u
      · subst same
        rcases last with rfl | rfl
        · exact .inr (.inl passes.here)
        · exact .inr (.inr ⟨passes.here, own rfl⟩)
      · exact absurd (passes.others s same ▸ gone) there
  | opens free taken new others =>
      by_cases same : s = d.process.system.controls.length
      · rw [same, new] at gone
        cases gone
      · exact absurd (others s same ▸ gone) there

/-- An owner says once that it is in the guest. -/
theorem Shift.succeeded (shift : d.Shift d') (said : d'.succeeded s) :
    d.succeeded s ∨ d'.phase s = .inside := by
  obtain ⟨l, there, succeeded⟩ := said
  have unchanged (launches : d'.launches = d.launches) : d.succeeded s :=
    ⟨l, launches ▸ there, succeeded⟩
  have changed {u : SessionId} {l₁ : Launch} (launches : d'.launches = d.launches.set u l₁) :
      s ≠ u ∧ d.succeeded s ∨ s = u ∧ u < d.launches.length ∧ l₁.succeeded = true := by
    rw [launches] at there
    by_cases same : s = u
    · subst same
      rw [List.getElem?_set_self'] at there
      obtain ⟨l₀, old, rfl⟩ := Option.map_eq_some_iff.mp there
      exact .inr ⟨rfl, (List.getElem?_eq_some_iff.mp old).1, succeeded⟩
    · rw [List.getElem?_set_ne (Ne.symm same)] at there
      exact .inl ⟨same, l, there, succeeded⟩
  cases shift with
  | stays phase claimed launches => exact .inl (unchanged launches)
  | proceeds u l₀ l₁ known next phase claimed launches =>
      rcases changed launches with ⟨-, before⟩ | ⟨rfl, -, after⟩
      · exact .inl before
      · exact .inl ⟨l₀, known, next.succeeded ▸ after⟩
  | enters u reason known passes launches =>
      rcases changed launches with ⟨-, before⟩ | ⟨rfl, -, after⟩
      · exact .inl before
      · cases reason with
        | none => exact .inr passes.there
        | some reason => cases after
  | leaves u leaves passes launches => exact .inl (unchanged launches)
  | withdraws u reason known passes launches =>
      rcases changed launches with ⟨-, before⟩ | ⟨rfl, -, after⟩
      · exact .inl before
      · cases after
  | surrenders u before last own passes launches => exact .inl (unchanged launches)
  | opens free taken new others launches =>
      rw [launches, List.getElem?_append] at there
      split at there
      · exact .inl ⟨l, there, succeeded⟩
      · rw [List.getElem?_singleton] at there
        split at there
        · cases there
          cases succeeded
        · cases there

/-- The end of an owner that has been in the guest. -/
theorem Shift.over (shift : d.Shift d') (t : d.Tended) (said : d'.succeeded s)
    (gone : d'.phase s = .gone) :
    d.succeeded s ∧ (d.phase s = .gone ∨ d.phase s = .outside ∧ d.process.owner s = .left) := by
  rcases shift.succeeded said with succeeded | inside
  · refine ⟨succeeded, ?_⟩
    by_cases before : d.phase s = .gone
    · exact .inl before
    obtain ⟨l, there, said⟩ := succeeded
    rcases shift.ends before gone with ⟨reason, unspawned⟩ | failed | left
    · rw [there] at unspawned
      cases unspawned
      cases said
    · have fit := t.fits s l there
      rw [failed] at fit
      rw [Launch.not_succeeded fit] at said
      cases said
    · exact .inr left
  · rw [inside] at gone
    cases gone

/-- An owner that is out of the guest was so before, or leaves it now. -/
theorem Shift.goesOut (shift : d.Shift d') (out : d'.phase s = .outside) :
    d.phase s = .outside ∨ d.Leaves d' s := by
  have moved {u : SessionId} {before after : Phase} (passes : d.Passes d' u before after)
      (other : after ≠ .outside) : d.phase s = .outside :=
    (passes.unmoved (out ▸ other)).trans out
  cases shift with
  | stays phase => exact .inl (phase s ▸ out)
  | proceeds u l l' known next phase => exact .inl (phase s ▸ out)
  | enters u reason known passes => exact .inl (moved passes (by cases reason <;> simp))
  | leaves u leaves passes =>
      by_cases same : s = u
      · exact .inr (same ▸ leaves)
      · exact .inl (passes.others s same ▸ out)
  | withdraws u reason known passes => exact .inl (moved passes (by simp))
  | surrenders u before last own passes => exact .inl (moved passes (by simp))
  | opens free taken new others =>
      by_cases same : s = d.process.system.controls.length
      · rw [same, new] at out
        cases out
      · exact .inl (others s same ▸ out)

/-- An owner that has left the guest had done so before, or does so now. -/
theorem Shift.hasLeft (shift : d.Shift d') (t : d.Tended) (left : d'.hasLeft s) :
    d.hasLeft s ∨ d'.phase s = .outside ∧ d.Leaves d' s := by
  rcases left with out | ⟨said, gone⟩
  · exact (shift.goesOut out).imp .inl fun leaves => ⟨out, leaves⟩
  · obtain ⟨succeeded, gone | out⟩ := shift.over t said gone
    · exact .inl (.inr ⟨succeeded, gone⟩)
    · exact .inl (.inl out.1)

variable [HasHandles R]

/-- A list of parked references that is closed stays so. -/
theorem Effect.isShut (e : d.Effect m d') (sound : d.Sound) (shut : d.process.isShut s) :
    d'.process.isShut s := by
  rcases e.process with same | ⟨a, step⟩ | ⟨u, withdraw⟩
  · exact same ▸ shut
  · rw [step]
    exact (Process.flow_step sound.booked sound.queued a).stays shut
  · rw [withdraw]
    unfold System.withdraw
    split <;> exact shut

/-- What the claim, the calls and the process of a desk keep. -/
structure Orderly (d : Desk σ J R) : Prop where
  sole : d.Sole
  tended : d.Tended
  sound : d.Sound
  /-- An owner that has been in the guest and is gone has closed its list. -/
  sealed : ∀ s, d.succeeded s → d.phase s = .gone → d.process.isShut s

/-- **Every step keeps order.** -/
theorem Orderly.step (o : d.Orderly) (e : d.Effect m d') : d'.Orderly := by
  have shift := e.shift
  refine ⟨o.sole.shift shift, o.tended.step shift (e.length o.tended.length), o.sound.step e,
    fun s said gone => e.isShut o.sound ?_⟩
  obtain ⟨succeeded, gone | ⟨-, left⟩⟩ := shift.over o.tended said gone
  · exact o.sealed s succeeded gone
  · exact o.sound.phased.shut s (by rw [left]; rfl)

omit [GuestState σ] in
theorem orderly_initial (g : σ) : (initial g : Desk σ J R).Orderly where
  sole := sole_initial g
  tended := tended_initial g
  sound := sound_initial g
  sealed _ said := nomatch said.choose_spec.1

theorem orderly_run (g : σ) (ms : List (Move J R)) : (run g ms).Orderly :=
  run_induction (orderly_initial g) (fun d m o => o.step (d.effect_step m)) ms

/-! ### Runs -/

/-- An owner with nothing left to do leaves the guest: its session took no more jobs, the queue was
empty, and what it lived on is put in order. -/
structure Left (d d' : Desk σ J R) (s : SessionId) : Prop where
  leaves : d.Leaves d' s
  departs : ∃ rt, (d.process.system.world.session s).runtime = some rt ∧
    Departs s rt d.process.system.world d'.process.system.world

theorem Leaves.left (leaves : d.Leaves d' s) (sound : d.Sound) : Left d d' s := by
  have inside : d.process.phase s = .inside := by
    rw [Process.phase, leaves.idle]
    rfl
  obtain ⟨rt, runtime, -⟩ := Option.map_eq_some_iff.mp
    (Option.isSome_iff_exists.mp (sound.housed s inside)).choose_spec
  exact ⟨leaves, rt, runtime, leaves.world ▸ departs_leaveGuest runtime⟩

/-- **An owner that has left the guest did so in one step of the run.** -/
theorem left_run (g : σ) (ms : List (Move J R)) (left : (run g ms).hasLeft s) :
    ∃ before m after, ms = before ++ m :: after ∧ s ∉ (run g (before ++ [m])).surrendered ∧
      Left (run g before) (run g (before ++ [m])) s := by
  induction ms using List.reverseRecOn with
  | nil =>
      rcases left with out | ⟨said, -⟩
      · have there : (initial g : Desk σ J R).phase s ≠ .gone := by
          change (initial g : Desk σ J R).phase s = .outside at out
          simp [out]
        cases (sole_initial g).claimed.mpr ⟨s, there⟩
      · cases said.choose_spec.1
  | append_singleton ms m ih =>
      have step := run_concat g ms m
      have order := orderly_run g ms
      have e := (run g ms).effect_step m
      rcases (step ▸ e.shift).hasLeft order.tended left with earlier | ⟨out, leaves⟩
      · obtain ⟨before, m', after, rfl, claim, there⟩ := ih earlier
        exact ⟨before, m', after ++ [m], by simp, claim, there⟩
      · refine ⟨ms, m, [], rfl, fun given => ?_, leaves.left order.sound⟩
        have gone := (((orderly_run g (ms ++ [m])).tended.given s).mp given).2
        rw [out] at gone
        cases gone

/-! ### The whole -/

/-- What is promised about the claim after a run. -/
structure Exclusive (g : σ) (ms : List (Move J R)) : Prop where
  /-- At most one session has the claim, through its call or through its owner. -/
  single : ∀ s u, (run g ms).calling s ∨ (run g ms).holds s →
    (run g ms).calling u ∨ (run g ms).holds u → s = u
  /-- A call that has not made a thread has no owner yet. -/
  apart : ∀ s, ¬ ((run g ms).calling s ∧ (run g ms).holds s)
  /-- The claim is taken exactly while a call or an owner has it. -/
  claimed : (run g ms).claimed = true ↔ ∃ s, (run g ms).calling s ∨ (run g ms).holds s
  /-- Exactly the calls that come in while the claim is taken are refused. -/
  refused : ∀ m, (run g (ms ++ [m])).answers = (run g ms).answers ++ [.error .alreadyRunning] ↔
    ∃ config, m = .call config ∧ (run g ms).claimed = true
  /-- A start in one go is refused under the same condition. -/
  starts : ∀ config, ((run g ms).process.system.start config).1 = .error .alreadyRunning ↔
    (run g ms).claimed = true
  /-- A call that comes in while the claim is free gets it. -/
  admitted : ∀ config, (run g ms).claimed = false →
    (run g (ms ++ [.call config])).claimed = true ∧
      (run g (ms ++ [.call config])).calling (run g ms).launches.length
  /-- The claim is given back at most once for each session. -/
  once : (run g ms).surrendered.Nodup
  /-- It was given back for exactly the sessions that had it and have neither call nor owner with
  the claim. -/
  given : ∀ s, s ∈ (run g ms).surrendered ↔ s < (run g ms).launches.length ∧
    ¬ ((run g ms).calling s ∨ (run g ms).holds s)
  /-- It was given back after the start had failed, or after the owner had left the guest in one step
  of the run and then closed its list. -/
  last : ∀ s ∈ (run g ms).surrendered, (run g ms).failed s ∨
    (run g ms).succeeded s ∧ (run g ms).process.isShut s ∧
      ∃ before m after, ms = before ++ m :: after ∧ s ∉ (run g (before ++ [m])).surrendered ∧
        Left (run g before) (run g (before ++ [m])) s
  /-- From then on the owner does nothing. -/
  silent : ∀ s ∈ (run g ms).surrendered, ∀ ms' a, (run g (ms ++ ms')).takes s a →
    run g (ms ++ ms' ++ [.act a]) = run g (ms ++ ms')
  /-- A call that came back with a failure has no claim, -/
  returned : ∀ s reason, (run g ms).launches[s]? = some (.returned (some reason)) →
    s ∈ (run g ms).surrendered
  /-- and with no other session the next call gets it. -/
  free : (∀ s < (run g ms).launches.length, s ∈ (run g ms).surrendered) →
    (run g ms).claimed = false

/-- A step of a thread that changes nothing in the process. -/
theorem inner_same {a : Action J R} (same : d.process.step a = d.process) : d.inner a = d := by
  unfold Desk.inner
  split
  · rw [same]
  · rfl

/-- The steps of an owner that is gone change nothing. -/
theorem act_gone {a : Action J R} (gone : d.phase s = .gone) (takes : d.takes s a) :
    d.act a = d := by
  have owner : d.process.owner s = .gone := Owner.phase_gone.mp gone
  have control : (d.process.system.control s).owner = .gone := owner
  -- a thread that has ended releases nothing and submits nothing
  have ended (thread : d.process.threadOf a = some (.owner s)) : d.inner a = d := by
    have halted : d.goesOn (.owner s) = false := by simp [goesOn, Process.phase, owner, Owner.phase]
    rw [Desk.inner, thread, Option.all_some, halted, if_neg Bool.false_ne_true]
  cases a with
  | claim config => rfl
  | prepare u =>
      cases takes
      simp [act, Desk.prepare, owner]
  | abort u =>
      cases takes
      simp [act, Desk.surrender, System.abort, control]
  | surrender u =>
      cases takes
      simp [act, Desk.surrender, System.surrender, control]
  | closeFromJob u =>
      cases takes
      exact inner_same (by simp [Process.step, Process.closeFromJob, owner])
  | receive u =>
      cases takes
      exact inner_same (by simp [Process.step, Process.act, System.receive, control])
  | begin u =>
      cases takes
      exact inner_same (by simp [Process.step, Process.begin, owner])
  | operate u op =>
      cases takes
      exact inner_same (by simp [Process.step, Process.operate, owner])
  | finish u e =>
      cases takes
      exact inner_same (by simp [Process.step, Process.finish, owner])
  | leave u =>
      cases takes
      exact inner_same (by simp [Process.step, Process.act, System.leave, control])
  | shut u =>
      cases takes
      exact inner_same (by simp [Process.step, Process.shut, System.shut, control])
  | giveBack u =>
      cases takes
      exact inner_same (by simp [Process.step, Process.giveBack, owner])
  | submit | close | release | advance => exact ended takes
  | collect | timeOut | abandon | clearOutput => cases takes

/-- A claim that was given back stays so. -/
theorem given_run (g : σ) (ms ms' : List (Move J R)) (given : s ∈ (run g ms).surrendered) :
    s ∈ (run g (ms ++ ms')).surrendered := by
  induction ms' using List.reverseRecOn with
  | nil => rwa [List.append_nil]
  | append_singleton ms' m ih =>
      rw [← List.append_assoc, run_concat]
      cases ((run g (ms ++ ms')).effect_step m).shift with
      | stays phase claimed launches surrendered => exact surrendered ▸ ih
      | proceeds u l l' known next phase claimed launches surrendered => exact surrendered ▸ ih
      | enters u reason known passes launches surrendered => exact surrendered ▸ ih
      | leaves u leaves passes launches surrendered => exact surrendered ▸ ih
      | opens free taken new others launches surrendered => exact surrendered ▸ ih
      | withdraws u reason known passes launches surrendered =>
          exact surrendered ▸ List.mem_append_left [u] ih
      | surrenders u before last own passes launches surrendered =>
          exact surrendered ▸ List.mem_append_left [u] ih

/-- **One owner at a time.** In every run, whatever the guest answers, the claim on the guest is
with one session at most, from the call that takes it to the owner that gives it back as the last
thing. -/
theorem exclusive_run (g : σ) (ms : List (Move J R)) : Exclusive g ms := by
  obtain ⟨sole, tended, -, sealed⟩ := orderly_run g ms
  have step := run_concat (J := J) (R := R) g ms
  have gone_iff (s : SessionId) : (run g ms).phase s = .gone ↔
      ¬ ((run g ms).calling s ∨ (run g ms).holds s) := by
    rw [← tended.alive, not_not]
  have claimed : (run g ms).claimed = true ↔ ∃ s, (run g ms).calling s ∨ (run g ms).holds s := by
    rw [sole.claimed]
    exact exists_congr fun s => tended.alive
  refine {
    single := fun s u hs hu => sole.single s u (tended.alive.mpr hs) (tended.alive.mpr hu)
    apart := fun s both => not_holds_of_calling both.1 both.2
    claimed := claimed
    refused := fun m => step m ▸ refused_iff m
    starts := start_refused
    admitted := fun config free => ?admitted
    once := tended.once
    given := fun s => by rw [tended.given, gone_iff]
    last := fun s given => ?last
    silent := fun s given ms' a takes => ?silent
    returned := fun s reason there => ?returned
    free := fun all => ?free }
  case admitted =>
    rw [step]
    exact ⟨(admitted config free).1, calling_call config free⟩
  case last =>
    obtain ⟨known, gone⟩ := (tended.given s).mp given
    rcases tended.said known gone with succeeded | failed
    · exact .inr ⟨succeeded, sealed s succeeded gone, left_run g ms (.inr ⟨succeeded, gone⟩)⟩
    · exact .inl failed
  case silent =>
    have gone := (((orderly_run g (ms ++ ms')).tended.given s).mp (given_run g ms ms' given)).2
    rw [run_concat]
    exact act_gone gone takes
  case returned =>
    have fit := tended.fits s _ there
    exact (tended.given s).mpr ⟨(List.getElem?_eq_some_iff.mp there).1, List.mem_singleton.mp fit⟩
  case free =>
    by_contra taken
    obtain ⟨s, there⟩ := sole.claimed.mp (Bool.not_eq_false _ ▸ taken)
    exact there ((tended.given s).mp (all s (tended.length ▸ lt_of_phase there))).2

end

/-! ### A stream that is not put back -/

/-- A session starts, is stopped and comes to its end, with nothing else in between. -/
def wholeLife (config : SessionConfig) : List (Move Unit Unit) :=
  [.call config, .spawn 0, .act (.prepare 0), .comeBack 0, .act (.close .host 0), .act (.leave 0),
    .act (.shut 0), .act (.giveBack 0), .act (.surrender 0)]

/-- In a guest that loads no module any more when the session ends, the claim is given back while the
sink of the session is still in the place of the stream. -/
theorem given_back_with_sink :
    let d := run (⟨Booth.original, some 2, none⟩ : Booth) (wholeLife .standard)
    d.succeeded 0 ∧ d.surrendered = [0] ∧ d.claimed = false ∧
      d.process.system.world.guest.out = Booth.sink 0 ∧ Booth.sink 0 ≠ Booth.original := by
  exact ⟨⟨_, rfl, rfl⟩, rfl, rfl, rfl, by decide⟩

end Desk

end GuestBridge.Session
