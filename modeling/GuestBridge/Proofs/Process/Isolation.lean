import GuestBridge.Proofs.Process.Exclusion
import GuestBridge.Proofs.Process.Frames
import GuestBridge.Proofs.Requests.Posting
import GuestBridge.Proofs.Process.Visits
import GuestBridge.Proofs.Requests.Arrival
import GuestBridge.Proofs.Interpreter.Globals
import GuestBridge.Bridge.Interpreter

/-!
# One Session After Another

Handles, errors, results and sinks outlive the session that they are of, and may be dealt with while
another session has the claim, on its owner's thread as on any other. `Isolated` told what a step may do
then: a session that starts begins with nothing, what is left over of an earlier session reaches neither
the guest nor another session, and a session reaches the output of an earlier one by the sink alone that
is left of it.

A session that starts finds no output of its own. Code of scripts can still write to the new sink before
the start is over, so what is there then is what was written meanwhile (`greeted_at_start`).

## Main results

* `isolated_run` — every step of every run is isolated, and the dictionary of globals that a start asks
  the interpreter for has two names in it.
-/

namespace GuestBridge.Session

open Bridge

variable {σ J R : Type}

namespace Desk

variable {d d' : Desk σ J R} {m : Move J R} {s : SessionId}

/-- What was captured of a session. -/
def output (d : Desk σ J R) (s : SessionId) : String := d.process.system.output s

/-! ### Sessions that start -/

section

variable [GuestState σ]

/-- A session that is starting was so before, or is the one that is opened. -/
theorem Shift.starting (shift : d.Shift d') (starting : d'.phase s = .starting) :
    d.phase s = .starting ∨ s = d.process.system.controls.length := by
  have moved {u : SessionId} {before after : Phase} (passes : d.Passes d' u before after)
      (other : after ≠ .starting) : d.phase s = .starting :=
    (passes.unmoved (starting ▸ other)).trans starting
  cases shift with
  | stays phase | proceeds u l l' there next phase => exact .inl (phase s ▸ starting)
  | enters u reason there passes => exact .inl (moved passes (by cases reason <;> simp))
  | leaves u leaves passes => exact .inl (moved passes (by simp))
  | withdraws u reason there passes => exact .inl (moved passes (by simp))
  | surrenders u before last own passes => exact .inl (moved passes (by simp))
  | opens free taken new others =>
      by_cases same : s = d.process.system.controls.length
      · exact .inr same
      · exact .inl (others s same ▸ starting)

variable [HasHandles R]

/-- An owner that comes from its start into the guest does so by entering it. -/
theorem Orderly.entered (o : d.Orderly) (starting : d.phase s = .starting)
    (inside : (d.step m).phase s = .inside) :
    (d.step m).process.system = (d.process.system.prepare s).2 ∧
      (d.process.system.prepare s).1 = none := by
  have effect := d.effect_step m
  -- an owner that is in the guest has said so, and one that is starting has not
  have silent : ¬ d.succeeded s := by
    rintro ⟨l, there, succeeded⟩
    have fit := o.tended.fits s l there
    rw [starting] at fit
    rcases l with _ | _ | _ | (_ | _) | (_ | _) <;> simp [Launch.phases, Launch.succeeded] at fit succeeded
  have tended' := (o.step effect).tended
  have told := tended'.succeeded inside
  cases effect.visit with
  | away guest said => exact absurd (said s told) silent
  | works u op move within world said => exact absurd (said s told) silent
  | leaves u leaves said => exact absurd (said s told) silent
  | enters u there begins system launches =>
      have same : u = s := by
        refine o.sole.single u s ?_ (starting ▸ by simp)
        rw [phase, Process.phase, begins]
        simp [Owner.phase]
      subst same
      refine ⟨system, ?_⟩
      have heard : (d.step m).launches[u]? = some (.heard (d.process.system.prepare u).1) := by
        rw [launches, List.getElem?_set_self (List.getElem?_eq_some_iff.mp there).1]
      have fit := tended'.fits u _ heard
      rw [inside] at fit
      cases reason : (d.process.system.prepare u).1 with
      | none => rfl
      | some text =>
          rw [reason] at fit
          simp [Launch.phases] at fit

/-- Nothing was captured of sessions that are starting. -/
def Unheard (d : Desk σ J R) : Prop := ∀ s, d.phase s = .starting → d.output s = ""

omit [GuestState σ] [HasHandles R] in
theorem output_unknown (level : d.process.system.world.sessions.length = d.process.system.controls.length)
    (unknown : ¬ s < d.process.system.controls.length) : d.output s = "" :=
  World.captured_unknown _ fun known => unknown (level ▸ known)

/-- Each step keeps this: what a starting owner asks for ends its start. -/
theorem Unheard.step (unheard : d.Unheard) (o : d.Orderly) (m : Move J R) : (d.step m).Unheard := by
  intro s starting
  have before := (d.effect_step m).shift.starting starting
  have nothing : d.output s = "" := by
    rcases before with old | new
    · exact unheard s old
    · exact output_unknown o.sound.booked.sessions (new ▸ Nat.lt_irrefl _)
  cases d.touches_step m with
  | rests system =>
      rw [output, system]
      exact nothing
  | aside u subject here => exact ((here.writes (P := NoSink)).quiet s).trans nothing
  | asks u subject stage length others writes =>
      have known : s < (d.step m).process.system.controls.length := lt_of_phase (by simp [starting])
      have old : d.phase s = .starting := before.resolve_right fun new => by
        rw [length, new] at known
        exact Nat.lt_irrefl _ known
      have same : u = s := by
        refine o.sole.single u s ?_ (old ▸ by simp)
        rcases stage with inside | ⟨begins, -⟩ <;> simp [phase, *]
      subst same
      rcases stage with inside | ⟨-, ended⟩
      · rw [phase, inside] at old
        cases old
      · exact absurd starting ended
  | opens config subject system =>
      rw [output, system]
      exact (Process.captured_opened _ config s).trans nothing
  | clears u subject clears system =>
      rw [output, system]
      by_cases own : s = u
      · exact own ▸ System.output_clearOutput _ s
      · exact (System.output_clearOutput_ne _ own).trans nothing

omit [GuestState σ] [HasHandles R] in
theorem unheard_initial (g : σ) : (initial g : Desk σ J R).Unheard := fun _ _ => rfl

theorem unheard_run (g : σ) (ms : List (Move J R)) : (run g ms).Unheard := by
  refine (run_induction (P := fun d => d.Unheard ∧ d.Orderly)
    ⟨unheard_initial g, orderly_initial g⟩ (fun d m both => ?_) ms).1
  exact ⟨both.1.step both.2 m, both.2.step (d.effect_step m)⟩

/-- What a session has when its start is over. -/
structure Begins (d d' : Desk σ J R) (s : SessionId) : Prop where
  /-- It has a dictionary of globals that the start has asked for, and no modules. -/
  runtime : ∃ rt, (d'.process.system.world.session s).runtime = some rt ∧ rt.modules = [] ∧
    ∃ tr, Runs d.process.system.world tr d'.process.system.world ∧
      Provides s (d.process.system.control s).config.captureOutput rt tr
  /-- Its output is what was written to its sink during the start. -/
  output : ∃ ws, Writes (OfStart s (d.process.system.control s).config.captureOutput)
    d.process.system.world ws d'.process.system.world ∧ d'.output s = said s ws
  live : (d'.process.system.world.session s).live = 0
  parked : (d'.process.system.world.session s).parkedRefs = []

omit [GuestState σ] in
/-- There are no handles of a session that is starting. -/
theorem Sound.live_starting (sound : d.Sound) (starting : d.process.owner s = .starting) :
    d.process.existing.countP (·.session = s) = 0 := by
  rw [List.countP_eq_zero]
  intro h there own
  have served := (sound.phased.handles h there).1
  rw [of_decide_eq_true own, starting] at served
  cases served

omit [GuestState σ] in
/-- Nothing is parked for a session that is starting. -/
theorem Sound.parked_starting (sound : d.Sound) (starting : d.process.owner s = .starting) :
    (d.process.system.world.session s).parkedRefs = [] := by
  have none : refsAt s .parked d.process.releases = [] := by
    refine List.flatMap_eq_nil_iff.mpr fun r there => if_neg fun here => ?_
    have own : r.handle.session = s := of_decide_eq_true (Bool.and_eq_true_iff.mp here).1
    have served := (sound.phased.releases r there).1
    rw [own, starting] at served
    cases served
  exact List.perm_nil.mp (none ▸ sound.booked.parked s)

/-- **A session that has started** has nothing but what it has asked for, and what was written to its
sink meanwhile. -/
theorem Orderly.begins (o : d.Orderly) (unheard : d.Unheard) (starting : d.phase s = .starting)
    (inside : (d.step m).phase s = .inside) : Begins d (d.step m) s := by
  have owner : d.process.owner s = .starting := Owner.phase_starting.mp starting
  have known : s < d.process.system.world.sessions.length :=
    o.sound.booked.sessions ▸ lt_of_phase (by simp [starting])
  obtain ⟨system, entered⟩ := o.entered starting inside
  have world : (d.step m).process.system.world =
      (enterGuest s (d.process.system.control s).config d.process.system.world).2 :=
    congrArg System.world system
  obtain ⟨runtime, ws, writes, output⟩ := arrives_enterGuest known entered
  have accounted := o.sound.booked.accounted.enter known (o.sound.booked.starting s owner)
    (d.process.system.control s).config
  have parked := (steady_enter (d.process.system.control s).config d.process.system.world
    (s := s)).parked s
  rw [← world] at runtime writes output accounted parked
  refine ⟨runtime, ⟨ws, writes, ?_⟩, ?_, ?_⟩
  · have before : d.process.system.world.captured s = "" := unheard s starting
    rw [before, String.empty_append] at output
    exact output
  · rw [accounted.live s, o.sound.live_starting owner]
  · rw [SessionState.parkedRefs, parked]
    exact o.sound.parked_starting owner

/-! ### What is left over -/

/-- What a step has to do with sessions that it is not about. -/
structure Isolated (d : Desk σ J R) (m : Move J R) : Prop where
  /-- A session begins with nothing. -/
  begins : ∀ s, d.phase s = .starting → (d.step m).phase s = .inside → Begins d (d.step m) s
  /-- A step leaves every session alone that it is not about: its queue, owner and results, its count
  of handles, its parked references, its globals and modules. -/
  apart : ∀ u, d.subject m ≠ some u → d.process.Unmoved (d.step m).process u
  /-- The output of a session grows by what the guest writes to its sink, in a step of the owner that
  has the claim. -/
  output : ∀ u < d.process.system.controls.length, m.clears? ≠ some u →
    ∃ ws, (d.step m).output u = d.output u ++ said u ws ∧
      (ws = [] ∨ ∃ s, d.subject m = some s ∧ d.phase s ≠ .gone ∧
        Writes (Process.MayAsk s (d.process.system.control s).config.captureOutput)
          d.process.system.world ws (d.step m).process.system.world)
  /-- What is written to the sink of one session is nothing that another has. -/
  sink : ∀ s u text, u ≠ s →
    (d.process.system.world.write s text).session u = d.process.system.world.session u
  /-- What is left over of an earlier session reaches neither the guest nor the claim nor the output of
  others. -/
  leftOver : ∀ s < d.process.system.controls.length, d.phase s = .gone → d.subject m = some s →
    (d.step m).guest = d.guest ∧ (d.step m).claimed = d.claimed ∧
      ∀ u, u ≠ s → (d.step m).output u = d.output u

/-- An earlier session has no owner that could ask the guest for it. -/
theorem Orderly.leftOver (o : d.Orderly) (known : s < d.process.system.controls.length)
    (gone : d.phase s = .gone) (about : d.subject m = some s) :
    (d.step m).guest = d.guest ∧ (d.step m).claimed = d.claimed ∧
      ∀ u, u ≠ s → (d.step m).output u = d.output u := by
  have touches := d.touches_step m
  have effect := d.effect_step m
  have claimed : (d.step m).claimed = d.claimed := by
    have phase (u : SessionId) : (d.step m).phase u = d.phase u := by
      by_cases own : u = s
      · rw [own, gone, effect.shift.gone known gone]
      · have unmoved := touches.unmoved fun same => own (Option.some.inj (same.symm.trans about))
        exact congrArg (fun c : Control J R => c.owner.phase) unmoved.control
    rw [Bool.eq_iff_iff, (o.step effect).sole.claimed, o.sole.claimed]
    exact exists_congr fun u => by rw [phase u]
  obtain ⟨quiet, captured⟩ := touches.quiet fun u subject => by
    cases subject.symm.trans about
    exact gone
  exact ⟨quiet, claimed, fun u other => captured u fun same =>
    other (Option.some.inj (same.symm.trans about))⟩

theorem Orderly.isolated (o : d.Orderly) (unheard : d.Unheard) (m : Move J R) : d.Isolated m where
  begins _ := o.begins unheard
  apart _ := (d.touches_step m).unmoved
  output _ := (d.touches_step m).said o.sound.booked.sessions
  sink _ _ _ other := World.session_modifySession_ne _ _ (Ne.symm other)
  leftOver _ := o.leftOver

/-- **Isolation of successive sessions**, in every step of every run; and the dictionary that the
interpreter makes for the globals of a session has two names in it. -/
theorem isolated_run (g : σ) (ms : List (Move J R)) (m : Move J R) :
    (run g ms).Isolated m ∧
      ∀ (_ : Guest.Ops) (builtins name : Guest.Ref) (machine : Guest.Machine), machine.Interned →
        ∃ e e' machine',
          Guest.answer (.newDict [("__builtins__", builtins), ("__name__", name)]) machine =
            .ok ⟨machine.heap.size⟩ machine' ∧
          machine'.data ⟨machine.heap.size⟩ = .dict [e, e'] ∧
          e.Names machine' "__builtins__" builtins ∧ e'.Names machine' "__name__" name :=
  ⟨(orderly_run g ms).isolated (unheard_run g ms) m, fun _ builtins name _ interned =>
    Guest.globals_newNameDict interned builtins name⟩

/-- A session starts, and a machine that has interned nothing makes its globals. -/
theorem isolated_at_start :
    (run (⟨[]⟩ : Herald) [(.call .standard : Move Unit Unit), .spawn 0]).Isolated (.act (.prepare 0)) ∧
      (default : Guest.Machine).Interned ∧ ∃ e e' machine,
        Guest.newNameDict [("__builtins__", ⟨0⟩), ("__name__", ⟨1⟩)] default = .ok ⟨0⟩ machine ∧
          machine.data ⟨0⟩ = .dict [e, e'] := by
  have nothing : (default : Guest.Machine).Interned := fun t r there => by cases there
  have isolated := isolated_run (⟨[]⟩ : Herald) [(.call .standard : Move Unit Unit), .spawn 0]
    (.act (.prepare 0))
  obtain ⟨e, e', machine, made, data, -⟩ := isolated.2 Guest.interpreter ⟨0⟩ ⟨1⟩ default nothing
  exact ⟨isolated.1, nothing, e, e', machine, made, data⟩

/-- A session is greeted while it starts, and begins with that as its output. -/
theorem greeted_at_start :
    let d := run (⟨[]⟩ : Herald) [(.call .standard : Move Unit Unit), .spawn 0]
    d.phase 0 = .starting ∧ (d.step (.act (.prepare 0))).phase 0 = .inside ∧
      (d.step (.act (.prepare 0))).output 0 = "early" ∧ "early" ≠ "" :=
  ⟨rfl, rfl, rfl, by decide⟩

end

end Desk

end GuestBridge.Session
