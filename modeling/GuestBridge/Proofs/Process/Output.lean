import Mathlib.Data.List.Induction
import GuestBridge.Proofs.Requests.Stream
import GuestBridge.Proofs.Process.Phases
import GuestBridge.Proofs.Process.Residence

/-!
# The Output Stream Over a Whole Run

Sessions that capture output replace the guest's output stream one after the other, and each puts
back what it found. As at most one session is in the guest at a time, what a session finds is never
the sink of another. `Streamed` says this of a run; `streamed_run` proves it by following the stream
through every step of a desk.

Jobs may do with the stream what they like where output is captured, and leave it alone where it is
not (`Disciplined`). They must not leave anything behind that changes the stream later, when sessions
start or end: `stream_after_finalizer` shows what happens otherwise.

## Main results

* `streamed_run` — outside sessions the stream is the original one, and while output is captured it
  is the session's own sink until a job changes it.
-/

namespace GuestBridge.Session

open Bridge
open Guest (Ref)

variable {σ J R : Type}

/-- Whether a job does something with the bridge in a step. -/
def Move.isJob : Move J R → Bool
  | .act (.operate _ _) => true
  | _ => false

namespace Desk

/-- The guest. -/
def guest (d : Desk σ J R) : σ := d.process.system.world.guest

/-- Whether a session captures output. -/
def captures (d : Desk σ J R) (s : SessionId) : Bool :=
  (d.process.system.control s).config.captureOutput

variable (V : Outlet σ)

/-- What a job may do in a step: it leaves the guest in order, and where output is not captured it
leaves the stream alone. -/
def Allows (d : Desk σ J R) (m : Move J R) (d' : Desk σ J R) : Prop :=
  ∀ s op, m = .act (.operate s op) → V.Sane d'.guest ∧
    (d.captures s = false → V.out d'.guest = V.out d.guest)

variable [GuestState σ] [HasHandles R]

/-- What jobs may do in a run. -/
def Disciplined : Desk σ J R → List (Move J R) → Prop
  | _, [] => True
  | d, m :: ms => d.Allows V m (d.step m) ∧ Disciplined (d.step m) ms

/-- A job of a session has changed the stream in a run. -/
def Changed (g : σ) (ms : List (Move J R)) (s : SessionId) : Prop :=
  ∃ before op after, ms = before ++ .act (.operate s op) :: after ∧
    V.out (run g (before ++ [.act (.operate s op)])).guest ≠ V.out (run g before).guest

variable {V} {d d' : Desk σ J R} {m : Move J R} {s : SessionId}

theorem disciplined_append {ms ms' : List (Move J R)} :
    Disciplined V d (ms ++ ms') ↔ Disciplined V d ms ∧ Disciplined V (d.steps ms) ms' := by
  induction ms generalizing d with
  | nil => exact (iff_of_eq (true_and _)).symm
  | cons m ms ih =>
      change d.Allows V m (d.step m) ∧ Disciplined V (d.step m) (ms ++ ms') ↔ _
      rw [ih]
      exact and_assoc.symm

/-- Where no job does anything, none does what it may not. -/
theorem disciplined_idle {ms : List (Move J R)} (idle : ∀ m ∈ ms, m.isJob = false) :
    Disciplined V d ms := by
  induction ms generalizing d with
  | nil => trivial
  | cons m ms ih =>
      refine ⟨fun s op move => ?_, ih fun m' hm' => idle m' (List.mem_cons_of_mem m hm')⟩
      cases move ▸ idle m List.mem_cons_self

/-! ### One step -/

omit [GuestState σ] [HasHandles R] in
/-- Where one owner is neither in the guest nor gone, none is in the guest. -/
theorem Sole.outside (sole : d.Sole) (there : d.phase s ≠ .gone) (out : d.phase s ≠ .inside)
    (u : SessionId) : d.phase u ≠ .inside := by
  intro inside
  have same : s = u := sole.single s u there (by simp [inside])
  exact out (same ▸ inside)

/-- How the stream stands with the sessions. -/
structure Staged (V : Outlet σ) (d : Desk σ J R) : Prop where
  sane : V.Sane d.guest
  /-- The original stream is there while no session is in the guest that captures output. -/
  original : (∀ s, d.phase s = .inside → d.captures s = false) → V.out d.guest = V.original
  /-- A session that captures output has saved the original stream, any other nothing. -/
  saved : ∀ s b, d.phase s = .inside → d.process.system.world.base s = some b →
    b.previousOutput = if d.captures s then some V.original else none

omit [GuestState σ] [HasHandles R] in
theorem staged_initial {g : σ} (sane : V.Sane g) (start : V.out g = V.original) :
    (initial g : Desk σ J R).Staged V where
  sane := sane
  original _ := start
  saved s _ inside _ := by
    have there : (initial g : Desk σ J R).phase s ≠ .gone := by rw [inside]; simp
    cases (sole_initial g).claimed.mpr ⟨s, there⟩

/-- What a step does to the stream. -/
inductive Course (V : Outlet σ) (d : Desk σ J R) (m : Move J R) (d' : Desk σ J R) : Prop
  /-- A step in which no owner enters or leaves the guest. The guest stays as it is, unless the step
  is one of a job. -/
  | goesOn (guest : d'.guest = d.guest ∨ ∃ s op, m = .act (.operate s op) ∧ d.phase s = .inside)
      (phase : ∀ u, d'.phase u = d.phase u) (captures : ∀ u, d'.captures u = d.captures u)
      (base : ∀ u, d'.process.system.world.base u = d.process.system.world.base u)
  | enters (s : SessionId) (rt : Runtime) (before : d.phase s = .starting)
      (after : d'.phase s = .inside) (base : d'.process.system.world.base s = some rt.base)
      (entered : V.Entered s (d'.captures s) V.original rt.previousOutput d'.guest)
  /-- No session is in the guest any more, if one was. -/
  | outside (original : V.Shows V.original d'.guest) (out : ∀ u, d'.phase u ≠ .inside)

omit [GuestState σ] [HasHandles R] in
/-- Calls do nothing to the stream. -/
theorem Course.of_process (process : d'.process = d.process) : d.Course V m d' := by
  refine .goesOn (.inl (congrArg (·.system.world.guest) process)) (fun u => ?_) (fun u => ?_) fun u => ?_
  · rw [phase, process, phase]
  · rw [captures, process, captures]
  · rw [process]

omit [GuestState σ] [HasHandles R] in
/-- While no session is in the guest, the stream is the original one. -/
theorem Staged.shows (st : d.Staged V) (out : ∀ u, d.phase u ≠ .inside) :
    V.Shows V.original d.guest :=
  ⟨st.sane, st.original fun u hu => absurd hu (out u)⟩

/-- A session that leaves the guest puts the original stream back. -/
theorem Staged.leaves (laws : V.Laws) (st : d.Staged V) (sole : d.Sole) (sound : d.Sound)
    (idle : d.process.owner s = .idle) :
    V.Shows V.original (leaveGuest s d.process.system.world).2.guest := by
  have inside : d.phase s = .inside := by
    rw [phase, Process.phase, idle]
    rfl
  obtain ⟨rt, runtime, -⟩ := Option.map_eq_some_iff.mp
    (Option.isSome_iff_exists.mp (sound.housed s inside)).choose_spec
  have base : d.process.system.world.base s = some rt.base := by rw [World.base, runtime]; rfl
  have saved : rt.previousOutput = if d.captures s then some V.original else none :=
    st.saved s rt.base inside base
  have back : rt.previousOutput.getD (V.out d.guest) = V.original := by
    rw [saved]
    cases capture : d.captures s with
    | true => rfl
    | false =>
        refine st.original fun u hu => ?_
        rw [← sole.single s u (by simp [inside]) (by simp [hu]), capture]
  exact back ▸ laws.leaveGuest runtime st.sane

/-- A session that enters the guest saves the original stream, or leaves it in its place. -/
theorem Staged.enters (laws : V.Laws) (st : d.Staged V) (sole : d.Sole) (sound : d.Sound)
    (starting : d.process.owner s = .starting)
    (system : d'.process.system = (d.process.system.prepare s).2) (sole' : d'.Sole) :
    d.Course V m d' := by
  have there : d.phase s = .starting := by
    rw [phase, Process.phase, starting]
    rfl
  have out : ∀ u, d.phase u ≠ .inside := sole.outside (s := s) (by simp [there]) (by simp [there])
  have controls : d'.process.system.controls = d.process.system.controls.modify s
      fun c => c.prepared (d.process.system.prepare s).1 := congrArg System.controls system
  have world : d'.process.system.world =
      (enterGuest s (d.process.system.control s).config d.process.system.world).2 :=
    congrArg System.world system
  have lt : s < d.process.system.controls.length := lt_of_phase (by simp [there])
  have own : d'.phase s = (d.process.system.prepare s).1.elim .inside fun _ => .failed := by
    rw [phase, Process.phase_of_modify controls, if_pos ⟨rfl, lt⟩, phase_prepared]
  have reason : (d.process.system.prepare s).1 =
    (enterGuest s (d.process.system.control s).config d.process.system.world).1 := rfl
  have entered := laws.enterGuest (s := s) (d.process.system.control s).config
    d.process.system.world (st.shows out)
  rw [← world, ← reason] at entered
  cases how : (d.process.system.prepare s).1 with
  | some message =>
      rw [how] at own entered
      exact .outside entered (sole'.outside (s := s) (by simp [own]) (by simp [own]))
  | none =>
      rw [how] at own entered reason
      obtain ⟨rt, started, entered⟩ := entered
      have known : s < d.process.system.world.sessions.length := sound.booked.sessions ▸ lt
      obtain ⟨rt', started', base⟩ := World.base_enter _ _ known reason.symm
      cases started.symm.trans started'
      have captures : d'.captures s = (d.process.system.control s).config.captureOutput := by
        rw [Desk.captures]
        rcases System.control_of_modify controls s with ⟨other, -⟩ | ⟨-, -, changed⟩
        · exact absurd rfl (other lt)
        · rw [changed, how]
          rfl
      exact .enters s rt there own (by rw [world, base]) (captures ▸ entered)

/-- **What every step does to the stream.** -/
theorem Staged.course (laws : V.Laws) (st : d.Staged V) (sole : d.Sole) (sound : d.Sound)
    (e : d.Effect m d') : d.Course V m d' := by
  have sole' := sole.shift e.shift
  -- an owner that gives the claim back was not in the guest
  have free {u : SessionId} {before : Phase} (gives : d.process.GivesBack d'.process u before) :
      d.Course V m d' := by
    have here : d.phase u = before := gives.here
    have original := st.shows (sole.outside (here ▸ gives.apart.1) (here ▸ gives.apart.2))
    have same : d'.guest = d.guest := congrArg World.guest gives.world
    refine .outside (same ▸ original) fun v inside => ?_
    exact absurd (sole'.claimed.mpr ⟨v, by simp [inside]⟩) (by simp [claimed, gives.claimed])
  cases e with
  | rests process launches surrendered => exact .of_process process
  | proceeds s l l' there next process launches surrendered => exact .of_process process
  | inner a move inner process launches surrendered =>
      cases inner with
      | aside aside =>
          exact .goesOn (.inl aside.guest) aside.phase
            (fun u => congrArg SessionConfig.captureOutput (aside.config u)) aside.base
      | operates s ticket job op action working system =>
          have moves := (op.turns_run : Turns (σ := σ) ⟨s⟩ op.used (op.run ⟨s⟩) id)
            d.process.system.world []
          refine .goesOn (.inr ⟨s, op, action ▸ move, ?_⟩) (fun u => ?_) (fun u => ?_) fun u => ?_
          · rw [phase, Process.phase, working]
            rfl
          · rw [phase, Process.phase, Process.owner, system]
            rfl
          · rw [captures, system]
            rfl
          · rw [system]
            exact moves.base u
      | leaves s idle queue closed system =>
          have controls : d'.process.system.controls = d.process.system.controls.modify s
              fun c => { c with owner := .leaving } := congrArg System.controls system
          have world : d'.process.system.world = (leaveGuest s d.process.system.world).2 :=
            congrArg System.world system
          have lt : s < d.process.system.controls.length :=
            System.lt_of_owner fun gone => by
              rw [Process.owner, gone] at idle
              cases idle
          have own : d'.phase s = .outside := by
            rw [phase, Process.phase_of_modify controls, if_pos ⟨rfl, lt⟩]
            rfl
          have back := st.leaves laws sole sound idle
          rw [← world] at back
          exact .outside back (sole'.outside (s := s) (by simp [own]) (by simp [own]))
  | opens config free process launches surrendered =>
      have gone (u : SessionId) : d.phase u = .gone := by
        by_contra there
        exact absurd (sole.claimed.mpr ⟨u, there⟩) (by simp [claimed, free])
      have same : d'.guest = d.guest := by
        rw [guest, process]
        rfl
      have new : d'.phase d.process.system.controls.length = .starting := by
        rw [phase, process, Process.phase, Process.owner, System.control]
        simp [System.opened, Owner.phase]
      exact .outside (same ▸ st.shows fun u => by simp [gone u])
        (sole'.outside (s := d.process.system.controls.length) (by simp [new]) (by simp [new]))
  | enters s there starting process launches surrendered =>
      refine st.enters laws sole sound starting ?_ sole'
      rw [process, Process.prepare, starting]
  | withdraws s reason there starting process launches surrendered =>
      exact free (process ▸ Process.givesBack_withdraw starting)
  | surrenders s last launches surrendered =>
      obtain ⟨before, -, -, gives⟩ := Process.givesBack_last last
      exact free gives

omit [GuestState σ] [HasHandles R] in
/-- **Every step keeps the stream with the sessions**, if its job may do what it does. -/
theorem Staged.step (st : d.Staged V) (sole' : d'.Sole) (course : d.Course V m d')
    (allowed : d.Allows V m d') : d'.Staged V := by
  cases course with
  | goesOn guest phase captures base =>
      refine ⟨?_, fun quiet => ?_, fun u b hu hb => ?_⟩
      · rcases guest with same | ⟨s, op, move, -⟩
        · exact same ▸ st.sane
        · exact (allowed s op move).1
      · have before : ∀ u, d.phase u = .inside → d.captures u = false :=
          fun u hu => captures u ▸ quiet u ((phase u).trans hu)
        rcases guest with same | ⟨s, op, move, inside⟩
        · rw [same, st.original before]
        · rw [(allowed s op move).2 (before s inside), st.original before]
      · rw [captures]
        exact st.saved u b (phase u ▸ hu) (base u ▸ hb)
  | enters s rt before after base entered =>
      refine ⟨entered.sane, fun quiet => entered.kept (quiet s after), fun u b hu hb => ?_⟩
      cases sole'.single s u (by simp [after]) (by simp [hu])
      cases base.symm.trans hb
      exact entered.saved
  | outside original out =>
      exact ⟨original.1, fun _ => original.2, fun u _ hu => absurd hu (out u)⟩

/-! ### Runs -/

/-- What is needed of the guest at the start, and of the jobs in a run. -/
structure Kept (V : Outlet σ) (g : σ) (ms : List (Move J R)) : Prop where
  sane : V.Sane g
  start : V.out g = V.original
  disciplined : Disciplined V (initial g) ms

theorem Kept.before {g : σ} {ms ms' : List (Move J R)} (k : Kept V g (ms ++ ms')) : Kept V g ms :=
  ⟨k.sane, k.start, (disciplined_append.mp k.disciplined).1⟩

theorem staged_run (laws : V.Laws) {g : σ} {ms : List (Move J R)} (k : Kept V g ms) :
    (run g ms).Staged V := by
  induction ms using List.reverseRecOn with
  | nil => exact staged_initial k.sane k.start
  | append_singleton ms m ih =>
      obtain ⟨-, now, -⟩ := disciplined_append.mp k.disciplined
      have st := ih k.before
      have course := st.course laws (sole_run g ms) (sound_run g ms) (effect_step _ m)
      rw [run_concat]
      exact st.step (run_concat g ms m ▸ sole_run g (ms ++ [m])) course now

/-- The stream is the one that was there when the session had just entered the guest, and that was
a sink of the session's own. -/
def ShowsOwn (V : Outlet σ) (g : σ) (ms : List (Move J R)) (s : SessionId) : Prop :=
  ∃ before m after, ms = before ++ m :: after ∧
    (run g before).phase s = .starting ∧ (run g (before ++ [m])).phase s = .inside ∧
    V.out (run g ms).guest = V.out (run g (before ++ [m])).guest ∧
    V.sinkOf (run g (before ++ [m])).guest (V.out (run g ms).guest) = some s

/-- **While output is captured the stream is the session's own sink**, until a job changes it. -/
theorem own_run (laws : V.Laws) {g : σ} {ms : List (Move J R)} (k : Kept V g ms)
    (inside : (run g ms).phase s = .inside) (capture : (run g ms).captures s = true)
    (unchanged : ¬ Changed V g ms s) : ShowsOwn V g ms s := by
  induction ms using List.reverseRecOn with
  | nil =>
      have there : (initial g : Desk σ J R).phase s = .inside := inside
      cases (sole_initial g).claimed.mpr ⟨s, by rw [there]; simp⟩
  | append_singleton ms m ih =>
      have sole := sole_run (J := J) (R := R) g ms
      have sole' := sole_run g (ms ++ [m])
      have step := run_concat g ms m
      have course := (staged_run laws k.before).course laws sole (sound_run g ms) (effect_step _ m)
      rw [← step] at course
      -- the stream is the one from before
      have earlier (phase : (run g ms).phase s = .inside) (captures : (run g ms).captures s = true)
          (same : V.out (run g (ms ++ [m])).guest = V.out (run g ms).guest) :
          ShowsOwn V g (ms ++ [m]) s := by
        have unchanged' : ¬ Changed V g ms s := by
          rintro ⟨before, op, after, rfl, changed⟩
          exact unchanged ⟨before, op, after ++ [m], by simp, changed⟩
        obtain ⟨before, m', after, rfl, starting, entered, there, own⟩ :=
          ih k.before phase captures unchanged'
        exact ⟨before, m', after ++ [m], by simp, starting, entered, same.trans there, same ▸ own⟩
      cases course with
      | goesOn guest phase captures base =>
          have before := (phase s).symm.trans inside
          refine earlier before ((captures s).symm.trans capture) ?_
          rcases guest with same | ⟨u, op, move, there⟩
          · rw [same]
          · cases sole.single u s (by simp [there]) (by simp [before])
            subst move
            by_contra changed
            exact unchanged ⟨ms, op, [], rfl, changed⟩
      | enters u rt before after base entered =>
          cases sole'.single u s (by simp [after]) (by simp [inside])
          exact ⟨ms, m, [], rfl, before, after, rfl, entered.own capture⟩
      | outside original out => exact absurd inside (out s)

/-- What is promised about the stream after a run. -/
structure Streamed (V : Outlet σ) (g : σ) (ms : List (Move J R)) : Prop where
  /-- While no session is in the guest, the stream is the original one: -/
  outside : (∀ s, (run g ms).phase s ≠ .inside) → V.out (run g ms).guest = V.original
  /-- before a session enters the guest, after it could not, and after it has left, -/
  around : ∀ s, (run g ms).phase s = .starting ∨ (run g ms).phase s = .failed ∨
    (run g ms).phase s = .outside → V.out (run g ms).guest = V.original
  /-- and while the claim on the guest is free. -/
  free : (run g ms).claimed = false → V.out (run g ms).guest = V.original
  /-- A session that does not capture output leaves the original stream where it is. -/
  left : ∀ s, (run g ms).phase s = .inside → (run g ms).captures s = false →
    V.out (run g ms).guest = V.original
  /-- While a session captures output and its jobs have not changed the stream, it is the session's
  own sink. -/
  own : ∀ s, (run g ms).phase s = .inside → (run g ms).captures s = true → ¬ Changed V g ms s →
    ShowsOwn V g ms s
  /-- The stream that a session has saved is the original one, -/
  saved : ∀ s rt, (run g ms).phase s = .inside →
    ((run g ms).process.system.world.session s).runtime = some rt →
    rt.previousOutput = if (run g ms).captures s then some V.original else none
  /-- which is never the sink of a session. -/
  plain : V.sinkOf (run g ms).guest V.original = none

/-- **The output stream over a whole run.** Where jobs leave the guest in order, outside sessions the
stream is the original one, and in a session that captures output it is the session's own sink until
a job changes it. -/
theorem streamed_run (laws : V.Laws) {g : σ} {ms : List (Move J R)} (k : Kept V g ms) :
    Streamed V g ms := by
  have st := staged_run laws k
  have sole := sole_run (J := J) (R := R) g ms
  have original (out : ∀ s, (run g ms).phase s ≠ .inside) :
      V.out (run g ms).guest = V.original := (st.shows out).2
  refine {
    outside := original
    around := fun s there => original ?around
    free := fun free => original fun u inside => ?free
    left := fun s inside quiet => st.original fun u hu => ?left
    own := fun s => own_run laws k
    saved := fun s rt inside runtime => st.saved s rt.base inside ?saved
    plain := laws.plain st.sane }
  case around => rcases there with h | h | h <;> exact sole.outside (s := s) (by simp [h]) (by simp [h])
  case free => exact absurd (sole.claimed.mpr ⟨u, by simp [inside]⟩) (by simp [free])
  case left => rw [← sole.single s u (by simp [inside]) (by simp [hu]), quiet]
  case saved =>
    rw [World.base, runtime]
    rfl

/-! ### Two runs -/

/-- A session starts, and its owner begins with a job. -/
def opening : List (Move Unit Unit) :=
  [.call .standard, .spawn 0, .act (.prepare 0), .comeBack 0, .act (.submit .host 0 ()),
    .act (.receive 0), .act (.begin 0)]

/-- The job takes a handle on the module of built-in names and sets an attribute of it. -/
def setting (name : String) : List (Move Unit Unit) :=
  [.act (.operate 0 .builtins),
    .act (.operate 0 (.setMember ⟨Booth.thing, 0, none⟩ name ⟨.bool, true⟩))]

/-- The job comes to its end, and the session is stopped. -/
def closing : List (Move Unit Unit) :=
  [.act (.finish 0 (.returned ())), .act (.close .host 0), .act (.leave 0), .act (.shut 0),
    .act (.giveBack 0), .act (.surrender 0)]

/-- A job changes the stream while the output of its session is captured. -/
theorem streamed_changed :
    Kept Booth.outlet ⟨Booth.original, none, none⟩ (opening ++ setting "stdout" ++ closing) ∧
      Streamed Booth.outlet ⟨Booth.original, none, none⟩
        (opening ++ setting "stdout" ++ closing) := by
  have kept : Kept Booth.outlet ⟨Booth.original, none, none⟩
      (opening ++ setting "stdout" ++ closing) := by
    refine ⟨⟨rfl, rfl⟩, rfl, disciplined_append.mpr ⟨disciplined_append.mpr
      ⟨disciplined_idle (by simp [opening, Move.isJob]), ?_, ?_, trivial⟩,
      disciplined_idle (by simp [closing, Move.isJob])⟩⟩
    · rintro s op ⟨⟩
      exact ⟨⟨rfl, rfl⟩, fun quiet => nomatch quiet⟩
    · rintro s op ⟨⟩
      refine ⟨⟨rfl, rfl⟩, fun quiet => ?_⟩
      exact absurd quiet (by decide)
  exact ⟨kept, streamed_run Booth.laws kept⟩

/-- Where a job leaves an object behind that changes the stream when it dies with the globals of its
session, the stream is another one when the session has ended, although the module that holds it can
always be loaded. -/
theorem stream_after_finalizer :
    let before := run (⟨Booth.original, none, none⟩ : Booth) (opening.take 1)
    let after := run (⟨Booth.original, none, none⟩ : Booth) (opening ++ setting "last" ++ closing)
    before.phase 0 = .starting ∧ before.captures 0 = true ∧ after.surrendered = [0] ∧
      after.claimed = false ∧ after.guest.loads = none ∧ before.guest.out = Booth.original ∧
      after.guest.out = Guest.trueRef ∧ Guest.trueRef ≠ Booth.original := by
  exact ⟨rfl, rfl, rfl, rfl, rfl, rfl, rfl, by simp [Guest.trueRef, Booth.original]⟩

end Desk

end GuestBridge.Session
