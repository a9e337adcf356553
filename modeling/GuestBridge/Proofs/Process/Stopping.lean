import GuestBridge.Proofs.Process.Service
import GuestBridge.Proofs.Process.Visits

/-!
# Calls That Stop Sessions

A call that stops a session closes it, takes the one thing by which the thread of its owner can be
joined, and waits until that thread has come to its end. Any number of calls can be under way for one
session, on any threads, between any of these steps. `Lobby.run` interleaves them with all steps of
a desk.

The call that finds its session open waits for the end; when it comes back, all jobs have ended, the
owner has left the guest and the claim is free. A call that finds the session closed comes back at
once, whatever the owner is doing then (`back_too_early`).

## Main results

* `halted_run` — what has happened when a call comes back.
-/

namespace GuestBridge.Session

open Bridge

variable {σ J R : Type}

/-- Where a call that stops a session is. -/
inductive StopStage
  | called
  /-- The call has closed the session. -/
  | closed
  /-- It has taken what the thread of the owner is joined by, and waits for the thread to end. -/
  | joining
  /-- It has found that taken. -/
  | unjoined
  /-- The call has come back: it was made on the thread of the owner. -/
  | reentrant
  /-- It has come back: the session had been closed before. -/
  | already
  /-- It has come back after it had closed the session. -/
  | stopped
  deriving DecidableEq, Repr

namespace StopStage

/-- What a call gives that has come back. -/
def answer : StopStage → Option (Except SessionError Unit)
  | reentrant => some (.error .reentrant)
  | already | stopped => some (.ok ())
  | called | closed | joining | unjoined => none

/-- Whether the call has closed its session. -/
def hasClosed : StopStage → Bool
  | closed | joining | unjoined | stopped => true
  | called | reentrant | already => false

end StopStage

/-- A call that stops a session. -/
structure StopCall where
  thread : Thread
  session : SessionId
  stage : StopStage
  deriving DecidableEq, Repr

/-- A desk, and the calls that stop sessions. -/
structure Lobby (σ J R : Type) where
  desk : Desk σ J R
  /-- The steps of the desk so far. -/
  moves : List (Move J R)
  /-- The calls, in the order in which they came in. -/
  stops : List StopCall
  /-- The sessions whose owner's thread somebody has taken to join. -/
  joins : List SessionId
  /-- What the calls have noted, last line first. -/
  log : List LogLine

/-- What happens next: a step of the desk, or of a call. -/
inductive Errand (J R : Type)
  | move (m : Move J R)
  /-- A call comes in. -/
  | stop (t : Thread) (s : SessionId)
  /-- A call closes its session, or finds that it need not or must not. -/
  | close (i : Nat)
  /-- A call takes what the thread of the owner is joined by. -/
  | take (i : Nat)
  | join (i : Nat)

/-- Whether a step of a desk closes a session from outside. -/
def Move.isClose : Move J R → Bool
  | .act (.close _ _) => true
  | _ => false

namespace Lobby

/-- Nothing has happened yet. -/
def initial (g : σ) : Lobby σ J R := ⟨.initial g, [], [], [], []⟩

/-- A call comes to a stage. -/
def stage (l : Lobby σ J R) (i : Nat) (c : StopCall) (stage : StopStage) : Lobby σ J R :=
  { l with stops := l.stops.set i { c with stage } }

/-- A call comes in, for a session that was given to the host. -/
def stop (l : Lobby σ J R) (t : Thread) (s : SessionId) : Lobby σ J R :=
  if l.desk.launches[s]? = some (.returned none) then
    { l with stops := l.stops ++ [⟨t, s, .called⟩] }
  else l

def take (l : Lobby σ J R) (i : Nat) : Lobby σ J R :=
  match l.stops[i]? with
  | some c =>
    if c.stage = .closed then
      if c.session ∈ l.joins then l.stage i c .unjoined
      else { l.stage i c .joining with joins := l.joins ++ [c.session] }
    else l
  | none => l

/-- The call comes back, and notes that. -/
def finish (l : Lobby σ J R) (i : Nat) (c : StopCall) : Lobby σ J R :=
  let line := ⟨.info, "session stopped",
    [("live_handles", toString (l.desk.process.system.liveHandles c.session))]⟩
  { l.stage i c .stopped with log := line :: l.log }

def join (l : Lobby σ J R) (i : Nat) : Lobby σ J R :=
  match l.stops[i]? with
  | some c =>
    match c.stage, l.desk.process.owner c.session with
    | .joining, .gone => l.finish i c
    | .unjoined, _ => l.finish i c
    | _, _ => l
  | none => l

variable [GuestState σ] [HasHandles R]

/-- A step of the desk. -/
def move (l : Lobby σ J R) (m : Move J R) : Lobby σ J R :=
  { l with desk := l.desk.step m, moves := l.moves ++ [m] }

def close (l : Lobby σ J R) (i : Nat) : Lobby σ J R :=
  match l.stops[i]? with
  | some c =>
    if c.stage = .called ∧ l.desk.goesOn c.thread = true then
      match l.desk.process.system.close c.thread c.session with
      | .error _ => l.stage i c .reentrant
      | .ok (false, _) => l.stage i c .already
      | .ok (true, _) => (l.move (.act (.close c.thread c.session))).stage i c .closed
    else l
  | none => l

/-- One step of a call or of the desk. From outside, sessions are closed by calls alone. -/
def step (l : Lobby σ J R) : Errand J R → Lobby σ J R
  | .move m => if m.isClose then l else l.move m
  | .stop t s => l.stop t s
  | .close i => l.close i
  | .take i => l.take i
  | .join i => l.join i

/-- A run from the start, with the guest in a state. -/
def run (g : σ) (es : List (Errand J R)) : Lobby σ J R := es.foldl step (initial g)

theorem run_concat (g : σ) (es : List (Errand J R)) (e : Errand J R) :
    run g (es ++ [e]) = (run g es).step e :=
  List.foldl_append

omit [GuestState σ] [HasHandles R] in
/-- What a call notes is what a session says that has been stopped. -/
theorem finish_log (l : Lobby σ J R) (i : Nat) (c : StopCall) :
    (l.desk.process.system.noteStopped c.session).world.log =
      (l.finish i c).log.take 1 ++ l.desk.process.system.world.log :=
  rfl

end Lobby

/-! ### What stays on a desk -/

/-- A call that has come back does not go on. -/
theorem Launch.Next.not_returned {phase : Phase} {l l' : Launch} (next : Next phase l l')
    (reason : Option String) : l ≠ .returned reason := by
  cases next <;> simp

namespace Desk

variable {d d' : Desk σ J R} {m : Move J R} {s : SessionId}

/-- What steps of a desk do not take back. -/
structure Onward (d d' : Desk σ J R) : Prop where
  length : d.process.system.controls.length ≤ d'.process.system.controls.length
  returned : ∀ (s : SessionId) (reason : Option String),
    d.launches[s]? = some (.returned reason) → d'.launches[s]? = some (.returned reason)
  closed : ∀ s < d.process.system.controls.length, d.process.system.isRunning s = false →
    d'.process.system.isRunning s = false
  gone : ∀ s < d.process.system.controls.length, d.phase s = .gone → d'.phase s = .gone

variable [GuestState σ]

/-- What a call has given stays. -/
theorem Shift.returned (shift : d.Shift d') {reason : Option String}
    (there : d.launches[s]? = some (.returned reason)) :
    d'.launches[s]? = some (.returned reason) := by
  have other {u : SessionId} {l l' : Launch} (known : d.launches[u]? = some l)
      (launches : d'.launches = d.launches.set u l') (apart : l ≠ .returned reason) :
      d'.launches[s]? = some (.returned reason) := by
    have away : u ≠ s := by
      rintro rfl
      exact apart (Option.some.inj (known.symm.trans there))
    rw [launches, List.getElem?_set_ne away]
    exact there
  cases shift with
  | stays phase claimed launches => rw [launches]; exact there
  | proceeds u l l' known next phase claimed launches =>
      exact other known launches (next.not_returned reason)
  | enters u reason known passes launches => exact other known launches (by simp)
  | leaves u leaves passes launches => rw [launches]; exact there
  | withdraws u reason known passes launches => exact other known launches (by simp)
  | surrenders u before last own passes launches => rw [launches]; exact there
  | opens free taken new others launches =>
      rw [launches, List.getElem?_append_left (List.getElem?_eq_some_iff.mp there).1]
      exact there

/-- A closed session stays closed. -/
theorem Effect.closed [HasHandles R] (e : d.Effect m d') (sound : d.Sound)
    (known : s < d.process.system.controls.length)
    (closed : d.process.system.isRunning s = false) : d'.process.system.isRunning s = false := by
  rcases e.process with same | ⟨a, step⟩ | ⟨u, withdraw⟩
  · rw [same]
    exact closed
  · rw [step]
    exact sound.queued.closed known closed [a]
  · rw [withdraw]
    unfold System.withdraw
    split
    · have controls : (d.process.act (some ({ d.process.system with claimed := false }.modifyControl u
          fun c => { c with owner := .gone, accepting := false }))).system.controls =
          d.process.system.controls.modify u fun c => { c with owner := .gone, accepting := false } :=
        rfl
      rcases System.control_of_modify controls s with ⟨-, same⟩ | ⟨-, -, changed⟩
      · rw [System.isRunning, same]
        exact closed
      · rw [System.isRunning, changed]
    · exact closed

theorem Effect.onward [HasHandles R] (e : d.Effect m d') (sound : d.Sound) (tended : d.Tended) :
    d.Onward d' where
  length := by
    rw [← tended.length, ← e.length tended.length]
    exact e.shift.launches_length
  returned _ _ := e.shift.returned
  closed _ := e.closed sound
  gone _ := e.shift.gone

omit [GuestState σ] in
/-- A session that was given to the host has started. -/
theorem Tended.hasStarted (tended : d.Tended) (given : d.launches[s]? = some (.returned none)) :
    (d.process.owner s).hasStarted = true := by
  have fit := tended.fits s _ given
  cases owner : d.process.owner s <;>
    simp [Launch.phases, phase, Process.phase, owner, Owner.phase, Owner.hasStarted] at fit ⊢

/-- A session that was given to the host is closed by a call on a thread that is not its owner's. -/
theorem close_closes [HasHandles R] {t : Thread} (tended : d.Tended)
    (given : d.launches[s]? = some (.returned none)) (goesOn : d.goesOn t = true)
    (other : t ≠ .owner s) :
    (d.step (.act (.close t s))).process.system.isRunning s = false := by
  have started := tended.hasStarted given
  have known : s < d.process.system.controls.length := by
    rw [← tended.length]
    exact (List.getElem?_eq_some_iff.mp given).1
  change (d.inner (.close t s)).process.system.isRunning s = false
  rw [Desk.inner, if_pos (by simpa [Process.threadOf] using goesOn)]
  change (d.process.close t s).system.isRunning s = false
  rw [Process.close, if_pos started, System.close, if_neg other, System.isRunning,
    System.control_modifyControl _ _ known]

end Desk

namespace Lobby

/-! ### What a call knows -/

/-- What a call has seen to when it is at its stage. -/
structure Stands (l : Lobby σ J R) (c : StopCall) : Prop where
  given : l.desk.launches[c.session]? = some (.returned none)
  closed : c.stage.hasClosed = true ∨ c.stage = .already →
    l.desk.process.system.isRunning c.session = false
  own : c.stage = .reentrant → c.thread = .owner c.session
  waiting : c.stage = .closed → c.session ∉ l.joins
  joins : c.stage ≠ .unjoined
  ended : c.stage = .stopped → l.desk.phase c.session = .gone

/-- How the calls stand to the desk and to each other. -/
structure Attended (g : σ) [GuestState σ] [HasHandles R] (l : Lobby σ J R) : Prop where
  desk : l.desk = Desk.run g l.moves
  calls : ∀ (i : Nat) c, l.stops[i]? = some c → l.Stands c
  /-- A session is closed by one call at most. -/
  single : ∀ (i j : Nat) c c', l.stops[i]? = some c → l.stops[j]? = some c' → c.session = c'.session →
    c.stage.hasClosed = true → c'.stage.hasClosed = true → i = j
  taken : ∀ s ∈ l.joins, l.desk.launches[s]? = some (.returned none) ∧
    l.desk.process.system.isRunning s = false

variable {l l' : Lobby σ J R} {c c' : StopCall} {i j : Nat} {g : σ}

theorem stops_stage {x : StopCall} (there : (l.stops.set i x)[j]? = some c') :
    j = i ∧ c' = x ∨ j ≠ i ∧ l.stops[j]? = some c' := by
  rw [List.getElem?_set] at there
  by_cases same : i = j
  · subst same
    rw [if_pos rfl] at there
    split at there
    · exact .inl ⟨rfl, (Option.some.inj there).symm⟩
    · cases there
  · rw [if_neg same] at there
    exact .inr ⟨Ne.symm same, there⟩

variable [GuestState σ] [HasHandles R]

theorem Attended.sound (a : Attended g l) : l.desk.Sound := a.desk ▸ Desk.sound_run g l.moves

theorem Attended.tended (a : Attended g l) : l.desk.Tended :=
  a.desk ▸ (Desk.orderly_run g l.moves).tended

theorem Attended.onward (a : Attended g l) (m : Move J R) : l.desk.Onward (l.desk.step m) :=
  (Desk.effect_step l.desk m).onward a.sound a.tended

omit [GuestState σ] [HasHandles R] in
/-- A call stands as it did while the desk goes on. -/
theorem Stands.onward (s : l.Stands c) (tended : l.desk.Tended) (onward : l.desk.Onward l'.desk)
    (joins : c.stage = .closed → c.session ∉ l'.joins) : l'.Stands c := by
  have known : c.session < l.desk.process.system.controls.length := by
    rw [← tended.length]
    exact (List.getElem?_eq_some_iff.mp s.given).1
  exact ⟨onward.returned _ _ s.given, fun h => onward.closed _ known (s.closed h), s.own, joins,
    s.joins, fun h => onward.gone _ known (s.ended h)⟩

omit [GuestState σ] [HasHandles R] in
/-- What other calls do does not matter. -/
theorem Stands.same (s : l.Stands c) (desk : l'.desk = l.desk) (joins : l'.joins = l.joins) :
    l'.Stands c where
  given := desk ▸ s.given
  closed := desk ▸ s.closed
  own := s.own
  waiting := joins ▸ s.waiting
  joins := s.joins
  ended := desk ▸ s.ended

/-! ### Every step -/

theorem Attended.move (a : Attended g l) (m : Move J R) : Attended g (l.move m) where
  desk := by
    change l.desk.step m = Desk.run g (l.moves ++ [m])
    rw [Desk.run_concat, a.desk]
  calls i c there := (a.calls i c there).onward a.tended (a.onward m) (a.calls i c there).waiting
  single := a.single
  taken s hs := by
    obtain ⟨given, closed⟩ := a.taken s hs
    have known : s < l.desk.process.system.controls.length := by
      rw [← a.tended.length]
      exact (List.getElem?_eq_some_iff.mp given).1
    exact ⟨(a.onward m).returned _ _ given, (a.onward m).closed _ known closed⟩

/-- A call comes to a stage while the desk stays as it is. -/
theorem Attended.stage (a : Attended g l) (there : l.stops[i]? = some c) (stage : StopStage)
    (stands : l.Stands { c with stage })
    (first : stage.hasClosed = true → c.stage.hasClosed = true ∨
      ∀ (j : Nat) c', l.stops[j]? = some c' → c'.session = c.session → c'.stage.hasClosed = false) :
    Attended g (l.stage i c stage) where
  desk := a.desk
  calls j c' here := by
    rcases stops_stage here with ⟨-, rfl⟩ | ⟨-, old⟩
    · exact stands.same rfl rfl
    · exact (a.calls j c' old).same rfl rfl
  single j k c₁ c₂ here here' same closed closed' := by
    -- the call that has moved against one that has not
    have apart {k : Nat} {c' : StopCall} (other : k ≠ i) (old : l.stops[k]? = some c')
        (same : c'.session = c.session) (now : stage.hasClosed = true)
        (closed : c'.stage.hasClosed = true) : False := by
      rcases first now with before | none
      · exact other (a.single k i c' c old there same closed before)
      · rw [none k c' old same] at closed
        cases closed
    rcases stops_stage here with ⟨rfl, rfl⟩ | ⟨other, old⟩ <;>
      rcases stops_stage here' with ⟨rfl, rfl⟩ | ⟨other', old'⟩
    · rfl
    · exact (apart other' old' same.symm closed closed').elim
    · exact (apart other old same closed' closed).elim
    · exact a.single j k c₁ c₂ old old' same closed closed'
  taken := a.taken

theorem Attended.stop (a : Attended g l) (t : Thread) (s : SessionId) :
    Attended g (l.stop t s) := by
  unfold Lobby.stop
  split
  · rename_i given
    have new {j : Nat} {c : StopCall} (here : (l.stops ++ [⟨t, s, .called⟩])[j]? = some c) :
        l.stops[j]? = some c ∨ c = ⟨t, s, .called⟩ := by
      rw [List.getElem?_append] at here
      split at here
      · exact .inl here
      · exact .inr (List.mem_singleton.mp (List.mem_of_getElem? here))
    have comes : l.Stands ⟨t, s, .called⟩ :=
      { given
        closed := by simp [StopStage.hasClosed]
        own := by simp
        waiting := by simp
        joins := by simp
        ended := by simp }
    refine ⟨a.desk, fun i c here => ?_, fun i j c c' here here' same closed closed' => ?_, a.taken⟩
    · rcases new here with old | rfl
      · exact (a.calls i c old).same rfl rfl
      · exact comes.same rfl rfl
    · rcases new here with old | rfl
      · rcases new here' with old' | rfl
        · exact a.single i j c c' old old' same closed closed'
        · cases closed'
      · cases closed
  · exact a

theorem Attended.close (a : Attended g l) (i : Nat) : Attended g (l.close i) := by
  unfold Lobby.close
  cases there : l.stops[i]? with
  | none => exact a
  | some c =>
      have stands := a.calls i c there
      dsimp only
      split
      · rename_i now
        obtain ⟨called, goesOn⟩ := now
        by_cases own : c.thread = .owner c.session
        · rw [System.close, if_pos own]
          have refused : l.Stands { c with stage := .reentrant } :=
            { given := stands.given
              closed := by simp [StopStage.hasClosed]
              own := fun _ => own
              waiting := by simp
              joins := by simp
              ended := by simp }
          exact a.stage there .reentrant refused fun first => by cases first
        · rw [System.close, if_neg own]
          cases running : l.desk.process.system.isRunning c.session with
          | false =>
              have late : l.Stands { c with stage := .already } :=
                { given := stands.given
                  closed := fun _ => running
                  own := by simp
                  waiting := by simp
                  joins := by simp
                  ended := by simp }
              exact a.stage there .already late fun first => by cases first
          | true =>
              have b := a.move (.act (.close c.thread c.session))
              have closed := Desk.close_closes a.tended stands.given goesOn own
              have untaken : c.session ∉ l.joins := fun taken => by
                have earlier := (a.taken _ taken).2
                rw [running] at earlier
                cases earlier
              have closes : (l.move (.act (.close c.thread c.session))).Stands
                  { c with stage := .closed } :=
                { given := (b.calls i c there).given
                  closed := fun _ => closed
                  own := by simp
                  waiting := fun _ => untaken
                  joins := by simp
                  ended := by simp }
              -- the session was open, so no other call has closed it
              refine b.stage there .closed closes fun _ => .inr fun j c' here same => ?_
              by_contra before
              have earlier := (a.calls j c' here).closed (.inl (by simpa using before))
              rw [same, running] at earlier
              cases earlier
      · exact a

theorem Attended.take (a : Attended g l) (i : Nat) : Attended g (l.take i) := by
  unfold Lobby.take
  cases there : l.stops[i]? with
  | none => exact a
  | some c =>
      have stands := a.calls i c there
      dsimp only
      split
      · rename_i closed
        have free := stands.waiting closed
        rw [if_neg free]
        have running := stands.closed (.inl (by simp [closed, StopStage.hasClosed]))
        have joins : l.Stands { c with stage := .joining } :=
          { given := stands.given
            closed := fun _ => running
            own := by simp
            waiting := by simp
            joins := by simp
            ended := by simp }
        have b := a.stage there .joining joins fun _ => .inl (by simp [closed, StopStage.hasClosed])
        refine ⟨b.desk, fun j c' here => ?_, b.single, fun s hs => ?_⟩
        · have other := b.calls j c' here
          refine ⟨other.given, other.closed, other.own, fun closed' taken => ?_, other.joins,
            other.ended⟩
          rcases List.mem_append.mp taken with earlier | now
          · exact other.waiting closed' earlier
          · -- nobody else has closed the session
            rcases stops_stage here with ⟨-, rfl⟩ | ⟨away, old⟩
            · cases closed'
            · refine away (a.single j i c' c old there (List.mem_singleton.mp now) ?_ ?_)
              · simp [closed', StopStage.hasClosed]
              · simp [closed, StopStage.hasClosed]
        · rcases List.mem_append.mp hs with earlier | now
          · exact a.taken s earlier
          · rw [List.mem_singleton.mp now]
            exact ⟨stands.given, running⟩
      · exact a

theorem Attended.join (a : Attended g l) (i : Nat) : Attended g (l.join i) := by
  unfold Lobby.join
  cases there : l.stops[i]? with
  | none => exact a
  | some c =>
      have stands := a.calls i c there
      dsimp only
      split
      · rename_i joining gone
        have ends : l.Stands { c with stage := .stopped } :=
          { given := stands.given
            closed := fun _ => stands.closed (.inl (by simp [joining, StopStage.hasClosed]))
            own := by simp
            waiting := by simp
            joins := by simp
            ended := fun _ => by
              rw [Desk.phase, Process.phase, gone]
              rfl }
        have b := a.stage there .stopped ends fun _ => .inl (by simp [joining, StopStage.hasClosed])
        exact ⟨b.desk, fun j c' here => (b.calls j c' here).same rfl rfl, b.single, b.taken⟩
      · rename_i unjoined
        exact absurd unjoined stands.joins
      · exact a

/-- **Every step keeps the calls in order.** -/
theorem Attended.step (a : Attended g l) (e : Errand J R) : Attended g (l.step e) := by
  cases e with
  | move m =>
      unfold Lobby.step
      dsimp only
      split
      · exact a
      · exact a.move m
  | stop t s => exact a.stop t s
  | close i => exact a.close i
  | take i => exact a.take i
  | join i => exact a.join i

theorem attended_run (g : σ) (es : List (Errand J R)) : Attended g (run g es) := by
  induction es using List.reverseRecOn with
  | nil =>
      exact ⟨rfl, fun _ _ there => (nomatch there), fun _ _ _ _ there => (nomatch there),
        fun _ taken => absurd taken List.not_mem_nil⟩
  | append_singleton es e ih =>
      rw [run_concat]
      exact ih.step e

end Lobby

/-! ### The end -/

namespace Desk

variable [GuestState σ] [HasHandles R] {s : SessionId}

/-- A session has come to its end in a run. -/
structure Over (g : σ) (ms : List (Move J R)) (s : SessionId) : Prop where
  /-- Every job that was accepted has begun, in order, and has ended. -/
  jobs : begunIn ((run g ms).process.events s) = acceptedIn ((run g ms).process.events s) ∧
    (endedIn ((run g ms).process.events s)).map (·.1) =
      (acceptedIn ((run g ms).process.events s)).map (·.1)
  /-- The owner has left the guest in one step: the stream was put back or the failure noted, and the
  globals were emptied. -/
  left : ∃ before m after, ms = before ++ m :: after ∧
    Left (run g before) (run g (before ++ [m])) s
  /-- The session keeps neither globals nor modules. -/
  nothing : ((run g ms).process.system.world.session s).runtime = none
  /-- Nothing is parked any more. -/
  shut : (run g ms).process.isShut s
  /-- The claim has been given back, -/
  given : s ∈ (run g ms).surrendered
  /-- and until another session is opened it is free: the next call gets it. -/
  free : (run g ms).launches.length = s + 1 → (run g ms).claimed = false ∧
    ∀ config, ((run g ms).process.system.start config).1 ≠ .error .alreadyRunning ∧
      (run g (ms ++ [.call config])).calling (s + 1)

/-- An owner that has been in the guest and is gone has seen to everything. -/
theorem over_of_succeeded {g : σ} {ms : List (Move J R)} (succeeded : (run g ms).succeeded s)
    (gone : (run g ms).phase s = .gone) : Over g ms s := by
  have order := orderly_run g ms
  have known : s < (run g ms).launches.length := lt_of_word (succeeded_iff_word.mp succeeded)
  have owner : (run g ms).process.owner s = .gone := Owner.phase_gone.mp gone
  refine ⟨order.sound.queued.complete (by rw [owner]; rfl), ?_, ?_, order.sealed s succeeded gone,
    (order.tended.given s).mpr ⟨known, gone⟩, fun last => ?_⟩
  · obtain ⟨before, m, after, split, -, left⟩ := left_run g ms (.inr ⟨succeeded, gone⟩)
    exact ⟨before, m, after, split, left⟩
  · exact Option.map_eq_none_iff.mp (vacant_run g ms s (by simp [gone]))
  · have free : (run g ms).claimed = false := by
      by_contra taken
      obtain ⟨u, alive⟩ := order.sole.claimed.mp (by simpa using taken)
      have latest := latest_run g ms u alive
      rw [← order.tended.length, last] at latest
      exact alive (Nat.succ.inj latest ▸ gone)
    refine ⟨free, fun config => ⟨fun refused => ?_, ?_⟩⟩
    · have taken := (start_refused config).mp refused
      rw [free] at taken
      cases taken
    · rw [run_concat, ← last]
      exact calling_call config free

/-- So has one that was given to the host. -/
theorem over_of_gone {g : σ} {ms : List (Move J R)}
    (given : (run g ms).launches[s]? = some (.returned none)) (gone : (run g ms).phase s = .gone) :
    Over g ms s :=
  over_of_succeeded ⟨_, given, rfl⟩ gone

end Desk

namespace Lobby

variable [GuestState σ] [HasHandles R]

/-- What is promised about the calls that stop sessions, after a run. -/
structure Halted (g : σ) (es : List (Errand J R)) : Prop where
  /-- The desk has made the steps that were noted. -/
  desk : (run g es).desk = Desk.run g (run g es).moves
  /-- A call that has come back after it had closed its session has waited for the end. -/
  stopped : ∀ c ∈ (run g es).stops, c.stage = .stopped → Desk.Over g (run g es).moves c.session
  /-- A call that has come back without an error leaves its session closed, -/
  closed : ∀ c ∈ (run g es).stops, c.stage.answer = some (.ok ()) →
    (run g es).desk.process.system.isRunning c.session = false
  /-- and one that has come back with an error was made on the thread of the owner. -/
  reentrant : ∀ c ∈ (run g es).stops, ∀ e, c.stage.answer = some (.error e) →
    e = .reentrant ∧ c.thread = .owner c.session
  /-- At most one call closes a session, -/
  single : ∀ (i j : Nat) c c', (run g es).stops[i]? = some c → (run g es).stops[j]? = some c' →
    c.session = c'.session → c.stage.hasClosed = true → c'.stage.hasClosed = true → i = j
  /-- and it finds what it joins the thread of the owner by. -/
  joins : ∀ c ∈ (run g es).stops, c.stage ≠ .unjoined
  /-- It comes back once the owner is gone, and not before. -/
  waits : ∀ (i : Nat) c, (run g es).stops[i]? = some c → c.stage = .joining →
    ((run g (es ++ [.join i])).stops[i]? = some { c with stage := .stopped } ↔
      (run g es).desk.phase c.session = .gone)
  /-- A call that finds its session closed comes back at once and does nothing else. -/
  already : ∀ (i : Nat) c, (run g es).stops[i]? = some c → c.stage = .called →
    (run g es).desk.goesOn c.thread = true → c.thread ≠ .owner c.session →
    (run g es).desk.process.system.isRunning c.session = false →
    run g (es ++ [.close i]) = (run g es).stage i c .already

/-- **What has happened when a call comes back that stops a session.** Whatever the threads do, and
however many calls are under way: the call that has closed the session comes back when all accepted
jobs have ended, the owner has left the guest, and the claim was given back. -/
theorem halted_run (g : σ) (es : List (Errand J R)) : Halted g es := by
  have a := attended_run g es
  have stands {c : StopCall} (hc : c ∈ (run g es).stops) : (run g es).Stands c := by
    obtain ⟨i, hi⟩ := List.mem_iff_getElem?.mp hc
    exact a.calls i c hi
  refine {
    desk := a.desk
    stopped := fun c hc stopped => ?stopped
    closed := fun c hc ok => ?closed
    reentrant := fun c hc e failed => ?reentrant
    single := a.single
    joins := fun c hc => (stands hc).joins
    waits := fun i c there joining => ?waits
    already := fun i c there called goesOn other closed => ?already }
  case stopped =>
    have given := (stands hc).given
    have gone := (stands hc).ended stopped
    rw [a.desk] at given gone
    exact Desk.over_of_gone given gone
  case closed =>
    refine (stands hc).closed ?_
    cases stage : c.stage <;> rw [stage] at ok <;> simp [StopStage.answer, StopStage.hasClosed] at ok ⊢
  case reentrant =>
    cases stage : c.stage with
    | reentrant =>
        rw [stage] at failed
        cases failed
        exact ⟨rfl, (stands hc).own stage⟩
    | _ =>
        rw [stage] at failed
        cases failed
  case waits =>
    have lt := (List.getElem?_eq_some_iff.mp there).1
    rw [run_concat]
    change ((run g es).join i).stops[i]? = _ ↔ _
    unfold Lobby.join
    rw [there]
    dsimp only
    rw [joining]
    cases owner : (run g es).desk.process.owner c.session with
    | gone =>
        refine iff_of_true ?_ (by rw [Desk.phase, Process.phase, owner]; rfl)
        exact List.getElem?_set_self lt
    | _ =>
        refine iff_of_false (fun same => ?_) (by rw [Desk.phase, Process.phase, owner]; simp [Owner.phase])
        have before := congrArg (Option.map StopCall.stage) (there.symm.trans same)
        rw [Option.map_some, Option.map_some, joining] at before
        cases before
  case already =>
    rw [run_concat]
    change (run g es).close i = _
    unfold Lobby.close
    rw [there]
    dsimp only
    rw [if_pos ⟨called, goesOn⟩, System.close, if_neg other, closed]

/-! ### Coming back too early -/

/-- A session starts. -/
def starting : List (Errand Unit Unit) :=
  [.move (.call .standard), .move (.spawn 0), .move (.act (.prepare 0)), .move (.comeBack 0)]

/-- The owner of a session has a job while two calls stop the session. -/
def twice : List (Errand Unit Unit) :=
  starting ++ [.move (.act (.submit .host 0 ())), .move (.act (.receive 0)), .move (.act (.begin 0)),
    .stop .host 0, .stop .host 0, .close 0, .close 1]

/-- A call stops a session, whose owner comes to its end. -/
def once : List (Errand Unit Unit) :=
  starting ++ [.stop .host 0, .close 0, .take 0, .move (.act (.leave 0)), .move (.act (.shut 0)),
    .move (.act (.giveBack 0)), .move (.act (.surrender 0)), .join 0]

/-- The second of two calls has come back while a job is in work, so that no session can be started;
and in a guest that loads no module any more when the session ends, the only call comes back while
the sink of the session is still in the place of the stream. -/
theorem back_too_early :
    let busy := run (⟨Booth.original, none, none⟩ : Booth) twice
    let ended := run (⟨Booth.original, some 2, none⟩ : Booth) once
    (busy.stops.map (·.stage.answer) = [none, some (.ok ())] ∧
      acceptedIn (busy.desk.process.events 0) = [(0, ())] ∧
      (endedIn (busy.desk.process.events 0)).map (·.1) = [] ∧
      busy.desk.phase 0 = .inside ∧ busy.desk.claimed = true ∧
      (busy.desk.process.system.start .standard).1 = .error .alreadyRunning) ∧
    ended.stops.map (·.stage.answer) = [some (.ok ())] ∧ ended.desk.claimed = false ∧
      ended.desk.guest.out = Booth.sink 0 ∧ Booth.sink 0 ≠ Booth.original := by
  exact ⟨⟨rfl, rfl, rfl, rfl, rfl, rfl⟩, rfl, rfl, rfl, by decide⟩

end Lobby

end GuestBridge.Session
