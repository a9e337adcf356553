import GuestBridge.Proofs.Handles.Operation
import GuestBridge.Session.System

/-!
# A Process as a Machine

A process is a system together with the handles that exist, the releases that have begun, and what
happened so far. `Process.step` is one step of one thread; `Process.run` takes any steps in any
order. A step that cannot happen now changes nothing, so every list of actions is a run, and every
interleaving of the threads is one.

Releasing a handle is more than one step: it is counted out, and then given back, parked, or, where
nothing is parked any more, given back by the thread itself. The owner's last hold of the parked
references is more than one step as well. `Stage` says where a reference is in between.

Inside a job anything can happen that the bridge offers, in any order, with any answers of the
guest; a job can end with any result whose handles exist, or panic.
-/

namespace GuestBridge.Session

open Bridge

/-! ### Releases -/

/-- Where the reference of a handle is whose release has begun. -/
inductive Stage
  /-- Counted out, in the hand of the thread that releases. -/
  | counted
  /-- Still there, after the owner parks nothing any more. -/
  | refused
  | parked
  /-- In the hand of the owner, which took what was parked for the last time. -/
  | taken
  /-- Given back by the owner. -/
  | reclaimed
  /-- Given back by the thread that released. -/
  | dropped
  deriving DecidableEq, Repr

namespace Stage

/-- Whether somebody has the reference in hand. -/
def inHand : Stage → Bool
  | counted | refused | taken => true
  | parked | reclaimed | dropped => false

/-- Whether the reference was given back. -/
def given : Stage → Bool
  | reclaimed | dropped => true
  | counted | refused | parked | taken => false

/-- Whether the reference was ever parked. -/
def wasParked : Stage → Bool
  | parked | taken | reclaimed => true
  | counted | refused | dropped => false

end Stage

/-- The release of a handle on a thread. -/
structure Release where
  thread : Thread
  handle : Handle
  stage : Stage
  deriving DecidableEq, Repr

namespace Release

/-- The object whose reference is released. -/
def object (r : Release) : Guest.Ref := r.handle.object

/-- Whether a release belongs to a session and is at a stage. -/
def isAt (s : SessionId) (stage : Stage) (r : Release) : Bool :=
  r.handle.session = s && r.stage = stage

/-- The release at another stage, if it belongs to a session and is at a stage. -/
def move (s : SessionId) (stage after : Stage) (r : Release) : Release :=
  if r.isAt s stage then { r with stage := after } else r

end Release

/-- The numbers of the releases of a session that are at a stage. -/
def numbersAt (s : SessionId) (stage : Stage) (rs : List Release) : List Nat :=
  (List.range rs.length).filter fun i => (rs[i]?).any (Release.isAt s stage)

/-! ### Processes -/

/-- What happened to a job. -/
inductive Event (J R : Type)
  | accepted (ticket : Nat) (job : J)
  | began (ticket : Nat) (job : J)
  | ended (ticket : Nat) (e : Ending R)
  /-- A wait for the job came back. -/
  | answered (ticket : Nat) (answer : Except SessionError R)

/-- A system, and what its steps leave behind. -/
structure Process (σ J R : Type) where
  system : System σ J R
  /-- The handles that exist outside the results that nobody has collected. -/
  handles : List Handle
  /-- The releases that have begun, in order. -/
  releases : List Release
  /-- The releases whose references were given back, in order. -/
  returns : List Nat
  /-- How many references an owner said that it had given back, the last time first. -/
  reports : List (SessionId × Nat)
  /-- What happened to the jobs of sessions, in order. -/
  history : List (SessionId × Event J R)

/-- What a thread does next. -/
inductive Action (J R : Type)
  | claim (config : SessionConfig)
  | prepare (s : SessionId)
  | abort (s : SessionId)
  | submit (t : Thread) (s : SessionId) (job : J)
  | close (t : Thread) (s : SessionId)
  | closeFromJob (s : SessionId)
  | receive (s : SessionId)
  | begin (s : SessionId)
  | operate (s : SessionId) (op : Operation)
  | finish (s : SessionId) (e : Ending R)
  | collect (s : SessionId) (ticket : Nat)
  /-- A wait for a job runs out of time. -/
  | timeOut (s : SessionId) (ticket : Nat)
  /-- Nobody waits for a job any more. -/
  | abandon (s : SessionId) (ticket : Nat)
  | release (t : Thread) (h : Handle)
  /-- The release of a number goes on. -/
  | advance (i : Nat)
  | leave (s : SessionId)
  | shut (s : SessionId)
  | giveBack (s : SessionId)
  | surrender (s : SessionId)
  | clearOutput (s : SessionId)

/-- Whether a session was handed out to the host. -/
def Owner.hasStarted {J : Type} : Owner J → Bool
  | starting | failed => false
  | _ => true

namespace Process

variable {σ J R : Type}

/-- Nothing has happened yet. -/
def initial (g : σ) : Process σ J R := ⟨⟨⟨g, [], [], []⟩, false, []⟩, [], [], [], [], []⟩

/-- Something happened to a job. -/
def record (p : Process σ J R) (s : SessionId) (e : Event J R) : Process σ J R :=
  { p with history := p.history ++ [(s, e)] }

/-! ### Sessions and jobs -/

/-- The owner of a session. -/
def owner (p : Process σ J R) (s : SessionId) : Owner J := (p.system.control s).owner

def claim (p : Process σ J R) (config : SessionConfig) : Process σ J R :=
  match p.system.claim config with
  | .ok (_, system) => { p with system }
  | .error _ => p

def prepare [GuestState σ] (p : Process σ J R) (s : SessionId) : Process σ J R :=
  match p.owner s with
  | .starting => { p with system := (p.system.prepare s).2 }
  | _ => p

def submit (p : Process σ J R) (t : Thread) (s : SessionId) (job : J) : Process σ J R :=
  if (p.owner s).hasStarted then
    match p.system.submit t s job with
    | .ok (ticket, system) => { p with system }.record s (.accepted ticket job)
    | .error _ => p
  else p

def close (p : Process σ J R) (t : Thread) (s : SessionId) : Process σ J R :=
  if (p.owner s).hasStarted then
    match p.system.close t s with
    | .ok (_, system) => { p with system }
    | .error _ => p
  else p

def closeFromJob (p : Process σ J R) (s : SessionId) : Process σ J R :=
  match p.owner s with
  | .working _ _ => { p with system := p.system.closeFromJob s }
  | _ => p

/-- The owner gives back what was parked, and its job begins. -/
def begin (p : Process σ J R) (s : SessionId) : Process σ J R :=
  match p.owner s, p.system.begin s with
  | .taking ticket job, some (_, system) =>
    let n := (p.system.world.drain s).1
    { p with
      system
      releases := p.releases.map (Release.move s .parked .reclaimed)
      returns := p.returns ++ numbersAt s .parked p.releases
      reports := if n = 0 then p.reports else (s, n) :: p.reports }.record s (.began ticket job)
  | _, _ => p

/-- A job does something with the bridge. -/
def operate [GuestState σ] (p : Process σ J R) (s : SessionId) (op : Operation) : Process σ J R :=
  match p.owner s with
  | .working _ _ =>
    if op.used.Subperm p.handles then
      let (made, world) := op.run ⟨s⟩ p.system.world
      { p with system := { p.system with world }, handles := made ++ p.handles.diff op.used }
    else p
  | _ => p

/-- A job ends. A result that nobody wants is in the hands of the owner again. -/
def finish [HasHandles R] (p : Process σ J R) (s : SessionId) (e : Ending R) : Process σ J R :=
  if e.handles.Subperm p.handles then
    match p.owner s, p.system.finish s e with
    | .working ticket _, some (unwanted, system) =>
      { p with
        system
        handles := unwanted.elim [] Ending.handles ++ p.handles.diff e.handles }.record s
          (.ended ticket e)
    | _, _ => p
  else p

/-! ### Waiting -/

def collect [HasHandles R] (p : Process σ J R) (s : SessionId) (ticket : Nat) : Process σ J R :=
  match p.system.collect s ticket with
  | some (e, system) =>
    { p with system, handles := e.handles ++ p.handles }.record s (.answered ticket e.answer)
  | none => p

/-- Nobody waits for a job any more: what it left is in the hands of who gave up. -/
def abandon [HasHandles R] (p : Process σ J R) (s : SessionId) (ticket : Nat) : Process σ J R :=
  match p.system.collect s ticket with
  | some (e, system) => { p with system, handles := e.handles ++ p.handles }
  | none => { p with system := p.system.forget s ticket }

def timeOut [HasHandles R] (p : Process σ J R) (s : SessionId) (ticket : Nat) : Process σ J R :=
  if (p.system.control s).wanted.contains ticket then
    (p.abandon s ticket).record s (.answered ticket (.error .timedOut))
  else p

/-! ### Handles -/

/-- The release of a handle begins. -/
def release (p : Process σ J R) (t : Thread) (h : Handle) : Process σ J R :=
  if h ∈ p.handles then
    { p with
      system := p.system.modifyWorld fun w => w.countOut h.session
      handles := p.handles.erase h
      releases := p.releases ++ [⟨t, h, .counted⟩] }
  else p

/-- A release comes to a stage, in a world. -/
def moveTo (p : Process σ J R) (i : Nat) (r : Release) (stage : Stage) (world : World σ) :
    Process σ J R :=
  { p with
    system := { p.system with world }
    releases := p.releases.set i { r with stage }
    returns := if stage.given then p.returns ++ [i] else p.returns }

/-- A release goes on. -/
def advance (p : Process σ J R) (i : Nat) : Process σ J R :=
  let w := p.system.world
  match p.releases[i]? with
  | none => p
  | some r =>
    match r.stage with
    | .counted =>
      if r.thread = .owner r.handle.session then p.moveTo i r .dropped (w.drop r.object)
      else
        match w.park? r.handle.session r.object with
        | some world => p.moveTo i r .parked world
        | none => p.moveTo i r .refused w
    | .refused => p.moveTo i r .dropped (w.drop r.object)
    | _ => p

/-! ### Ending -/

/-- The owner takes what is parked for the last time. -/
def shut (p : Process σ J R) (s : SessionId) : Process σ J R :=
  match p.system.shut s with
  | some system =>
    { p with system, releases := p.releases.map (Release.move s .parked .taken) }
  | none => p

/-- The owner gives back what it took last. -/
def giveBack (p : Process σ J R) (s : SessionId) : Process σ J R :=
  match p.owner s, p.system.giveBack s with
  | .shut rest, some system =>
    { p with
      system
      releases := p.releases.map (Release.move s .taken .reclaimed)
      returns := p.returns ++ numbersAt s .taken p.releases
      reports := (s, rest.length) :: p.reports }
  | _, _ => p

/-- A step of the system alone, if it can happen. -/
def act (p : Process σ J R) (system : Option (System σ J R)) : Process σ J R :=
  { p with system := system.getD p.system }

/-! ### Runs -/

variable [GuestState σ] [HasHandles R]

/-- One step of one thread. -/
def step (p : Process σ J R) : Action J R → Process σ J R
  | .claim config => p.claim config
  | .prepare s => p.prepare s
  | .abort s => p.act (p.system.abort s)
  | .submit t s job => p.submit t s job
  | .close t s => p.close t s
  | .closeFromJob s => p.closeFromJob s
  | .receive s => p.act (p.system.receive s)
  | .begin s => p.begin s
  | .operate s op => p.operate s op
  | .finish s e => p.finish s e
  | .collect s ticket => p.collect s ticket
  | .timeOut s ticket => p.timeOut s ticket
  | .abandon s ticket => p.abandon s ticket
  | .release t h => p.release t h
  | .advance i => p.advance i
  | .leave s => p.act (p.system.leave s)
  | .shut s => p.shut s
  | .giveBack s => p.giveBack s
  | .surrender s => p.act (p.system.surrender s)
  | .clearOutput s => p.act (some (p.system.clearOutput s))

/-- Steps one after the other. -/
def steps (p : Process σ J R) (as : List (Action J R)) : Process σ J R := as.foldl step p

/-- A run from the start, with the guest in a state. -/
def run (g : σ) (as : List (Action J R)) : Process σ J R := (initial g).steps as

/-- What holds at the start and is kept by every step holds in every run. -/
theorem run_induction {P : Process σ J R → Prop} {g : σ} (start : P (initial g))
    (kept : ∀ p a, P p → P (step p a)) (as : List (Action J R)) : P (run g as) := by
  have from_ (as : List (Action J R)) : ∀ p, P p → P (p.steps as) := by
    induction as with
    | nil => exact fun _ h => h
    | cons a as ih => exact fun p h => ih _ (kept p a h)
  exact from_ as _ start

end Process

end GuestBridge.Session
