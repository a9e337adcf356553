import GuestBridge.Bridge.Startup

/-!
# Sessions and their owners

A session has one owner, which alone enters the guest. The host gives jobs to the owner through a
queue; the owner takes them one at a time in the order in which they were accepted, and before each
it gives back the references that were released elsewhere. At most one session at a time holds the
claim on the guest.

What several threads do is modelled by small steps, each a function on the whole system; any order
of steps is a run. A step that cannot happen now gives nothing.

## The steps

* `claim`, `withdraw`, `prepare`, `abort` — starting a session, on the host and on its owner;
* `submit`, `close`, `closeFromJob` — giving a job to a session and closing it;
* `receive`, `begin`, `finish` — what the owner does for a job;
* `leave`, `shut`, `giveBack`, `surrender` — how the owner ends;
* `collect`, `forget` — what becomes of the result of a job;
* `release` — releasing a handle on any thread.

Where nothing comes between, steps are put together: `start`, `take`, `complete`, `exit`, `wait`,
`abandon`.
-/

namespace GuestBridge.Session

open Bridge

/-- What the owner of a session is doing. -/
inductive Owner (J : Type)
  | starting
  /-- The guest could not be entered; the claim has yet to be given back. -/
  | failed
  /-- Waiting for the next job. -/
  | idle
  /-- A job has left the queue; what was parked has yet to be given back. -/
  | taking (ticket : Nat) (job : J)
  | working (ticket : Nat) (job : J)
  /-- The guest has been left; references can still be parked. -/
  | leaving
  /-- Nothing is parked any more; what was parked last has yet to be given back. -/
  | shut (rest : List Guest.Ref)
  /-- All is done but for the claim. -/
  | left
  | gone
  deriving Inhabited

/-- How a job ended. -/
inductive Ending (R : Type)
  | returned (r : R)
  | panicked (message : String)
  deriving Inhabited

/-- What a wait for the job gives. -/
def Ending.answer {R : Type} : Ending R → Except SessionError R
  | returned r => .ok r
  | panicked _ => .error .jobPanicked

/-- A panic is noted. -/
def Ending.note {σ R : Type} (e : Ending R) (w : World σ) : World σ :=
  match e with
  | returned _ => w
  | panicked message => w.note .error "job panicked" [("message", message)]

/-- The handles that the result of a job holds. -/
def Ending.handles {R : Type} [HasHandles R] : Ending R → List Handle
  | returned r => HasHandles.handles r
  | panicked _ => []

/-- The state of a session's queue and owner. -/
structure Control (J R : Type) where
  config : SessionConfig
  /-- Whether the session takes jobs. -/
  accepting : Bool
  owner : Owner J
  /-- Jobs accepted and not taken yet, by their tickets. -/
  queue : List (Nat × J)
  /-- The number of jobs accepted so far, which is the ticket of the next one. -/
  accepted : Nat
  /-- Tickets whose results somebody may still ask for. -/
  wanted : List Nat
  /-- Results that nobody has collected yet. -/
  results : List (Nat × Ending R)
  deriving Inhabited

/-- What the owner of a session does after it has tried to enter the guest; `reason` says why it
could not. -/
def Control.prepared {J R : Type} (c : Control J R) (reason : Option String) : Control J R :=
  match reason with
  | none => { c with owner := .idle }
  | some _ => { c with owner := .failed, accepting := false }

/-- All sessions that were ever started, the guest, and the claim on it. -/
structure System (σ J R : Type) where
  world : World σ
  claimed : Bool
  controls : List (Control J R)
  deriving Inhabited

namespace System

variable {σ J R : Type}

/-- The queue and owner of a session. -/
def control (sys : System σ J R) (s : SessionId) : Control J R :=
  sys.controls.getD s ⟨.standard, false, .gone, [], 0, [], []⟩

/-- Changes the queue and owner of a session. -/
def modifyControl (sys : System σ J R) (s : SessionId) (f : Control J R → Control J R) :
    System σ J R :=
  { sys with controls := sys.controls.modify s f }

/-- Changes the world. -/
def modifyWorld (sys : System σ J R) (f : World σ → World σ) : System σ J R :=
  { sys with world := f sys.world }

/-- Adds a line to the log. -/
def note (sys : System σ J R) (level : Level) (message : String)
    (fields : List (String × String)) : System σ J R :=
  sys.modifyWorld fun w => w.note level message fields

/-- Whether a session takes jobs. -/
def isRunning (sys : System σ J R) (s : SessionId) : Bool := (sys.control s).accepting

/-- The number of handles of a session that exist. -/
def liveHandles (sys : System σ J R) (s : SessionId) : Nat := (sys.world.session s).live

/-! ### Starting -/

/-- The system with a new session, which has the claim and whose owner has yet to start. -/
def opened (sys : System σ J R) (config : SessionConfig) : System σ J R :=
  { sys with
    world := { sys.world with sessions := sys.world.sessions ++ [.fresh] }
    claimed := true
    controls := sys.controls ++ [⟨config, true, .starting, [], 0, [], []⟩] }

/-- Takes the claim for a new session. -/
def claim (sys : System σ J R) (config : SessionConfig) :
    Except SessionError (SessionId × System σ J R) :=
  if sys.claimed then .error .alreadyRunning
  else .ok (sys.controls.length, sys.opened config)

/-- Where the thread of the owner cannot be made, the host gives the claim back. -/
def withdraw (sys : System σ J R) (s : SessionId) : Option (System σ J R) :=
  match (sys.control s).owner with
  | .starting => some ({ sys with claimed := false }.modifyControl s fun c =>
      { c with owner := .gone, accepting := false })
  | _ => none

/-- The owner enters the guest. If it cannot, the session takes no jobs; the answer is the
reason. -/
def prepare [GuestState σ] (sys : System σ J R) (s : SessionId) :
    Option String × System σ J R :=
  let (reason, world) := enterGuest s (sys.control s).config sys.world
  (reason, { sys with world }.modifyControl s fun c => c.prepared reason)

/-- An owner that could not enter the guest gives the claim back. -/
def abort (sys : System σ J R) (s : SessionId) : Option (System σ J R) :=
  match (sys.control s).owner with
  | .failed => some ({ sys with claimed := false }.modifyControl s fun c => { c with owner := .gone })
  | _ => none

/-- Starts a session: takes the claim, lets the owner enter the guest and says how that went. -/
def start [GuestState σ] (sys : System σ J R) (config : SessionConfig) :
    Except SessionError SessionId × System σ J R :=
  match sys.claim config with
  | .error e => (.error e, sys)
  | .ok (s, sys) =>
    match sys.prepare s with
    | (none, sys) =>
      (.ok s, sys.note .info "session started" [("thread", config.threadName)])
    | (some message, sys) =>
      let e := SessionError.startup message
      let sys := (sys.abort s).getD sys
      (.error e, sys.note .error "session failed to start" [("error", e.text)])

/-! ### Jobs -/

/-- Gives a job to a session; the answer is its ticket. -/
def submit (sys : System σ J R) (t : Thread) (s : SessionId) (job : J) :
    Except SessionError (Nat × System σ J R) :=
  let c := sys.control s
  if t = .owner s then .error .reentrant
  else if c.accepting then
    .ok (c.accepted, sys.modifyControl s fun c =>
      { c with
        queue := c.queue ++ [(c.accepted, job)]
        accepted := c.accepted + 1
        wanted := c.accepted :: c.wanted })
  else .error .finalized

/-- The owner takes the next job from the queue. -/
def receive (sys : System σ J R) (s : SessionId) : Option (System σ J R) :=
  let c := sys.control s
  match c.owner, c.queue with
  | .idle, (ticket, job) :: rest =>
    some (sys.modifyControl s fun c => { c with owner := .taking ticket job, queue := rest })
  | _, _ => none

/-- The owner gives back what was parked and begins with the job that it took. -/
def begin (sys : System σ J R) (s : SessionId) : Option (J × System σ J R) :=
  match (sys.control s).owner with
  | .taking ticket job =>
    some (job, (sys.modifyWorld fun w => w.reclaim s).modifyControl s fun c =>
      { c with owner := .working ticket job })
  | _ => none

/-- The owner takes the next job and begins with it. -/
def take (sys : System σ J R) (s : SessionId) : Option (J × System σ J R) :=
  (sys.receive s).bind fun sys => sys.begin s

/-- The owner is done with its job. The result waits to be collected; if nobody wants it, it comes
back. -/
def finish (sys : System σ J R) (s : SessionId) (e : Ending R) :
    Option (Option (Ending R) × System σ J R) :=
  match (sys.control s).owner with
  | .working ticket _ =>
    let wanted := (sys.control s).wanted.contains ticket
    some (if wanted then none else some e, (sys.modifyWorld fun w => e.note w).modifyControl s fun c =>
      { c with
        owner := .idle
        results := if wanted then (ticket, e) :: c.results else c.results })
  | _ => none

/-- The owner is done with its job and drops a result that nobody wants. -/
def complete [HasHandles R] (sys : System σ J R) (s : SessionId) (e : Ending R) :
    Option (System σ J R) :=
  (sys.finish s e).map fun (unwanted, sys) =>
    sys.modifyWorld fun w => w.releaseAll (.owner s) (unwanted.elim [] Ending.handles)

/-- Nobody asks for the result of a job any more. -/
def forget (sys : System σ J R) (s : SessionId) (ticket : Nat) : System σ J R :=
  sys.modifyControl s fun c => { c with
    results := c.results.filter (·.1 != ticket)
    wanted := c.wanted.filter (· != ticket) }

/-- Collects the result of a job, once it is there. -/
def collect (sys : System σ J R) (s : SessionId) (ticket : Nat) :
    Option (Ending R × System σ J R) :=
  ((sys.control s).results.lookup ticket).map fun e => (e, sys.forget s ticket)

/-- Waits for a job: its answer, once it is there. -/
def wait (sys : System σ J R) (s : SessionId) (ticket : Nat) :
    Option (Except SessionError R × System σ J R) :=
  (sys.collect s ticket).map fun (e, sys) => (e.answer, sys)

/-- Gives up on the result of a job: a result that is there is dropped, a later one will be. -/
def abandon [HasHandles R] (sys : System σ J R) (t : Thread) (s : SessionId) (ticket : Nat) :
    System σ J R :=
  match sys.collect s ticket with
  | some (e, sys) => sys.modifyWorld fun w => w.releaseAll t e.handles
  | none => sys.forget s ticket

/-! ### Ending -/

/-- Closes a session: it takes no more jobs. The answer says whether it did until now. -/
def close (sys : System σ J R) (t : Thread) (s : SessionId) :
    Except SessionError (Bool × System σ J R) :=
  if t = .owner s then .error .reentrant
  else .ok (sys.isRunning s, sys.modifyControl s fun c => { c with accepting := false })

/-- A job drops the session that it belongs to: the owner goes on with what is queued and then
ends. -/
def closeFromJob (sys : System σ J R) (s : SessionId) : System σ J R :=
  let sys' := sys.modifyControl s fun c => { c with accepting := false }
  if sys.isRunning s then
    sys'.note .warn "session dropped on its owner thread, stopping after the current job" []
  else sys'

/-- The owner, with nothing left to do, leaves the guest. -/
def leave [GuestState σ] (sys : System σ J R) (s : SessionId) : Option (System σ J R) :=
  let c := sys.control s
  match c.owner, c.queue, c.accepting with
  | .idle, [], false =>
    some ({ sys with world := (leaveGuest s sys.world).2 }.modifyControl s fun c =>
      { c with owner := .leaving })
  | _, _, _ => none

/-- The owner takes what is parked for the last time. -/
def shut (sys : System σ J R) (s : SessionId) : Option (System σ J R) :=
  match (sys.control s).owner with
  | .leaving =>
    let (rest, world) := sys.world.closeParked s
    some ({ sys with world }.modifyControl s fun c => { c with owner := .shut rest })
  | _ => none

/-- The owner gives back what it took last. -/
def giveBack (sys : System σ J R) (s : SessionId) : Option (System σ J R) :=
  match (sys.control s).owner with
  | .shut rest =>
    let sys := sys.modifyWorld fun w => w.dropAll rest
    let sys := sys.note .trace "owner thread exiting" [("drained", toString rest.length)]
    some (sys.modifyControl s fun c => { c with owner := .left })
  | _ => none

/-- The owner gives the claim back. -/
def surrender (sys : System σ J R) (s : SessionId) : Option (System σ J R) :=
  match (sys.control s).owner with
  | .left => some ({ sys with claimed := false }.modifyControl s fun c => { c with owner := .gone })
  | _ => none

/-- The owner, with nothing left to do, leaves the guest, gives back what is parked for the last
time, and gives the claim back. -/
def exit [GuestState σ] (sys : System σ J R) (s : SessionId) : Option (System σ J R) :=
  ((sys.leave s).bind fun sys => sys.shut s).bind fun sys =>
    (sys.giveBack s).bind fun sys => sys.surrender s

/-- What is said when a session has been stopped. -/
def noteStopped (sys : System σ J R) (s : SessionId) : System σ J R :=
  sys.note .info "session stopped" [("live_handles", toString (sys.liveHandles s))]

/-! ### Handles and output -/

/-- Releases a handle on a thread. -/
def release (sys : System σ J R) (t : Thread) (h : Handle) : System σ J R :=
  sys.modifyWorld fun w => w.release t h

/-- Text captured and not taken yet. -/
def output (sys : System σ J R) (s : SessionId) : String := (sys.world.session s).output

/-- Forgets the captured text. -/
def clearOutput (sys : System σ J R) (s : SessionId) : System σ J R :=
  sys.modifyWorld fun w => w.modifySession s fun st => { st with output := "" }

/-- A session in debugging texts. -/
def debug (sys : System σ J R) (s : SessionId) : String :=
  debugOpenRecord "Session" [("running", toString (sys.isRunning s)),
    ("live_handles", toString (sys.liveHandles s))]

end System

end GuestBridge.Session
