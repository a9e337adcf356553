import GuestBridge.Bridge.Console
import GuestBridge.Session.System
import GuestBridge.Workbench.Perform

/-!
# The workbench

A workbench is a host program that runs sessions step by step. It keeps sessions and pending jobs
under names; each step starts or ends a session, gives a job to one, waits for one, or looks at
what a session has captured. The owners do all they can before a step answers, except that a gate
holds an owner inside a job until it is opened.

After every step each running session gets an empty job, so that its owner gives back what the step
released elsewhere.
-/

namespace GuestBridge.Workbench

open Bridge Session

/-- What the owner of a session is given to do. -/
inductive Task
  | perform (job : Job)
  /-- Holds the owner until the gate is opened. -/
  | gate
  /-- Does nothing; the owner gives back what was parked. -/
  | settle
  /-- Drops the session that the task belongs to. -/
  | dropSession
  /-- Tries to run a job, to submit one and to stop, all on the task's own session. -/
  | reenter (job : Job)
  deriving Inhabited

/-- The outcome of a task holds no handles: what it tells is plain data. -/
instance : HasHandles Outcome := ⟨fun _ => []⟩

/-- A job that waits under a name: its session and ticket, unless it was refused. -/
abbrev Pending := Except SessionError (SessionId × Nat)

/-- A job that waits, in debugging texts. -/
def Pending.debug (p : Pending) : String :=
  debugRecord "Pending" [("queued", toString p.toBool)]

/-- The state of a workbench. -/
structure Bench (σ : Type) where
  system : System σ Task Outcome
  store : Store
  sessions : Named SessionId
  pendings : Named Pending
  /-- The output stream of the guest outside capturing sessions. -/
  console : Guest.Ref

/-- A step of a workbench. Sessions and pending jobs are given by their names. -/
inductive Step
  | run (session : String) (job : Job)
  /-- Releasing on a thread of the host. -/
  | release (handle : String)
  | dropError (error : String)
  | start (session : String) (config : SessionConfig)
  | stop (session : String)
  | dropSession (session : String)
  | dropSessionInJob (session : String)
  | isRunning (session : String)
  | debugSession (session : String)
  | output (session : String)
  | takeOutput (session : String)
  | clearOutput (session : String)
  /-- What reached the guest's own output stream. -/
  | consoleOutput
  | submit (session pending : String) (job : Job)
  /-- Waits for a pending job, without a limit or for a while. -/
  | wait (pending : String)
  | gate (session : String)
  | openGate (session : String)
  | reenter (session : String) (job : Job)
  /-- Runs a job so many times, from several threads. -/
  | repeatJob (session : String) (times : Nat) (job : Job)
  deriving Inhabited

/-- What a step answers. -/
inductive Reply
  | outcome (o : Outcome)
  | refused (e : SessionError)

/-- What is told after a step. -/
structure StepReport where
  reply : Reply
  /-- The job that was waited for, as it was before. -/
  waited : Option Pending
  /-- The number of handles of each session that has not been dropped. -/
  live : List (String × Nat)
  log : List LogLine

namespace Bench

variable {σ : Type} [GuestState σ]

/-- Changes the system. -/
def modifySystem (b : Bench σ) (f : System σ Task Outcome → System σ Task Outcome) : Bench σ :=
  { b with system := f b.system }

/-! ### Owners -/

/-- A step that answers plainly. -/
def told (a : Answer) : Ending Outcome := .returned (.ok a)

/-- What the owner of a session does for a task that does not hold it. -/
def carryOut (b : Bench σ) (s : SessionId) : Task → Ending Outcome × Bench σ
  | .perform j =>
    let thread := (b.system.control s).config.threadName
    let (r, world, store) := (j.perform thread ⟨s⟩).run (b.system.world, b.store)
    let b := { b with system := { b.system with world := (world.ask .settle).2 }, store }
    match r with
    | .ok o => (.returned o, b)
    | .error (.panicked message) => (.panicked message, b)
    | .error (.failed e) => (.panicked e.text, b)
  | .dropSession =>
    (told (.flag (b.system.isRunning s)), b.modifySystem (System.closeFromJob · s))
  | .reenter j =>
    let refusal {α : Type} : Except SessionError α → List SessionError
      | .error e => [e]
      | .ok _ => []
    let submitted := refusal (b.system.submit (.owner s) s (.perform j))
    let stopped := refusal (b.system.close (.owner s) s)
    (told (.refusals (submitted ++ submitted ++ stopped)), b)
  | .gate => (told .nothing, b)
  | .settle =>
    (told .nothing, b.modifySystem fun sys => { sys with world := (sys.world.ask .settle).2 })

/-- Lets the owner of a session do all that it can: the jobs of its queue in order, up to a gate,
and its exit when the session takes no more. `fuel` bounds the number of jobs. -/
def drive (s : SessionId) : (fuel : Nat) → Bench σ → Bench σ
  | 0, b => b
  | fuel + 1, b =>
    match b.system.take s with
    | some (.gate, system) => { b with system }
    | some (task, system) =>
      let (ending, b) := carryOut { b with system } s task
      match b.system.complete s ending with
      | some system => drive s fuel { b with system }
      | none => b
    | none => { b with system := (b.system.exit s).getD b.system }

/-- Lets the owner of a session do all that it can. -/
def catchUp (b : Bench σ) (s : SessionId) : Bench σ :=
  drive s ((b.system.control s).queue.length + 1) b

/-- Opens the gate that holds the owner of a session, if there is one. -/
def openGate (b : Bench σ) (s : SessionId) : Bench σ :=
  match (b.system.control s).owner with
  | .working _ .gate =>
    { b with system := (b.system.complete s (told .nothing)).getD b.system }.catchUp s
  | _ => b

/-- Whether a gate holds the owner of a session. -/
def isGated (b : Bench σ) (s : SessionId) : Bool :=
  match (b.system.control s).owner with
  | .working _ .gate => true
  | _ => false

/-- Gives a task to the owner of a session. -/
def submit (b : Bench σ) (s : SessionId) (task : Task) : Pending × Bench σ :=
  match b.system.submit .host s task with
  | .error e => (.error e, b)
  | .ok (ticket, system) => (.ok (s, ticket), { b with system }.catchUp s)

/-- Waits for a job. One that a gate holds back does not come in time. -/
def await (b : Bench σ) : Pending → Reply × Bench σ
  | .error e => (.refused e, b)
  | .ok (s, ticket) =>
    match b.system.wait s ticket with
    | some (.ok o, system) => (.outcome o, { b with system })
    | some (.error e, system) => (.refused e, { b with system })
    | none => (.refused .timedOut, b.modifySystem (System.abandon · .host s ticket))

/-- Gives a task to the owner of a session and waits for it. -/
def runTask (b : Bench σ) (s : SessionId) (task : Task) : Reply × Bench σ :=
  let (pending, b) := b.submit s task
  b.await pending

/-- Stops a session. -/
def stop (b : Bench σ) (s : SessionId) : Bench σ :=
  let b := b.openGate s
  match b.system.close .host s with
  | .ok (true, system) => ({ b with system }.catchUp s).modifySystem (System.noteStopped · s)
  | _ => b

/-! ### Steps -/

/-- A reply with an answer. -/
def reply (a : Answer) : Reply := .outcome (.ok a)

/-- Does something with the session of a name; without one the step is refused. -/
def withSession (b : Bench σ) (name : String) (f : SessionId → Reply × Bench σ) :
    Reply × Bench σ :=
  match b.sessions.get? name with
  | some s => f s
  | none => (.refused .finalized, b)

/-- Releases handles on a thread of the host. -/
def releaseOnHost (b : Bench σ) (hs : List Handle) : Bench σ :=
  b.modifySystem fun sys => hs.foldl (fun sys h => sys.release .host h) sys

/-- Starts a session under a name; a session that had the name is dropped. -/
def start (b : Bench σ) (name : String) (config : SessionConfig) : Reply × Bench σ :=
  match b.system.start config with
  | (.error e, system) => (.refused e, { b with system })
  | (.ok s, system) =>
    let b := { b with system }
    let b := match b.sessions.get? name with
      | some old => b.stop old
      | none => b
    (reply (.text (b.system.debug s)), { b with sessions := b.sessions.put name s })

/-- Runs a job several times and counts how often it succeeds. -/
def repeatJob (s : SessionId) (job : Job) :
    (times : Nat) → (succeeded : Nat) → Bench σ → Nat × Bench σ
  | 0, n, b => (n, b)
  | times + 1, n, b =>
    match b.runTask s (.perform job) with
    | (.outcome (.ok _), b) => repeatJob s job times (n + 1) b
    | (_, b) => repeatJob s job times n b

/-- Performs a step. -/
def perform (b : Bench σ) : Step → Reply × Bench σ
  | .run name job => b.withSession name fun s => b.runTask s (.perform job)
  | .release name =>
    match b.store.handles.get? name with
    | some h =>
      (reply .nothing, { b with
        store := { b.store with handles := b.store.handles.erase name } }.releaseOnHost [h])
    | none => (reply .nothing, b)
  | .dropError name =>
    match b.store.errors.get? name with
    | some e =>
      (reply .nothing, { b with
        store := { b.store with errors := b.store.errors.erase name } }.releaseOnHost e.handles)
    | none => (reply .nothing, b)
  | .start name config => b.start name config
  | .stop name => b.withSession name fun s => (reply .nothing, b.stop s)
  | .dropSession name => b.withSession name fun s =>
    (reply .nothing, { b.stop s with sessions := b.sessions.erase name })
  | .dropSessionInJob name => b.withSession name fun s =>
    { b with sessions := b.sessions.erase name }.runTask s .dropSession
  | .isRunning name => b.withSession name fun s => (reply (.flag (b.system.isRunning s)), b)
  | .debugSession name => b.withSession name fun s => (reply (.text (b.system.debug s)), b)
  | .output name => b.withSession name fun s => (reply (.text (b.system.output s)), b)
  | .takeOutput name => b.withSession name fun s =>
    (reply (.text (b.system.output s)), b.modifySystem (System.clearOutput · s))
  | .clearOutput name => b.withSession name fun s =>
    (reply .nothing, b.modifySystem (System.clearOutput · s))
  | .consoleOutput =>
    let (text, world) := b.system.world.collectedText b.console
    (reply (.text text), { b with system := { b.system with world } })
  | .submit name pending job => b.withSession name fun s =>
    let (p, b) := b.submit s (.perform job)
    (reply .nothing, { b with pendings := b.pendings.put pending p })
  | .wait pending =>
    match b.pendings.get? pending with
    | some p => { b with pendings := b.pendings.erase pending }.await p
    | none => (.refused .finalized, b)
  | .gate name => b.withSession name fun s =>
    match b.submit s .gate with
    | (.error e, b) => (.refused e, b)
    | (.ok _, b) => (reply .nothing, b)
  | .openGate name => b.withSession name fun s => (reply .nothing, b.openGate s)
  | .reenter name job => b.withSession name fun s => b.runTask s (.reenter job)
  | .repeatJob name times job => b.withSession name fun s =>
    let (n, b) := repeatJob s job times 0 b
    (reply (.succeeded n), b)

/-- Gives an empty job to each session that takes jobs and is not held by a gate. -/
def settle (b : Bench σ) : Bench σ :=
  b.sessions.foldl (fun b (_, s) => if b.isGated s then b else (b.runTask s .settle).2) b

/-- Performs a step, lets things settle and tells what happened. -/
def step (b : Bench σ) (x : Step) : StepReport × Bench σ :=
  let waited := match x with
    | .wait pending => b.pendings.get? pending
    | _ => none
  let (reply, b) := { b with system := { b.system with
    world := { b.system.world with log := [] } } }.perform x
  let b := b.settle
  (⟨reply, waited, b.sessions.map fun (name, s) => (name, b.system.liveHandles s),
    b.system.world.log.reverse⟩, b)

/-- Performs steps in order. -/
def steps (b : Bench σ) : List Step → List StepReport
  | [] => []
  | x :: xs =>
    let (report, b) := b.step x
    report :: steps b xs

/-- A workbench on a guest in which no session has started. -/
def new (guest : σ) : Bench σ :=
  let (console, world) := (World.new guest).outputStream
  ⟨⟨world, false, []⟩, {}, [], [], console⟩

end Bench

end GuestBridge.Workbench
