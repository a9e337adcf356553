import GuestBridge.Bridge.World

/-!
# Crossing the boundary

Computations of the bridge work on the world and can stop in two ways: by a failure, or by a panic,
which ends the job that runs. A crossing fails with an exception of the guest; an operation of the
bridge fails with an error. The only way from one to the other is `orError`, which says what was
being done when the exception was raised.

A context says in which session an operation runs. Each use of a handle checks that the handle
belongs to that session.
-/

namespace GuestBridge.Bridge

open Guest (Ref Kind ErrorKind Raised)

/-- How a computation stops early. -/
inductive Stop (ε : Type)
  | failed (e : ε)
  | panicked (message : String)
  deriving DecidableEq, Inhabited

/-- A computation that may fail with an exception of the guest. -/
abbrev Crossing (σ : Type) := ExceptT (Stop Raised) (StateM (World σ))

/-- An operation of the bridge. -/
abbrev Boundary (σ : Type) := ExceptT (Stop Error) (StateM (World σ))

/-- The session in whose job an operation runs. -/
structure Context where
  session : SessionId
  deriving DecidableEq, Repr, Inhabited

/-- What was being done when an exception was raised. -/
inductive Site
  /-- Looking up or setting an attribute. -/
  | member
  | call
  /-- Making or inspecting objects for the host. -/
  | convert
  /-- Compiling the text of a script. -/
  | compile
  /-- Running compiled code. -/
  | execute
  /-- Asking an iterator for its next element. -/
  | advance
  | length
  | importing (module : String)
  | subscript (container key : Ref)
  | iterate (target : Ref)
  deriving DecidableEq, Repr, Inhabited

variable {σ : Type}

section
variable [GuestState σ]

/-- Performs a request of the guest. -/
def request {α : Type} (r : Request α) : Crossing σ α := fun w =>
  match w.ask r with
  | (.ok a, w) => (.ok a, w)
  | (.error e, w) => (.error (.failed e), w)

/-- Performs a request; an exception is an ordinary answer. -/
def ask? {α : Type} (r : Request α) : StateM (World σ) (Except Raised α) := fun w => w.ask r

/-- Performs a request for what `f` makes of its answer; after an exception that is `otherwise`. -/
def askOr {α β : Type} (r : Request α) (f : α → β) (otherwise : β) : StateM (World σ) β := do
  match ← ask? r with
  | .ok a => return f a
  | .error _ => return otherwise

end

/-- A computation that cannot stop early, among those that can. -/
def always {ε α : Type} (x : StateM (World σ) α) : ExceptT (Stop ε) (StateM (World σ)) α :=
  ExceptT.lift x

/-- A panic: the job that runs is over. -/
def panicWith {ε α : Type} (message : String) : ExceptT (Stop ε) (StateM (World σ)) α :=
  throw (.panicked message)

/-! ### Handles in operations -/

/-- Makes a handle on an object. -/
def acquire (cx : Context) (r : Ref) : StateM (World σ) Handle := fun w => w.acquire cx.session r

/-- Releases a handle inside a job. -/
def releaseIn (cx : Context) (h : Handle) : StateM (World σ) Unit := fun w =>
  ((), w.release (.owner cx.session) h)

/-- The object of a handle, for use in a context. A handle of another session is refused. -/
def Handle.bind {ε : Type} (h : Handle) (cx : Context) : ExceptT (Stop ε) (StateM (World σ)) Ref :=
  if h.session = cx.session then pure h.object
  else panicWith "handle used with a context of a different session"

/-- A second handle to the same object. -/
def Handle.clone {ε : Type} (h : Handle) (cx : Context) :
    ExceptT (Stop ε) (StateM (World σ)) Handle := do
  let r ← h.bind cx
  return { (← always (acquire cx r)) with typeTag := h.typeTag }

/-! ### Exceptions as errors -/

/-- Adds a line to the log. -/
def note (level : Level) (message : String) (fields : List (String × String)) :
    StateM (World σ) Unit := fun w =>
  ((), w.note level message fields)

section
variable [GuestState σ]

/-- The text of a key in errors; a key whose text cannot be made has none. -/
def describeKey (key : Ref) : StateM (World σ) String :=
  askOr (.repr key) Text.lossy "<unrepresentable>"

/-- The traceback of an exception as text, if the exception passed through a frame. -/
def tracebackOf (e : Raised) : StateM (World σ) (Option String) :=
  if e.trace.isEmpty then pure none else askOr (.tracebackText e.trace) Text.toString? none

/-- What is kept of an exception as text. -/
def diagnose (e : Raised) : StateM (World σ) Diagnostic := do
  let typeName ← askOr (.typeName e.value) id "BaseException"
  let message ← askOr (.str e.value) Text.lossy ""
  let traceback ← tracebackOf e
  return ⟨typeName, message, traceback⟩

/-- Whether an exception belongs to a type of exceptions. -/
def isRaised (e : Raised) (k : ErrorKind) : StateM (World σ) Bool :=
  askOr (.belongs e.value (.error k)) id false

/-- A handle on the traceback of an exception, if the exception passed through a frame. -/
def acquireTraceback (cx : Context) (e : Raised) : StateM (World σ) (Option Handle) := do
  if e.trace.isEmpty then return none
  else
    match ← ask? (.newTraceback e.trace) with
    | .ok t => some <$> acquire cx t
    | .error _ => return none

/-- The error for an exception that has no more specific meaning where it was raised. -/
def foreignError (cx : Context) (e : Raised) (d : Diagnostic) : StateM (World σ) Error := do
  let exception ← acquire cx e.value
  let traceback ← acquireTraceback cx e
  return .foreignException exception traceback d

/-- The error that an exception becomes, by where it was raised and by its class. -/
def classify (cx : Context) (site : Site) (e : Raised) (d : Diagnostic) :
    StateM (World σ) Error := do
  match site with
  | .compile => return .runError (← acquire cx e.value) d
  | .importing module =>
    if ← isRaised e .importError then return .invalidModule module d else foreignError cx e d
  | .subscript container key =>
    if ← isRaised e .lookupError then
      let c ← acquire cx container
      return .indexError c (← describeKey key) d
    else foreignError cx e d
  | .iterate target =>
    if ← isRaised e .typeError then return .invalidCall (← acquire cx target) d.message
    else foreignError cx e d
  | _ => foreignError cx e d

/-- Turns an exception into an error and notes it. -/
def failure (cx : Context) (site : Site) (e : Raised) : StateM (World σ) Error := do
  let d ← diagnose e
  let error ← classify cx site e d
  note .debug "translated foreign failure" [("kind", error.kindName)]
  return error

/-- Fails with the error that an exception becomes. -/
def failWith {α : Type} (cx : Context) (site : Site) (e : Raised) : Boundary σ α := do
  throw (.failed (← always (failure cx site e)))

/-- Runs a crossing as part of an operation; an exception becomes an error. -/
def Crossing.orError {α : Type} (x : Crossing σ α) (cx : Context) (site : Site) : Boundary σ α :=
  fun w =>
    match x w with
    | (.ok a, w) => (.ok a, w)
    | (.error (.panicked m), w) => (.error (.panicked m), w)
    | (.error (.failed e), w) => failWith cx site e w

/-- Performs a request as part of an operation. -/
def perform {α : Type} (cx : Context) (site : Site) (r : Request α) : Boundary σ α :=
  Crossing.orError (request r) cx site

/-! ### Refusals of the bridge itself -/

/-- Refuses to call an object that cannot be called. -/
def notCallable {α : Type} (cx : Context) (callee : Ref) : Boundary σ α := do
  let h ← always (acquire cx callee)
  let name ← always (askOr (.typeName callee) id "<unknown>")
  always (note .debug "rejected call before crossing" [("kind", "invalid_call")])
  throw (.failed (.invalidCall { h with typeTag := some name }
    ("'" ++ name ++ "' object is not callable")))

/-- Refuses a key that a mapping does not have. -/
def missingEntry {α : Type} (cx : Context) (container key : Ref) : Boundary σ α := do
  let text ← always (describeKey key)
  always (note .debug "mapping key absent" [("kind", "index_error"), ("key", text)])
  throw (.failed (.indexError (← always (acquire cx container)) text ⟨"KeyError", text, none⟩))

/-- Refuses an index that a sequence does not have. -/
def indexOutOfRange {α : Type} (cx : Context) (container : Ref) (index : Int) (length : Nat) :
    Boundary σ α := do
  always (note .debug "sequence index out of range"
    [("kind", "index_error"), ("index", toString index),
    ("len", toString length)])
  throw (.failed (.indexError (← always (acquire cx container)) (toString index)
    ⟨"IndexError", "index " ++ toString index ++ " out of range for length " ++ toString length,
      none⟩))

end

end GuestBridge.Bridge
