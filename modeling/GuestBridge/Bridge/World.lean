import GuestBridge.Bridge.Request

/-!
# The bridge's side of sessions

What the bridge keeps about each session: how many handles exist, the references that were released
where the guest could not be entered, the captured output, and the objects that the session itself
lives on. Handles are taken and released here and nowhere else, so the count of handles and the
references held on each object are kept by two functions.

## Main statements

* `World.held_acquire`, `World.live_acquire` — taking a handle adds one reference and one to the
  count;
* `World.live_release` — releasing a handle takes one from the count.
-/

namespace GuestBridge.Bridge

open Guest (Ref Raised)

/-! ### Log lines

What the bridge tells about its work as it goes: a level, a message and named fields. Lines are data
here; whoever runs the bridge decides what to do with them.
-/

/-- How important a line is. -/
inductive Level
  | error | warn | info | debug | trace
  deriving DecidableEq, Repr, Inhabited

/-- The name of a level in a log. -/
def Level.name : Level → String
  | error => "ERROR"
  | warn => "WARN"
  | info => "INFO"
  | debug => "DEBUG"
  | trace => "TRACE"

/-- A line of the log. -/
structure LogLine where
  level : Level
  message : String
  fields : List (String × String)
  deriving DecidableEq, Repr, Inhabited

/-- The text of a line: level and message, then each field with its value. -/
def LogLine.render (l : LogLine) : String :=
  l.level.name ++ " " ++ l.message ++
    String.join (l.fields.map fun (id, v) => " " ++ id ++ "=" ++ v)

/-- The objects that a session lives on. -/
structure Runtime where
  /-- The file name of the session's scripts. -/
  scriptName : String
  /-- The module of built-in names. -/
  builtins : Ref
  /-- The dictionary in which scripts run. -/
  globals : Ref
  /-- Modules already loaded, by name. -/
  modules : List (String × Ref)
  /-- The function that passes repeated keywords on. -/
  keywordCall : Ref
  /-- The stream that output capture replaced. -/
  previousOutput : Option Ref
  deriving DecidableEq, Repr, Inhabited

/-- The objects that a session holds for itself. -/
def Runtime.refs (r : Runtime) : List Ref :=
  r.builtins :: r.globals :: r.keywordCall :: r.modules.map (·.2) ++ r.previousOutput.toList

/-- What the bridge keeps about a session. -/
structure SessionState where
  /-- The number of handles that exist. -/
  live : Nat
  /-- References released off the owner, to be given back there; `none` once the owner has given
  all of them back for the last time. -/
  parked : Option (List Ref)
  /-- Text written to the session's sink and not taken yet. -/
  output : String
  /-- What the session lives on, while it runs. -/
  runtime : Option Runtime
  deriving DecidableEq, Repr, Inhabited

/-- A session that has not started yet. -/
def SessionState.fresh : SessionState := ⟨0, some [], "", none⟩

/-- The guest and what the bridge keeps on its own side. -/
structure World (σ : Type) where
  guest : σ
  /-- The objects that the bridge holds, once for each reference. -/
  held : List Ref
  sessions : List SessionState
  /-- The log, last line first. -/
  log : List LogLine
  deriving Inhabited

/-- The thread of control that does something: the owner of a session, or one of the host's own. -/
inductive Thread
  | owner (s : SessionId)
  | host
  deriving DecidableEq, Repr, Inhabited

namespace World

variable {σ : Type}

/-- What the bridge keeps about a session. -/
def session (w : World σ) (s : SessionId) : SessionState := w.sessions.getD s .fresh

/-- Changes what the bridge keeps about a session. -/
def modifySession (w : World σ) (s : SessionId) (f : SessionState → SessionState) : World σ :=
  { w with sessions := w.sessions.modify s f }

/-- Adds a line to the log. -/
def note (w : World σ) (level : Level) (message : String) (fields : List (String × String)) :
    World σ :=
  { w with log := ⟨level, message, fields⟩ :: w.log }

/-! ### References -/

/-- Takes one reference on an object. -/
def hold (w : World σ) (r : Ref) : World σ := { w with held := r :: w.held }

/-- Gives one reference on an object back. -/
def drop (w : World σ) (r : Ref) : World σ := { w with held := w.held.erase r }

/-- Gives references back. -/
def dropAll (w : World σ) (rs : List Ref) : World σ := rs.foldl drop w

/-- Makes a handle of a session on an object. -/
def acquire (w : World σ) (s : SessionId) (r : Ref) : Handle × World σ :=
  (⟨r, s, none⟩, (w.hold r).modifySession s fun st => { st with live := st.live + 1 })

/-- Counts a handle of a session out: its release has begun. -/
def countOut (w : World σ) (s : SessionId) : World σ :=
  w.modifySession s fun st => { st with live := st.live - 1 }

/-- Parks a reference for the owner of a session; nothing once the owner has given back what was
parked for the last time. -/
def park? (w : World σ) (s : SessionId) (r : Ref) : Option (World σ) :=
  (w.session s).parked.map fun rs =>
    w.modifySession s fun st => { st with parked := some (rs ++ [r]) }

/-- Releases a handle. Its reference is given back at once on the owner of its session and after
the owner is done; elsewhere it is parked until the owner finds the time. -/
def release (w : World σ) (t : Thread) (h : Handle) : World σ :=
  let w := w.countOut h.session
  if t = .owner h.session then w.drop h.object
  else (w.park? h.session h.object).getD (w.drop h.object)

/-- Releases several handles. -/
def releaseAll (w : World σ) (t : Thread) (hs : List Handle) : World σ :=
  hs.foldl (fun w h => w.release t h) w

/-- Gives back what was parked and says how much it was. -/
def drain (w : World σ) (s : SessionId) : Nat × World σ :=
  match (w.session s).parked with
  | some rs => (rs.length, (w.dropAll rs).modifySession s fun st => { st with parked := some [] })
  | none => (0, w)

/-- Gives back what was parked and notes how much it was, if it was anything. -/
def reclaim (w : World σ) (s : SessionId) : World σ :=
  let (drained, w) := w.drain s
  if drained = 0 then w
  else w.note .trace "dropped references released off the owner thread"
    [("drained", toString drained)]

/-- Takes what is parked for the last time: from now on nothing is parked. -/
def closeParked (w : World σ) (s : SessionId) : List Ref × World σ :=
  ((w.session s).parked.getD [], w.modifySession s fun st => { st with parked := none })

/-! ### Asking the guest -/

/-- Adds text to the captured output of a session. -/
def write (w : World σ) (s : SessionId) (text : String) : World σ :=
  w.modifySession s fun st => { st with output := st.output ++ text }

/-- Performs a request; what it writes reaches the sinks of the sessions. -/
def ask [GuestState σ] {α : Type} (w : World σ) (r : Request α) : Except Raised α × World σ :=
  let (result, writes, guest) := GuestState.perform w.held r w.guest
  (result, writes.foldl (fun w (s, text) => w.write s text) { w with guest })

/-! ### Laws -/

@[simp] theorem held_modifySession (w : World σ) (s : SessionId) (f) :
    (w.modifySession s f).held = w.held := rfl

@[simp] theorem guest_modifySession (w : World σ) (s : SessionId) (f) :
    (w.modifySession s f).guest = w.guest := rfl

@[simp] theorem held_acquire (w : World σ) (s : SessionId) (r : Ref) :
    (w.acquire s r).2.held = r :: w.held := rfl

theorem session_modifySession (w : World σ) (s : SessionId) (f) (h : s < w.sessions.length) :
    (w.modifySession s f).session s = f (w.session s) := by
  simp [session, modifySession, List.getD_eq_getElem?_getD, h]

theorem session_modifySession_ne (w : World σ) {s t : SessionId} (f) (h : s ≠ t) :
    (w.modifySession s f).session t = w.session t := by
  simp [session, modifySession, List.getD_eq_getElem?_getD, h]

theorem live_acquire (w : World σ) (s : SessionId) (r : Ref) (h : s < w.sessions.length) :
    ((w.acquire s r).2.session s).live = (w.session s).live + 1 := by
  have hs : s < (w.hold r).sessions.length := h
  simp only [acquire, session_modifySession _ _ _ hs]
  rfl

@[simp] theorem session_drop (w : World σ) (r : Ref) (s : SessionId) :
    (w.drop r).session s = w.session s := rfl

@[simp] theorem length_modifySession (w : World σ) (s : SessionId) (f) :
    (w.modifySession s f).sessions.length = w.sessions.length := by
  simp [modifySession]

theorem live_release (w : World σ) (t : Thread) (h : Handle)
    (hs : h.session < w.sessions.length) :
    ((w.release t h).session h.session).live = (w.session h.session).live - 1 := by
  have hc : ((w.countOut h.session).session h.session).live = (w.session h.session).live - 1 := by
    rw [countOut, session_modifySession _ _ _ hs]
  simp only [release]
  split
  · exact hc
  · cases hp : ((w.countOut h.session).session h.session).parked with
    | none =>
        simp only [park?, hp, Option.map_none, Option.getD_none]
        exact hc
    | some rs =>
        simp only [park?, hp, Option.map_some, Option.getD_some]
        rw [session_modifySession _ _ _ (by simpa [countOut] using hs)]
        exact hc

theorem guest_release (w : World σ) (t : Thread) (h : Handle) : (w.release t h).guest = w.guest := by
  simp only [release, park?]
  split
  · rfl
  · cases ((w.countOut h.session).session h.session).parked <;> rfl

theorem guest_releaseAll (w : World σ) (t : Thread) (hs : List Handle) :
    (w.releaseAll t hs).guest = w.guest := by
  induction hs generalizing w with
  | nil => rfl
  | cons h hs ih => exact (ih _).trans (w.guest_release t h)

theorem length_release (w : World σ) (t : Thread) (h : Handle) :
    (w.release t h).sessions.length = w.sessions.length := by
  have counted : (w.countOut h.session).sessions.length = w.sessions.length :=
    w.length_modifySession h.session _
  rw [release]
  split
  · exact counted
  · cases parks : (w.countOut h.session).park? h.session h.object with
    | none => exact counted
    | some w' =>
        obtain ⟨rs, -, rfl⟩ := Option.map_eq_some_iff.mp parks
        exact (length_modifySession _ h.session _).trans counted

theorem length_releaseAll (w : World σ) (t : Thread) (hs : List Handle) :
    (w.releaseAll t hs).sessions.length = w.sessions.length := by
  induction hs generalizing w with
  | nil => rfl
  | cons h hs ih => exact (ih (w.release t h)).trans (w.length_release t h)

end World

end GuestBridge.Bridge
