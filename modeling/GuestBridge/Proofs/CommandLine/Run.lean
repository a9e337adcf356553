import GuestBridge.Bridge.World
import GuestBridge.Proofs.CommandLine.Script
import GuestBridge.Proofs.Requests.Departure

/-!
# The Command from End to End

A run of the command that comes as far as a session has one job and then stops the session. The system
has a single session, so each step of it can be computed: what is parked is nothing, the job is the only
one that was ever accepted, and its result is there when it is waited for. What remains open is what the
guest does, which is what `Script.Completes` and `Writes` are about.

## Main results

* `run_concluded` — what is printed, whether the command succeeds, and that the session is stopped.
-/

namespace GuestBridge.Bridge

open Guest (Ref)

/-! ### A guest that plays a script

The smallest guest in which a script says something: when compiled code is run, it writes to the last
sink that was made, and it writes once more while its result is shown. Each name is bound to the one
object that there is.
-/

/-- A guest with the sink that was made last. -/
structure Stage where
  sink : Option SessionId
  deriving DecidableEq, Repr

namespace Stage

/-- The object that stands for everything. -/
def thing : Ref := ⟨0⟩

/-- Answers a request, writing a text to the sink; nothing if that raises. -/
def answer (g : Stage) : {α : Type} → Request α → Option α × String × Stage
  | _, .newSink s => (some thing, "", ⟨some s⟩)
  -- code is run with the dictionary of globals, and compiled with three texts
  | _, .call _ [_, _] _ => (some thing, "once upon a time\n", g)
  | _, .repr _ => (some (Text.ofString "42"), "the end\n", g)
  | _, .getName _ _ => (some (some thing), "", g)
  | _, .call _ _ _ | _, .importModule _ | _, .newStr _ | _, .newDict _ | _, .evaluate _
  | _, .getAttr _ _ => (some thing, "", g)
  | _, .expect _ _ | _, .insert _ _ _ | _, .setAttr _ _ _ | _, .clear _ | _, .settle =>
    (some (), "", g)
  | _, _ => (none, "", g)

instance : GuestState Stage where
  perform _ r g := match g.answer r with
    | (some a, text, g') => (.ok a, g.sink.toList.map (·, text), g')
    | (none, text, g') => (.error ⟨thing, []⟩, g.sink.toList.map (·, text), g')

end Stage

end GuestBridge.Bridge

namespace GuestBridge.CommandLine

open Bridge Session
open Guest (Ref)

variable {σ : Type}

/-! ### A system with one session -/

/-- The session of the command waits for a job; so many were accepted so far, and all are over. -/
def waiting (w : World σ) (config : SessionConfig) (accepted : Nat) : System σ Script ScriptEnd :=
  ⟨w, true, [⟨config, true, .idle, [], accepted, [], []⟩]⟩

/-- Where nothing is parked, nothing is given back. -/
theorem reclaim_nothing {w : World σ} {s : SessionId} (nothing : (w.session s).parked = some []) :
    w.reclaim s = w := by
  have same : w.modifySession s (fun st => { st with parked := some [] }) = w := by
    have kept := (modify_congr w.sessions s (f := fun st => { st with parked := some [] }) (g := id)
      .fresh (by
        change { w.session s with parked := some [] } = w.session s
        rw [← nothing])).trans (List.modify_id s w.sessions)
    rw [World.modifySession, kept]
  rw [World.reclaim, World.drain, nothing]
  exact same

variable [GuestState σ]

/-- A session that was started among none is the only one, and waits for a job. -/
theorem start_eq {world : World σ} (new : world.sessions = []) {config : SessionConfig}
    {s : SessionId} {started : System σ Script ScriptEnd}
    (starts : System.start ⟨world, false, []⟩ config = (.ok s, started)) :
    s = 0 ∧ ∃ w, started = waiting w config 0 ∧ (w.session 0).parked = some [] ∧
      0 < w.sessions.length := by
  have entered := steady_enter (s := 0) config { world with sessions := world.sessions ++ [.fresh] }
  rcases enters : enterGuest 0 config { world with sessions := world.sessions ++ [.fresh] } with
    ⟨reason, w⟩
  rw [enters] at entered
  let opened : System σ Script ScriptEnd := System.opened ⟨world, false, []⟩ config
  have claims : (⟨world, false, []⟩ : System σ Script ScriptEnd).claim config = .ok (0, opened) := rfl
  have prepares : opened.prepare 0 =
      (reason, ⟨w, true, [Control.prepared ⟨config, true, .starting, [], 0, [], []⟩ reason]⟩) := by
    have enters : enterGuest 0 (opened.control 0).config opened.world = (reason, w) := enters
    rw [System.prepare, enters]
    rfl
  simp only [System.start, claims, prepares] at starts
  cases reason with
  | some message => cases starts
  | none =>
      cases starts
      refine ⟨rfl, _, rfl, (entered.parked 0).trans ?_, ?_⟩
      · rw [World.session, new]
        rfl
      · change 0 < w.sessions.length
        rw [entered.length, new]
        exact Nat.one_pos

/-- The job of the command is accepted, done and waited for. -/
theorem runJob_eq {w : World σ} (config : SessionConfig) (nothing : (w.session 0).parked = some [])
    (script : Script) {r : ScriptEnd} {w' : World σ}
    (carried : ∀ sys : System σ Script ScriptEnd, sys.world = w →
      script.carryOut sys 0 = (.returned r, { sys with world := w' })) :
    runJob (waiting w config 0) 0 script = (.ok r, waiting w' config 1) := by
  have submits : (waiting w config 0).submit .host 0 script =
      .ok (0, ⟨w, true, [⟨config, true, .idle, [(0, script)], 1, [0], []⟩]⟩) := rfl
  have takes : (⟨w, true, [⟨config, true, .idle, [(0, script)], 1, [0], []⟩]⟩ :
      System σ Script ScriptEnd).take 0 =
        some (script, ⟨w, true, [⟨config, true, .working 0 script, [], 1, [0], []⟩]⟩) := by
    change some (script, System.modifyControl ⟨w.reclaim 0, true, _⟩ 0 _) = _
    rw [reclaim_nothing nothing]
    rfl
  have job := carried ⟨w, true, [⟨config, true, .working 0 script, [], 1, [0], []⟩]⟩ rfl
  simp only [runJob, submits, takes, job]
  rfl

/-- A session that has been stopped: it takes no jobs, its owner is gone after it has left the guest and
given back what was parked for the last time, and the claim is free. -/
structure Stopped (sys : System σ Script ScriptEnd) (s : SessionId) : Prop where
  closed : sys.isRunning s = false
  gone : (sys.control s).owner = .gone
  outside : (sys.world.session s).runtime = none
  drained : (sys.world.session s).parked = none
  free : sys.claimed = false

/-- A session that has left the guest lives on nothing any more. -/
theorem runtime_leaveGuest (s : SessionId) (w : World σ) :
    ((leaveGuest s w).2.session s).runtime = none := by
  cases runtime : (w.session s).runtime with
  | none =>
      rw [leaveGuest, runtime]
      exact runtime
  | some rt => exact (departs_leaveGuest runtime).keeps

/-- At the end the session is stopped. -/
theorem endSession_stopped {w : World σ} (config : SessionConfig) (accepted : Nat)
    (known : 0 < w.sessions.length) : Stopped (endSession (waiting w config accepted) 0) 0 := by
  have length : 0 < (leaveGuest 0 w).2.sessions.length := (steady_leave (s := 0) w).length ▸ known
  have closed : (((leaveGuest 0 w).2.closeParked 0).2.dropAll ((leaveGuest 0 w).2.closeParked 0).1).session 0 =
      { (leaveGuest 0 w).2.session 0 with parked := none } := by
    rw [World.session_dropAll]
    exact World.session_modifySession _ _ _ length
  refine ⟨rfl, rfl, ?_, ?_, rfl⟩
  · exact (congrArg SessionState.runtime closed).trans (runtime_leaveGuest 0 w)
  · exact congrArg SessionState.parked closed

/-! ### What is reported -/

/-- What is printed for a script that was run in a world, where `written` is what was captured of it. -/
structure Reported (cx : Context) (w : World σ) (script : Script) (written : String)
    (printed : Printed) : Prop where
  /-- The command succeeds exactly where the script completes. -/
  succeeded : printed.succeeded = true ↔ ∃ shown, script.Completes cx w shown
  /-- The result is printed on a line of its own behind all that was written. -/
  shown : ∀ text, script.Completes cx w (some text) → printed.output = written ++ text ++ "\n"
  /-- Without a result nothing follows, also where the script has failed. -/
  plain : (∀ text, ¬ script.Completes cx w (some text)) → printed.output = written
  /-- A failure of the guest is reported as its error is rendered. -/
  failed : ∀ e, ((script.run cx).run w).1 = .error (.failed e) → printed.errors = e.render ++ "\n"
  /-- A result that was not set is reported by its name. -/
  unset : ∀ name, script.LeavesUnset cx w name →
    printed.errors = "error: script did not set '" ++ name ++ "'\n"
  /-- A command that succeeds reports nothing. -/
  silent : printed.succeeded = true → printed.errors = ""

section

variable {cx : Context} {w : World σ} {script : Script} {written : String}

theorem reported_shown {text : String} (ends : ((script.run cx).run w).1 = .ok (some text)) :
    Reported cx w script written ⟨true, written ++ text ++ "\n", ""⟩ := by
  have completes : script.Completes cx w (some text) := by
    rcases Script.run_ok_iff.mp ends with completes | ⟨none, -⟩
    · exact completes
    · cases none
  refine ⟨iff_of_true rfl ⟨_, completes⟩, fun text' h => ?_, fun unshown => absurd completes (unshown text),
    fun e h => ?_, fun name h => ?_, fun _ => rfl⟩
  · cases ends.symm.trans h.run_eq
    rfl
  · cases ends.symm.trans h
  · cases ends.symm.trans h.run_eq

theorem reported_plain (completes : script.Completes cx w none) :
    Reported cx w script written ⟨true, written, ""⟩ := by
  refine ⟨iff_of_true rfl ⟨_, completes⟩, fun text h => ?_, fun _ => rfl, fun e h => ?_, fun name h => ?_,
    fun _ => rfl⟩
  · cases completes.run_eq.symm.trans h.run_eq
  · cases completes.run_eq.symm.trans h
  · cases completes.result_eq_none.symm.trans h.1

theorem reported_unset {name : String} (leaves : script.LeavesUnset cx w name) :
    Reported cx w script written ⟨false, written, "error: script did not set '" ++ name ++ "'\n"⟩ := by
  refine ⟨iff_of_false Bool.false_ne_true ?_, fun text h => ?_, fun _ => rfl, fun e h => ?_,
    fun name' h => ?_, fun succeeded => absurd succeeded Bool.false_ne_true⟩
  · rintro ⟨shown, h⟩
    cases leaves.run_eq.symm.trans h.run_eq
    cases leaves.1.symm.trans h.result_eq_none
  · cases leaves.run_eq.symm.trans h.run_eq
  · cases leaves.run_eq.symm.trans h
  · cases leaves.1.symm.trans h.1
    rfl

theorem reported_failed {e : Error} (ends : ((script.run cx).run w).1 = .error (.failed e)) :
    Reported cx w script written ⟨false, written, e.render ++ "\n"⟩ := by
  refine ⟨iff_of_false Bool.false_ne_true ?_, fun text h => ?_, fun _ => rfl, fun e' h => ?_,
    fun name h => ?_, fun succeeded => absurd succeeded Bool.false_ne_true⟩
  · rintro ⟨shown, h⟩
    cases ends.symm.trans h.run_eq
  · cases ends.symm.trans h.run_eq
  · cases ends.symm.trans h
    rfl
  · cases ends.symm.trans h.run_eq

/-- Whatever a job returns, the report says how the script has ended. -/
theorem report_reported {r : ScriptEnd} (ends : ((script.run cx).run w).1 = r.mapError .failed)
    (written : String) : Reported cx w script written (report script.result written r) := by
  rcases r with e | (_ | text)
  · exact reported_failed ends
  · rcases Script.run_ok_iff.mp ends with completes | ⟨-, name, leaves⟩
    · rw [completes.result_eq_none]
      exact reported_plain completes
    · rw [leaves.1]
      exact reported_unset leaves
  · exact reported_shown ends

end

/-! ### The whole -/

/-- What configuration a command line comes to: that of the file it names, or else the standard one. -/
def Configured (args : Arguments) (read : String → Except Files.Fault String) (loaded : SessionConfig) :
    Prop :=
  match args.config with
  | some path => SessionConfig.ofFile path (read path) = .ok loaded
  | none => loaded = .standard

/-- How a run of the command ends whose session has started: `started` is the system then, `ended` the
one in which the command comes back. What is printed goes by what stands in the session's sink when the
job ends: what the start has left there, and behind it all that the guest wrote during the job. -/
structure Concluded (script : Script) (s : SessionId) (started : System σ Script ScriptEnd)
    (printed : Printed) (ended : System σ Script ScriptEnd) : Prop where
  reported : ∃ texts, Writes NoSink started.world texts (script.carryOut started s).2.world ∧
    Reported ⟨s⟩ started.world script (started.output s ++ said s texts) printed
  stopped : Stopped ended s

/-- **The command from end to end**: for every command line that is understood, every script that can be
read, and every configuration with which the session starts. -/
theorem run_concluded {world : World σ} (new : world.sessions = []) {args : List String}
    {a : Arguments} (parsed : Arguments.read args = .ok a)
    {read : String → Except Files.Fault String} {source : String}
    (readable : read a.script = .ok source) {loaded : SessionConfig} (valid : Configured a read loaded)
    {s : SessionId} {started : System σ Script ScriptEnd}
    (starts : System.start ⟨world, false, []⟩ (sessionConfig a loaded) = (.ok s, started)) :
    Concluded ⟨source, a.result⟩ s started (run world args read).1 (run world args read).2 := by
  have ran : run world args read = runSession ⟨world, false, []⟩ a (sessionConfig a loaded) source := by
    rw [Configured] at valid
    rw [run, parsed]
    dsimp only
    rw [readable]
    cases config : a.config <;> rw [config] at valid <;> simp only [valid]
  obtain ⟨rfl, w, rfl, nothing, known⟩ := start_eq new starts
  obtain ⟨r, w', texts, carried, ends, writes, steady⟩ := Script.carried w 0 ⟨source, a.result⟩
  have job := runJob_eq (sessionConfig a loaded) nothing ⟨source, a.result⟩ carried
  have captured : (waiting w' (sessionConfig a loaded) 1).output 0 =
      (waiting w (sessionConfig a loaded) 0).output 0 ++ said 0 texts := writes.output known
  simp only [ran, runSession, starts, job, captured]
  refine ⟨⟨texts, ?_, report_reported ends _⟩, ?_⟩
  · rw [carried (waiting w (sessionConfig a loaded) 0) rfl]
    exact writes
  · refine endSession_stopped (sessionConfig a loaded) 1 ?_
    rw [World.length_releaseAll, System.clearOutput, System.modifyWorld, World.length_modifySession]
    exact steady.length ▸ known

/-- A script that says something when it is run and once more while its result is shown. -/
theorem run_concluded_result :
    let world : World Stage := ⟨⟨none⟩, [], [], []⟩
    let read : String → Except Files.Fault String := fun _ => .ok "tale()"
    let args := ["tale.py", "--result", "moral"]
    let started := System.start ⟨world, false, []⟩ (sessionConfig ⟨"tale.py", some "moral", none⟩ .standard)
    world.sessions = [] ∧ Arguments.read args = .ok ⟨"tale.py", some "moral", none⟩ ∧
      read "tale.py" = .ok "tale()" ∧
      Configured ⟨"tale.py", some "moral", none⟩ read .standard ∧ started = (.ok 0, started.2) ∧
      (run world args read).1 = ⟨true, "once upon a time\nthe end\n42\n", ""⟩ ∧
      Concluded ⟨"tale()", some "moral"⟩ 0 started.2 (run world args read).1 (run world args read).2 := by
  intro world read args started
  have parsed : Arguments.read args = .ok ⟨"tale.py", some "moral", none⟩ := by
    simp [args, Arguments.read, Partial.read]
  have valid : Configured ⟨"tale.py", some "moral", none⟩ read .standard := rfl
  have starts : started = (.ok 0, started.2) := rfl
  have readable : read "tale.py" = .ok "tale()" := rfl
  refine ⟨rfl, parsed, readable, valid, starts, by decide +kernel, ?_⟩
  exact run_concluded rfl parsed readable valid starts

end GuestBridge.CommandLine
