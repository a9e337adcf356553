import GuestBridge.Proofs.Handles.Stay
import GuestBridge.Proofs.Requests.Trace

/-!
# What a Session Asks When It Leaves the Guest

A session that leaves the guest puts the output stream back that it replaced, if it replaced one,
and then empties its dictionary of globals. `Restores` lists the ways in which the first part can
go; `Departs` says what the whole asks of the guest, in order, and what it leaves behind.

## Main statements

* `departs_leaveGuest` — leaving the guest is a departure, whatever the guest answers.
-/

namespace GuestBridge.Bridge

open Guest (Ref Raised)

/-- What is asked to put back the output stream that was replaced, and how that went. -/
inductive Restores : Option Ref → List Asked → Except (Stop Raised) Unit → Prop
  /-- No stream was replaced. -/
  | nothing : Restores none [] (.ok ())
  /-- The stream is in its place again. -/
  | done (previous sys : Ref) :
      Restores (some previous) [⟨.importModule "sys", .ok sys⟩, ⟨.expect sys .module, .ok ()⟩,
        ⟨.setAttr sys "stdout" previous, .ok ()⟩] (.ok ())
  | notLoaded (previous : Ref) (e : Raised) :
      Restores (some previous) [⟨.importModule "sys", .error e⟩] (.error (.failed e))
  | notModule (previous sys : Ref) (e : Raised) :
      Restores (some previous) [⟨.importModule "sys", .ok sys⟩, ⟨.expect sys .module, .error e⟩]
        (.error (.failed e))
  | refused (previous sys : Ref) (e : Raised) :
      Restores (some previous) [⟨.importModule "sys", .ok sys⟩, ⟨.expect sys .module, .ok ()⟩,
        ⟨.setAttr sys "stdout" previous, .error e⟩] (.error (.failed e))

/-- What is asked to say why the stream could not be put back, and the lines that this adds to the
log. -/
inductive Reports : Except (Stop Raised) Unit → List Asked → List LogLine → Prop
  | nothing : Reports (.ok ()) [] []
  | failure (e : Raised) (name : Except Raised String) (message : Except Raised Text)
      (text : String) :
      Reports (.error (.failed e)) [⟨.typeName e.value, name⟩, ⟨.str e.value, message⟩]
        [⟨.warn, "could not restore interpreter state", [("error", text)]⟩]

variable {σ : Type} [GuestState σ]

/-- A session that lived on `rt` leaves the guest: it puts the stream back, or notes why that
failed, it empties its globals in any case, and it keeps nothing. -/
structure Departs (s : SessionId) (rt : Runtime) (w w' : World σ) : Prop where
  asks : ∃ restoring result emptied reporting lines, Restores rt.previousOutput restoring result ∧
    Reports result reporting lines ∧ w'.log = lines ++ w.log ∧
    Runs w (restoring ++ ⟨.clear rt.globals, emptied⟩ :: reporting) w'
  keeps : (w'.session s).runtime = none

/-! ### Computations that note nothing -/

/-- A computation that adds nothing to the log. -/
def Silent {α : Type} (x : StateM (World σ) α) : Prop := ∀ w, (x w).2.log = w.log

namespace Silent

variable {α β ε : Type}

omit [GuestState σ] in
theorem pure (a : α) : Silent (Pure.pure a : StateM (World σ) α) := fun _ => rfl

omit [GuestState σ] in
theorem bind {x : StateM (World σ) α} {f : α → StateM (World σ) β} (hx : Silent x)
    (hf : ∀ a, Silent (f a)) : Silent (x >>= f) :=
  fun w => (hf (x w).1 (x w).2).trans (hx w)

omit [GuestState σ] in
theorem bindExcept {x : ExceptT (Stop ε) (StateM (World σ)) α}
    {f : α → ExceptT (Stop ε) (StateM (World σ)) β} (hx : Silent x.run)
    (hf : ∀ a, Silent (f a).run) : Silent (x >>= f).run := by
  rw [ExceptT.run_bind]
  refine hx.bind fun r => ?_
  cases r with
  | ok a => exact hf a
  | error e => exact pure _

theorem askOr (r : Request α) (f : α → β) (otherwise : β) :
    Silent (σ := σ) (Bridge.askOr r f otherwise) := by
  have asked : Silent (σ := σ) (ask? r) := fun w => w.log_ask r
  exact asked.bind fun a => by cases a <;> exact pure _

theorem request (r : Request α) : Silent (σ := σ) (Bridge.request r).run := by
  intro w
  have asked := w.log_ask r
  change (Bridge.request r w).2.log = w.log
  rw [Bridge.request]
  rcases hr : w.ask r with ⟨a, w'⟩
  rw [hr] at asked
  cases a <;> exact asked

end Silent

theorem silent_raisedText (e : Raised) : Silent (σ := σ) (raisedText e) :=
  (Silent.askOr _ _ _).bind fun _ => (Silent.askOr _ _ _).bind fun _ => .pure _

theorem silent_restoreOutput (rt : Runtime) : Silent (σ := σ) (restoreOutput rt).run := by
  unfold restoreOutput
  split
  · exact .pure _
  · exact Silent.bindExcept ((Silent.request _).bindExcept fun m =>
      (Silent.request _).bindExcept fun _ => .pure _) fun sys => .request _

/-! ### The parts -/

theorem traced_importNow (name : String) {Q : List Asked → Except (Stop Raised) Ref → Prop}
    (ok : ∀ m, Q [⟨.importModule name, .ok m⟩, ⟨.expect m .module, .ok ()⟩] (.ok m))
    (notLoaded : ∀ e, Q [⟨.importModule name, .error e⟩] (.error (.failed e)))
    (notModule : ∀ m e, Q [⟨.importModule name, .ok m⟩, ⟨.expect m .module, .error e⟩]
      (.error (.failed e))) :
    Traced (σ := σ) (importNow name).run Q :=
  traced_requestThen _ (fun m => traced_requestThen _ (fun () => .pure (ok m)) (notModule m))
    notLoaded

theorem traced_restoreOutput (rt : Runtime) :
    Traced (σ := σ) (restoreOutput rt).run (Restores rt.previousOutput) := by
  unfold restoreOutput
  cases rt.previousOutput with
  | none => exact .pure .nothing
  | some previous =>
      refine (traced_importNow "sys" (Q := fun tr result => match result with
        | .ok sys => tr = [⟨.importModule "sys", .ok sys⟩, ⟨.expect sys .module, .ok ()⟩]
        | .error s => Restores (some previous) tr (.error s)) (fun _ => rfl)
        (.notLoaded previous) (.notModule previous)).bindExcept (fun tr sys told => ?_)
        fun _ _ told => told
      cases told
      exact traced_request _ (fun () => .done previous sys) (.refused previous sys)

theorem traced_raisedText (e : Raised) :
    Traced (σ := σ) (raisedText e) fun tr text => Reports (.error (.failed e)) tr
      [⟨.warn, "could not restore interpreter state", [("error", text)]⟩] := by
  refine (Traced.askOr (.typeName e.value) _ _
    (Q := fun tr _ => ∃ name, tr = [⟨.typeName e.value, name⟩]) fun name _ => ⟨name, rfl⟩).bind ?_
  rintro _ _ ⟨name, rfl⟩
  refine (Traced.askOr (.str e.value) _ _
    (Q := fun tr _ => ∃ message, tr = [⟨.str e.value, message⟩]) fun m _ => ⟨m, rfl⟩).bind ?_
  rintro _ _ ⟨message, rfl⟩
  exact .pure (.failure e name message _)

theorem traced_noteRestored {previous : Option Ref} {restoring : List Asked}
    {restored : Except (Stop Raised) Unit} (how : Restores previous restoring restored)
    (w : World σ) :
    ∃ tr lines, Runs w tr (noteRestored restored w).2 ∧ Reports restored tr lines ∧
      (noteRestored restored w).2.log = lines ++ w.log := by
  have failed (e : Raised) : ∃ tr lines, Runs w tr (noteRestored (.error (.failed e)) w).2 ∧
      Reports (.error (.failed e)) tr lines ∧
      (noteRestored (.error (.failed e)) w).2.log = lines ++ w.log := by
    obtain ⟨tr, run, reports⟩ := traced_raisedText (σ := σ) e w
    refine ⟨tr, _, ?_, reports, ?_⟩
    · have noted : Runs (raisedText e w).2 [] (noteRestored (.error (.failed e)) w).2 := .stay rfl
      rw [← List.append_nil tr]
      exact run.append noted
    · exact congrArg _ (silent_raisedText e w)
  cases how with
  | nothing | done => exact ⟨[], [], .refl w, .nothing, rfl⟩
  | notLoaded previous e | notModule previous sys e | refused previous sys e => exact failed e

/-! ### The whole -/

omit [GuestState σ] in
theorem dropAll_elsewhere (rs : List Ref) (w : World σ) :
    (w.dropAll rs).guest = w.guest ∧ (w.dropAll rs).log = w.log := by
  induction rs generalizing w with
  | nil => exact ⟨rfl, rfl⟩
  | cons r rs ih => exact ih (w.drop r)

omit [GuestState σ] in
theorem lt_of_runtime {s : SessionId} {rt : Runtime} {w : World σ}
    (runtime : (w.session s).runtime = some rt) : s < w.sessions.length := by
  by_contra outside
  rw [World.session, List.getD_eq_getElem?_getD,
    List.getElem?_eq_none (Nat.le_of_not_lt outside)] at runtime
  cases runtime

/-- A session without its runtime. -/
def World.vacate (w : World σ) (s : SessionId) : World σ :=
  w.modifySession s fun st => { st with runtime := none }

theorem leaveGuest_eq {s : SessionId} {rt : Runtime} {w : World σ}
    (runtime : (w.session s).runtime = some rt) :
    leaveGuest s w = noteRestored ((restoreOutput rt).run w).1
      (((((restoreOutput rt).run w).2.ask (.clear rt.globals)).2.dropAll rt.refs).vacate s) := by
  rw [leaveGuest, runtime]
  rfl

/-- **Leaving the guest** is a departure, whatever the guest answers. -/
theorem departs_leaveGuest {s : SessionId} {rt : Runtime} {w : World σ}
    (runtime : (w.session s).runtime = some rt) : Departs s rt w (leaveGuest s w).2 := by
  obtain ⟨restoring, restores, how⟩ := traced_restoreOutput (σ := σ) rt w
  have silent := silent_restoreOutput (σ := σ) rt w
  have books := asks_restoreOutput (σ := σ) rt w
  rw [leaveGuest_eq runtime]
  generalize (restoreOutput rt).run w = restored at restores how silent books ⊢
  obtain ⟨result, w₁⟩ := restored
  have cleared : SameBooks w₁ (w₁.ask (.clear rt.globals)).2 := Asks.ask _ w₁
  have same := dropAll_elsewhere rt.refs (w₁.ask (.clear rt.globals)).2
  have vacated : (((w₁.ask (.clear rt.globals)).2.dropAll rt.refs).vacate s).guest =
      (w₁.ask (.clear rt.globals)).2.guest := same.1
  have length : s < ((w₁.ask (.clear rt.globals)).2.dropAll rt.refs).sessions.length := by
    rw [World.dropAll_sessions, cleared.length, books.length]
    exact lt_of_runtime runtime
  obtain ⟨reporting, lines, reports, said, log⟩ := traced_noteRestored how
    (((w₁.ask (.clear rt.globals)).2.dropAll rt.refs).vacate s)
  refine ⟨⟨restoring, result, (w₁.ask (.clear rt.globals)).1, reporting, lines, how, said,
    log.trans ?_, ?_⟩, ?_⟩
  · exact congrArg (lines ++ ·) (same.2.trans ((w₁.log_ask _).trans silent))
  · exact restores.append (.ask (.clear rt.globals) rfl (reports.after vacated))
  · have noted := asks_noteRestored (σ := σ) result
      (((w₁.ask (.clear rt.globals)).2.dropAll rt.refs).vacate s)
    refine (congrArg (·.2.2) (World.books_session noted.books s)).trans ?_
    rw [World.vacate, World.session_modifySession _ _ _ length]
    rfl

end GuestBridge.Bridge
