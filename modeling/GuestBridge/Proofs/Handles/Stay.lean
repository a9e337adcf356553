import GuestBridge.Proofs.Handles.Accounts

/-!
# Starting and Ending in the Books

Entering and leaving the guest takes no handles. What a session holds for itself is held when it has
entered the guest, and given back when it leaves.
-/

namespace GuestBridge.Bridge

open Guest (Ref Raised)

variable {σ : Type}

/-! ### Computations that the books do not show -/

/-- Two worlds with the same books: what is held, what the sessions have, and what owners
reported. -/
structure SameBooks (w w' : World σ) : Prop where
  held : w'.held = w.held
  books : w'.sessions.map SessionState.books = w.sessions.map SessionState.books
  drained : w'.drained = w.drained

theorem SameBooks.trans {w w' w'' : World σ} (h : SameBooks w w') (h' : SameBooks w' w'') :
    SameBooks w w'' :=
  ⟨h'.held.trans h.held, h'.books.trans h.books, h'.drained.trans h.drained⟩

theorem SameBooks.length {w w' : World σ} (h : SameBooks w w') :
    w'.sessions.length = w.sessions.length := by
  simpa using congrArg List.length h.books

theorem SameBooks.steady {cx : Context} {w w' : World σ} (h : SameBooks w w') :
    Steady cx w w' where
  length := h.length
  parked s := congrArg (·.2.1) (World.books_session h.books s)
  runtime s _ := congrArg (·.2.2) (World.books_session h.books s)
  drained := h.drained

theorem Accounted.sameBooks {w w' : World σ} {hs : List Handle} {loose : List Ref}
    (a : Accounted w hs loose) (h : SameBooks w w') : Accounted w' hs loose :=
  a.congr h.held h.books

/-- A computation that only asks the guest and adds to the log. -/
def Asks {α : Type} (x : StateM (World σ) α) : Prop := ∀ w, SameBooks w (x w).2

namespace Asks

variable {α β ε : Type}

theorem pure (a : α) : Asks (Pure.pure a : StateM (World σ) α) := fun _ => ⟨rfl, rfl, rfl⟩

theorem bind {x : StateM (World σ) α} {f : α → StateM (World σ) β} (hx : Asks x)
    (hf : ∀ a, Asks (f a)) : Asks (x >>= f) :=
  fun w => (hx w).trans (hf (x w).1 (x w).2)

theorem bindExcept {x : ExceptT (Stop ε) (StateM (World σ)) α}
    {f : α → ExceptT (Stop ε) (StateM (World σ)) β} (hx : Asks x.run)
    (hf : ∀ a, Asks (f a).run) : Asks (x >>= f).run := by
  rw [ExceptT.run_bind]
  refine hx.bind fun r => ?_
  cases r with
  | ok a => exact hf a
  | error e => exact pure _

theorem ok (a : α) : Asks (Pure.pure a : ExceptT (Stop ε) (StateM (World σ)) α).run := pure _

theorem note (level : Level) (message : String) (fields : List (String × String))
    (h : fields.lookup "drained" = none) :
    Asks (σ := σ) (Bridge.note level message fields) :=
  fun _ => ⟨rfl, rfl, List.filterMap_cons_none h⟩

variable [GuestState σ]

theorem ask (r : Request α) : Asks (σ := σ) (ask? r) := fun w =>
  ⟨w.held_ask r, w.books_ask r, by rw [World.drained, ask?, w.log_ask r, World.drained]⟩

theorem askOr (r : Request α) (f : α → β) (otherwise : β) :
    Asks (σ := σ) (Bridge.askOr r f otherwise) :=
  (ask r).bind fun a => by cases a <;> exact pure _

theorem request (r : Request α) : Asks (σ := σ) (Bridge.request r).run := by
  intro w
  have asked : SameBooks w (w.ask r).2 := ask r w
  change SameBooks w (Bridge.request r w).2
  rw [Bridge.request]
  rcases hr : w.ask r with ⟨a, w'⟩
  rw [hr] at asked
  cases a <;> exact asked

end Asks

theorem World.sessions_holdAll (rs : List Ref) (w : World σ) :
    (rs.foldl World.hold w).sessions = w.sessions := by
  induction rs generalizing w with
  | nil => rfl
  | cons r rs ih => exact ih (w.hold r)

theorem Steady.holdAll {cx : Context} (rs : List Ref) (w : World σ) :
    Steady cx w (rs.foldl World.hold w) := by
  induction rs generalizing w with
  | nil => exact Steady.refl w
  | cons r rs ih => exact (Steady.hold w r).trans (ih (w.hold r))

theorem Steady.dropAll {cx : Context} (rs : List Ref) (w : World σ) :
    Steady cx w (w.dropAll rs) := by
  induction rs generalizing w with
  | nil => exact Steady.refl w
  | cons r rs ih => exact (Steady.drop w r).trans (ih (w.drop r))

/-! ### The steps of starting and ending -/

section

variable [GuestState σ]

theorem asks_importNow (name : String) : Asks (σ := σ) (importNow name).run := by
  refine (Asks.request _).bindExcept fun m => ?_
  exact (Asks.request _).bindExcept fun _ => Asks.ok m

theorem asks_insertPaths (path : Ref) (position : Nat) (dirs : List String) :
    Asks (σ := σ) (insertPaths path position dirs).run := by
  induction dirs generalizing position with
  | nil => exact Asks.ok ()
  | cons dir dirs ih =>
      refine (Asks.request _).bindExcept fun d => ?_
      exact (Asks.request _).bindExcept fun _ => ih (position + 1)

theorem asks_extendSearch (sys : Ref) (dirs : List String) :
    Asks (σ := σ) (extendSearch sys dirs).run := by
  unfold extendSearch
  split
  · exact Asks.ok ()
  · refine (Asks.request _).bindExcept fun path => ?_
    exact (Asks.request _).bindExcept fun _ => asks_insertPaths path 0 dirs

theorem asks_installSink (s : SessionId) (sys : Ref) :
    Asks (σ := σ) (installSink s sys).run := by
  refine (Asks.request _).bindExcept fun previous => ?_
  refine (Asks.request _).bindExcept fun sink => ?_
  exact (Asks.request _).bindExcept fun _ => Asks.ok previous

theorem asks_replaceOutput (s : SessionId) (sys : Ref) (capture : Bool) :
    Asks (σ := σ) (replaceOutput s sys capture).run := by
  unfold replaceOutput
  split
  · exact (asks_installSink s sys).bindExcept fun previous => Asks.ok (some previous)
  · exact Asks.ok none

theorem asks_startRuntime (s : SessionId) (config : SessionConfig) :
    Asks (σ := σ) (startRuntime s config).run := by
  refine (asks_importNow _).bindExcept fun builtins => ?_
  refine (Asks.request _).bindExcept fun name => ?_
  refine (Asks.request _).bindExcept fun globals => ?_
  refine (asks_importNow _).bindExcept fun sys => ?_
  refine (asks_extendSearch sys config.searchPaths).bindExcept fun _ => ?_
  refine (Asks.request _).bindExcept fun keywordCall => ?_
  exact (asks_replaceOutput s sys _).bindExcept fun previousOutput => Asks.ok _

theorem asks_raisedText (e : Raised) : Asks (σ := σ) (raisedText e) := by
  refine (Asks.askOr _ _ _).bind fun name => ?_
  exact (Asks.askOr _ _ _).bind fun message => Asks.pure _

theorem asks_restoreOutput (rt : Runtime) : Asks (σ := σ) (restoreOutput rt).run := by
  unfold restoreOutput
  split
  · exact Asks.ok ()
  · exact (asks_importNow _).bindExcept fun sys => Asks.request _

omit [GuestState σ] in
theorem bind_apply {α β : Type} (x : StateM (World σ) α) (f : α → StateM (World σ) β)
    (w : World σ) : (x >>= f) w = f (x w).1 (x w).2 :=
  rfl

theorem askOr_apply {α β : Type} (r : Request α) (f : α → β) (otherwise : β) (w : World σ) :
    askOr r f otherwise w = ((w.ask r).1.toOption.elim otherwise f, (w.ask r).2) := by
  rw [askOr, bind_apply, show ask? r w = w.ask r from rfl]
  rcases w.ask r with ⟨_ | _, _⟩ <;> rfl

omit [GuestState σ] in
/-- What cannot stop early gives something. -/
theorem run_always_bind {α β ε : Type} {x : StateM (World σ) α}
    {f : α → ExceptT (Stop ε) (StateM (World σ)) β} (w : World σ) :
    (always x >>= f).run w = (f (x w).1).run (x w).2 :=
  rfl

omit [GuestState σ] in
/-- What is put together gives something where the first part does, and then the second. -/
theorem run_bind_ok_iff {α β ε : Type} {x : ExceptT (Stop ε) (StateM (World σ)) α}
    {f : α → ExceptT (Stop ε) (StateM (World σ)) β} {w w' : World σ} {b : β} :
    (x >>= f).run w = (.ok b, w') ↔ ∃ a w₁, x.run w = (.ok a, w₁) ∧ (f a).run w₁ = (.ok b, w') := by
  rw [ExceptT.run_bind, bind_apply]
  rcases x.run w with ⟨a | e, w₁⟩
  · exact ⟨nofun, nofun⟩
  · exact ⟨fun h => ⟨_, w₁, rfl, h⟩, fun ⟨_, _, given, rest⟩ => by cases given; exact rest⟩

omit [GuestState σ] in
theorem run_bind_of_ok {α β ε : Type} {x : ExceptT (Stop ε) (StateM (World σ)) α}
    {f : α → ExceptT (Stop ε) (StateM (World σ)) β} {w w₁ : World σ} {a : α}
    (given : x.run w = (.ok a, w₁)) : (x >>= f).run w = (f a).run w₁ := by
  rw [ExceptT.run_bind, bind_apply, given]

omit [GuestState σ] in
/-- What stops early is not gone on with. -/
theorem run_bind_of_error {α β ε : Type} {x : ExceptT (Stop ε) (StateM (World σ)) α} {w w₁ : World σ} {s : Stop ε}
    (stopped : x.run w = (.error s, w₁)) (f : α → ExceptT (Stop ε) (StateM (World σ)) β) :
    (x >>= f).run w = (.error s, w₁) := by
  rw [ExceptT.run_bind, bind_apply, stopped]
  rfl

omit [GuestState σ] in
theorem run_map_ok_iff {α β ε : Type} {x : ExceptT (Stop ε) (StateM (World σ)) α} {f : α → β} {w w₁ : World σ}
    {b : β} : (f <$> x).run w = (.ok b, w₁) ↔ ∃ a, x.run w = (.ok a, w₁) ∧ f a = b := by
  rw [map_eq_pure_bind, run_bind_ok_iff]
  constructor
  · rintro ⟨a, w₂, given, last⟩
    cases last
    exact ⟨a, given, rfl⟩
  · rintro ⟨a, given, rfl⟩
    exact ⟨a, w₁, given, rfl⟩

omit [GuestState σ] in
theorem run_map_error_iff {α β ε : Type} {x : ExceptT (Stop ε) (StateM (World σ)) α} {f : α → β} {w w₁ : World σ}
    {s : Stop ε} : (f <$> x).run w = (.error s, w₁) ↔ x.run w = (.error s, w₁) := by
  rw [map_eq_pure_bind, ExceptT.run_bind, bind_apply]
  rcases x.run w with ⟨s' | a, w₂⟩
  · exact ⟨fun h => by cases h; rfl, fun h => by cases h; rfl⟩
  · exact ⟨nofun, nofun⟩

omit [GuestState σ] in
/-- What a computation gives is what its last part gives. -/
theorem given_bind {α β ε : Type} {x : ExceptT (Stop ε) (StateM (World σ)) α}
    {f : α → ExceptT (Stop ε) (StateM (World σ)) β} {P : β → Prop}
    (hf : ∀ a w b, ((f a).run w).1 = .ok b → P b) :
    ∀ w b, ((x >>= f).run w).1 = .ok b → P b := by
  intro w b h
  rw [ExceptT.run_bind, bind_apply] at h
  cases hx : (x.run w).1 with
  | ok a =>
      rw [hx] at h
      exact hf a _ b h
  | error e =>
      rw [hx] at h
      cases h

/-- A session that starts has no modules. -/
theorem startRuntime_modules (s : SessionId) (config : SessionConfig) :
    ∀ (w : World σ) rt, ((startRuntime s config).run w).1 = .ok rt → rt.modules = [] := by
  refine given_bind fun builtins => given_bind fun name => given_bind fun globals => ?_
  refine given_bind fun sys => given_bind fun _ => given_bind fun keywordCall => ?_
  refine given_bind fun previousOutput w rt h => ?_
  cases h
  rfl

/-! ### Starting and ending -/

/-- A start that fails has only asked. -/
theorem asks_failedStart (e : Stop Raised) :
    Asks (σ := σ) (match e with
      | .failed e => do return some (← raisedText e)
      | .panicked message => return some message) := by
  cases e with
  | failed e => exact (asks_raisedText e).bind fun message => Asks.pure _
  | panicked message => exact Asks.pure _

variable {w : World σ} {hs : List Handle} {loose : List Ref} {s : SessionId}

/-- **Entering the guest keeps the books in order.** -/
theorem Accounted.enter (a : Accounted w hs loose) (lt : s < w.sessions.length)
    (new : (w.session s).runtime = none) (config : SessionConfig) :
    Accounted (enterGuest s config w).2 hs loose := by
  have asked := asks_startRuntime s config w
  rw [enterGuest, bind_apply]
  cases hr : ((startRuntime s config).run w).1 with
  | ok rt =>
      have held := (a.sameBooks asked).holdAll rt.refs
      have same := World.sessions_holdAll rt.refs ((startRuntime s config).run w).2
      refine held.setRuntime ?_ (some rt) loose ?_ fun rt' hrt => ?_
      · rw [same, asked.length]
        exact lt
      · have none : ((rt.refs.foldl World.hold ((startRuntime s config).run w).2).session s).runtime =
            none := by
          rw [World.session, same]
          exact (congrArg (·.2.2) (World.books_session asked.books s)).trans new
        rw [SessionState.ownRefs, none]
        exact .refl _
      · cases hrt
        rw [startRuntime_modules s config w rt hr]
        exact List.nodup_nil
  | error e => cases e with
      | failed e => exact (a.sameBooks asked).sameBooks (asks_failedStart (.failed e) _)
      | panicked message => exact a.sameBooks asked

theorem steady_enter (config : SessionConfig) (w : World σ) :
    Steady ⟨s⟩ w (enterGuest s config w).2 := by
  have asked : Steady ⟨s⟩ w ((startRuntime s config).run w).2 :=
    (asks_startRuntime s config w).steady
  rw [enterGuest, bind_apply]
  cases hr : ((startRuntime s config).run w).1 with
  | ok rt =>
      refine asked.trans ((Steady.holdAll rt.refs _).trans ?_)
      exact Steady.modifySession _ fun _ => rfl
  | error e => cases e with
      | failed e => exact asked.trans (asks_failedStart (.failed e) _).steady
      | panicked message => exact asked

theorem asks_noteRestored (restored : Except (Stop Raised) Unit) :
    Asks (σ := σ) (noteRestored restored) := by
  match restored with
  | .error (.failed e) =>
      exact (asks_raisedText e).bind fun message => Asks.note _ _ _ rfl
  | .ok _ | .error (.panicked _) => exact Asks.pure _

/-- **Leaving the guest keeps the books in order.** -/
theorem Accounted.leave (a : Accounted w hs loose) (lt : s < w.sessions.length) :
    Accounted (leaveGuest s w).2 hs loose := by
  unfold leaveGuest
  cases hr : (w.session s).runtime with
  | none => exact a
  | some rt =>
      have asked := (asks_restoreOutput rt w).trans (Asks.ask (.clear rt.globals) _)
      have own : ((ask? (.clear rt.globals) ((restoreOutput rt).run w).2).2.session s).runtime =
          some rt :=
        (congrArg (·.2.2) (World.books_session asked.books s)).trans hr
      refine Accounted.sameBooks ?_ (asks_noteRestored _ _)
      rw [World.modifySession_dropAll]
      refine ((a.sameBooks asked).setRuntime (asked.length ▸ lt) none _ ?_ ?_).dropAll
      · rw [SessionState.ownRefs, own]
        exact .refl _
      · exact fun rt hrt => absurd hrt (Option.not_mem_none rt)

theorem steady_leave (w : World σ) : Steady ⟨s⟩ w (leaveGuest s w).2 := by
  unfold leaveGuest
  cases (w.session s).runtime with
  | none => exact Steady.refl w
  | some rt =>
      have asked := (asks_restoreOutput rt w).trans (Asks.ask (.clear rt.globals) _)
      refine Steady.trans ?_ (asks_noteRestored _ _).steady
      refine asked.steady.trans ((Steady.dropAll rt.refs _).trans ?_)
      exact Steady.modifySession _ fun _ => rfl

end

end GuestBridge.Bridge
