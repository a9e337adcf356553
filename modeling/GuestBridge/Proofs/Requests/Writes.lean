import GuestBridge.Proofs.Requests.Parts
import GuestBridge.Proofs.Requests.Stream

/-!
# What the Guest Writes

Texts come from the guest to the captured output of sessions in one way: a request is answered, and
hands over what was written meanwhile. `Writes P w ws w'` says that the world goes from `w` to `w'` by
requests that satisfy `P`, and that the guest writes `ws` on the way, in order; what the bridge does on
its own side in between touches neither the guest nor what was captured.

## Main statements

* `Writes.output` — every session has what it had, and behind it what was written to its sink.
* `Writes.keeps` — what all these requests keep of the guest is kept.
* `Moves.writes`, `writes_leaveGuest`, `writes_enterGuest` — jobs make no sinks, nor does a session that
  ends; one that starts asks for `Request.ofStart` alone.
-/

namespace GuestBridge.Bridge

open Guest (Ref Raised)

/-! ### Texts -/

/-- What stands in a list of texts for one session. -/
def said (s : SessionId) (ws : List (SessionId × String)) : String :=
  String.join ((ws.filter fun w => w.1 = s).map (·.2))

@[simp] theorem said_nil (s : SessionId) : said s [] = "" := rfl

@[simp] theorem said_append (s : SessionId) (ws ws' : List (SessionId × String)) :
    said s (ws ++ ws') = said s ws ++ said s ws' := by
  simp [said, String.join_append]

theorem said_cons_self (s : SessionId) (t : String) (ws : List (SessionId × String)) :
    said s ((s, t) :: ws) = t ++ said s ws := by
  simp [said, String.join_cons]

theorem said_cons_ne {s u : SessionId} (other : u ≠ s) (t : String) (ws : List (SessionId × String)) :
    said s ((u, t) :: ws) = said s ws := by
  simp [said, other]

/-- Where nothing was written to a session, nothing stands for it. -/
theorem said_of_absent {s : SessionId} {ws : List (SessionId × String)} (absent : ∀ w ∈ ws, w.1 ≠ s) :
    said s ws = "" := by
  have none : ws.filter (fun w => w.1 = s) = [] :=
    List.filter_eq_nil_iff.mpr fun w hw => by simpa using absent w hw
  rw [said, none]
  rfl

variable {σ : Type}

/-- What was captured of a session. -/
def World.captured (w : World σ) (s : SessionId) : String := (w.session s).output

/-- Of a session that is not there nothing was captured. -/
theorem World.captured_unknown (w : World σ) {s : SessionId} (unknown : ¬ s < w.sessions.length) :
    w.captured s = "" := by
  rw [captured, session, List.getD_eq_getElem?_getD, List.getElem?_eq_none (Nat.le_of_not_lt unknown)]
  rfl

/-- A text reaches the sink that it was written to. -/
theorem World.captured_write (w : World σ) {s u : SessionId} (text : String)
    (known : s = u → u < w.sessions.length) :
    (w.write s text).captured u = w.captured u ++ said u [(s, text)] := by
  by_cases own : s = u
  · subst own
    rw [said_cons_self, said_nil, String.append_empty]
    exact congrArg SessionState.output (w.session_modifySession s _ (known rfl))
  · rw [said_cons_ne own, said_nil, String.append_empty]
    exact congrArg SessionState.output (w.session_modifySession_ne _ own)

/-- Texts reach the sinks that they were written to. -/
theorem World.captured_writes (w : World σ) (ws : List (SessionId × String)) {u : SessionId}
    (known : u < w.sessions.length) :
    (ws.foldl (fun w (s, text) => w.write s text) w).captured u = w.captured u ++ said u ws := by
  induction ws generalizing w with
  | nil => simp
  | cons e ws ih =>
      have length : (w.write e.1 e.2).sessions.length = w.sessions.length :=
        w.length_modifySession e.1 _
      refine (ih (w.write e.1 e.2) (length ▸ known)).trans ?_
      rw [w.captured_write e.2 fun _ => known, String.append_assoc, ← said_append]
      rfl

/-! ### The relation -/

variable [GuestState σ] {P P' : (α : Type) → Request α → Prop}

/-- The world goes from one to another by requests that satisfy `P`, while the guest writes the texts of
the list, in order. -/
inductive Writes (P : (α : Type) → Request α → Prop) :
    World σ → List (SessionId × String) → World σ → Prop
  /-- The bridge does something on its own side. -/
  | own {w w' : World σ} (guest : w'.guest = w.guest) (length : w'.sessions.length = w.sessions.length)
      (captured : ∀ s, w'.captured s = w.captured s) : Writes P w [] w'
  | ask {α : Type} (w : World σ) (r : Request α) (meets : P α r) :
      Writes P w (GuestState.perform w.held r w.guest).2.1 (w.ask r).2
  | trans {w w₁ w' : World σ} {ws ws' : List (SessionId × String)} :
      Writes P w ws w₁ → Writes P w₁ ws' w' → Writes P w (ws ++ ws') w'

namespace Writes

variable {w w₁ w' : World σ} {ws : List (SessionId × String)}

theorem refl (w : World σ) : Writes P w [] w := .own rfl rfl fun _ => rfl

theorem mono (h : Writes P w ws w') (wider : ∀ α r, P α r → P' α r) : Writes P' w ws w' := by
  induction h with
  | own guest length captured => exact .own guest length captured
  | ask w r meets => exact .ask w r (wider _ r meets)
  | trans _ _ ih₁ ih₂ => exact ih₁.trans ih₂

/-- What follows on the bridge's own side. -/
theorem after (h : Writes P w ws w₁) (rest : Writes P w₁ [] w') : Writes P w ws w' :=
  List.append_nil ws ▸ h.trans rest

theorem length (h : Writes P w ws w') : w'.sessions.length = w.sessions.length := by
  induction h with
  | own guest length captured => exact length
  | ask w r meets => simpa using congrArg List.length (w.books_ask r)
  | trans _ _ ih₁ ih₂ => exact ih₂.trans ih₁

/-- **Every session has what it had, and behind it what was written to its sink.** -/
theorem output (h : Writes P w ws w') {s : SessionId} (known : s < w.sessions.length) :
    w'.captured s = w.captured s ++ said s ws := by
  induction h with
  | own guest length captured => rw [captured, said_nil, String.append_empty]
  | ask w r meets => exact World.captured_writes _ _ known
  | trans first _ ih₁ ih₂ =>
      rw [ih₂ (first.length ▸ known), ih₁ known, said_append, String.append_assoc]

/-- Where the guest writes nothing, what was captured stays as it is. -/
theorem quiet (h : Writes P w [] w') (s : SessionId) : w'.captured s = w.captured s := by
  by_cases known : s < w.sessions.length
  · rw [h.output known, said_nil, String.append_empty]
  · rw [w.captured_unknown known, w'.captured_unknown (h.length ▸ known)]

/-- **What all these requests keep of the guest is kept.** -/
theorem keeps {I : σ → Prop} (h : Writes P w ws w')
    (kept : ∀ {α : Type} (r : Request α) (held : List Ref) (g : σ),
      P α r → I g → I (GuestState.perform held r g).2.2)
    (start : I w.guest) : I w'.guest := by
  induction h with
  | own guest length captured => rwa [guest]
  | ask w r meets =>
      have guest : (w.ask r).2.guest = (GuestState.perform w.held r w.guest).2.2 :=
        World.guest_writes _ _
      rw [guest]
      exact kept r w.held w.guest meets start
  | trans _ _ ih₁ ih₂ => exact ih₂ (ih₁ start)

/-- What the guest was asked. -/
theorem runs (h : Writes P w ws w') : ∃ tr, Runs w tr w' ∧ ∀ q ∈ tr, P q.α q.request := by
  induction h with
  | own guest length captured => exact ⟨[], .stay guest, nofun⟩
  | ask w r meets =>
      exact ⟨_, .single w r, fun q hq => by cases List.mem_singleton.mp hq; exact meets⟩
  | trans _ _ ih₁ ih₂ =>
      obtain ⟨tr, first, meets⟩ := ih₁
      obtain ⟨tr', second, meets'⟩ := ih₂
      exact ⟨tr ++ tr', first.append second, fun q hq =>
        (List.mem_append.mp hq).elim (meets q) (meets' q)⟩

end Writes

/-! ### Computations -/

/-- Whatever the world is, a computation asks for what satisfies `P` alone. -/
def Lets {α : Type} (P : (α : Type) → Request α → Prop) (x : StateM (World σ) α) : Prop :=
  ∀ w, ∃ ws, Writes P w ws (x w).2

namespace Lets

variable {α β ε : Type}

theorem pure (a : α) : Lets P (Pure.pure a : StateM (World σ) α) := fun w => ⟨[], .refl w⟩

theorem bind {x : StateM (World σ) α} {f : α → StateM (World σ) β} (hx : Lets P x)
    (hf : ∀ a, Lets P (f a)) : Lets P (x >>= f) := by
  intro w
  obtain ⟨ws, first⟩ := hx w
  obtain ⟨ws', second⟩ := hf (x w).1 (x w).2
  exact ⟨ws ++ ws', first.trans second⟩

theorem bindExcept {x : ExceptT (Stop ε) (StateM (World σ)) α}
    {f : α → ExceptT (Stop ε) (StateM (World σ)) β} (hx : Lets P x.run)
    (hf : ∀ a, Lets P (f a).run) : Lets P (x >>= f).run := by
  rw [ExceptT.run_bind]
  refine hx.bind fun r => ?_
  cases r with
  | ok a => exact hf a
  | error e => exact pure _

theorem askOr {r : Request α} {f : α → β} {otherwise : β} (meets : P α r) :
    Lets (σ := σ) P (Bridge.askOr r f otherwise) := by
  have asked : Lets (σ := σ) P (ask? r) := fun w => ⟨_, .ask w r meets⟩
  exact asked.bind fun a => by cases a <;> exact pure _

theorem request {r : Request α} (meets : P α r) : Lets (σ := σ) P (Bridge.request r).run := by
  intro w
  have asked : Writes P w _ (w.ask r).2 := .ask w r meets
  refine ⟨(GuestState.perform w.held r w.guest).2.1, ?_⟩
  change Writes P w _ (Bridge.request r w).2
  rw [Bridge.request]
  rcases hr : w.ask r with ⟨a, w'⟩
  rw [hr] at asked
  cases a <;> exact asked

end Lets

/-! ### Starting and ending -/

/-- Whether a session makes the request when it starts: a sink only if it captures output, and only its
own. -/
def Request.ofStart {α : Type} (s : SessionId) (capture : Bool) : Request α → Bool
  | importModule name => name = "builtins" || name = "sys"
  | getAttr _ name => name = "path" || name = "stdout"
  | setAttr _ name _ => name = "stdout"
  | evaluate expression => expression = keywordCallSource
  | newSink u => u = s && capture
  | expect _ _ | newStr _ | newDict _ | insert _ _ _ | typeName _ | str _ => true
  | _ => false

/-- What a session asks for when it starts. -/
def OfStart (s : SessionId) (capture : Bool) (α : Type) (r : Request α) : Prop :=
  r.ofStart s capture = true

/-- Anything but a sink. -/
def NoSink (α : Type) (r : Request α) : Prop := r.sinkOf? = none

theorem OfStart.sink {s u : SessionId} {capture : Bool} {α : Type} {r : Request α}
    (h : OfStart s capture α r) (made : r.sinkOf? = some u) : u = s ∧ capture = true := by
  cases r with
  | newSink v =>
      cases made
      exact ⟨of_decide_eq_true (Bool.and_eq_true_iff.mp h).1, (Bool.and_eq_true_iff.mp h).2⟩
  | _ => cases made

theorem lets_importNow {name : String} (loads : P Ref (.importModule name))
    (checks : ∀ m, P Unit (.expect m .module)) : Lets (σ := σ) P (importNow name).run :=
  (Lets.request loads).bindExcept fun m => (Lets.request (checks m)).bindExcept fun _ => .pure _

theorem lets_raisedText (names : ∀ o, P String (.typeName o)) (shows : ∀ o, P Text (.str o))
    (e : Raised) : Lets (σ := σ) P (raisedText e) :=
  (Lets.askOr (names _)).bind fun _ => (Lets.askOr (shows _)).bind fun _ => .pure _

section

variable {s : SessionId} {capture : Bool}

theorem lets_insertPaths (path : Ref) (position : Nat) (dirs : List String) :
    Lets (σ := σ) (OfStart s capture) (insertPaths path position dirs).run := by
  induction dirs generalizing position with
  | nil => exact .pure _
  | cons dir dirs ih =>
      exact (Lets.request rfl).bindExcept fun d => (Lets.request rfl).bindExcept fun _ =>
        ih (position + 1)

theorem lets_extendSearch (sys : Ref) (dirs : List String) :
    Lets (σ := σ) (OfStart s capture) (extendSearch sys dirs).run := by
  unfold extendSearch
  split
  · exact .pure _
  · exact (Lets.request rfl).bindExcept fun path =>
      (Lets.request rfl).bindExcept fun _ => lets_insertPaths path 0 dirs

/-- Only a session that captures output makes a sink. -/
theorem lets_replaceOutput (s : SessionId) (sys : Ref) (capture : Bool) :
    Lets (σ := σ) (OfStart s capture) (replaceOutput s sys capture).run := by
  unfold replaceOutput
  cases capture with
  | false => exact .pure _
  | true =>
      have sink : OfStart s true Ref (.newSink s) := by
        rw [OfStart, Request.ofStart, decide_eq_true rfl]
        rfl
      have installs : Lets (σ := σ) (OfStart s true) (installSink s sys).run :=
        (Lets.request rfl).bindExcept fun previous => (Lets.request sink).bindExcept fun _ =>
          (Lets.request rfl).bindExcept fun _ => .pure _
      exact installs.bindExcept fun previous => .pure _

/-- The second part of a start, once the globals are made. -/
def startSys (s : SessionId) (config : SessionConfig) (builtins globals : Ref) : Crossing σ Runtime := do
  let sys ← importNow "sys"
  extendSearch sys config.searchPaths
  let keywordCall ← request (.evaluate keywordCallSource)
  let previousOutput ← replaceOutput s sys config.captureOutput
  return ⟨config.scriptName, builtins, globals, [], keywordCall, previousOutput⟩

theorem lets_startSys (s : SessionId) (config : SessionConfig) (builtins globals : Ref) :
    Lets (σ := σ) (OfStart s config.captureOutput) (startSys s config builtins globals).run := by
  refine (lets_importNow rfl fun _ => rfl).bindExcept fun sys => ?_
  refine (lets_extendSearch sys config.searchPaths).bindExcept fun _ => ?_
  refine (Lets.request rfl).bindExcept fun keywordCall => ?_
  exact (lets_replaceOutput s sys config.captureOutput).bindExcept fun previousOutput => .pure _

theorem lets_startRuntime (s : SessionId) (config : SessionConfig) :
    Lets (σ := σ) (OfStart s config.captureOutput) (startRuntime s config).run := by
  refine (lets_importNow rfl fun _ => rfl).bindExcept fun builtins => ?_
  refine (Lets.request rfl).bindExcept fun name => (Lets.request rfl).bindExcept fun globals => ?_
  exact lets_startSys s config builtins globals

end

theorem lets_restoreOutput (rt : Runtime) : Lets (σ := σ) NoSink (restoreOutput rt).run := by
  unfold restoreOutput
  split
  · exact .pure _
  · exact (lets_importNow rfl fun _ => rfl).bindExcept fun sys => Lets.request rfl

theorem lets_noteRestored (restored : Except (Stop Raised) Unit) :
    Lets (σ := σ) NoSink (noteRestored restored) := by
  match restored with
  | .error (.failed e) =>
      exact (lets_raisedText (fun _ => rfl) (fun _ => rfl) e).bind fun message w =>
        ⟨[], .own rfl rfl fun _ => rfl⟩
  | .ok _ | .error (.panicked _) => exact .pure _

/-- What a session holds for itself is not what was captured of it. -/
theorem captured_modifySession {σ : Type} (w : World σ) (s u : SessionId)
    {f : SessionState → SessionState} (same : ∀ st, (f st).output = st.output) :
    (w.modifySession s f).captured u = w.captured u :=
  w.field_modifySession s u SessionState.output same

/-- What a session has made is held for it. -/
theorem writes_settle (s : SessionId) (rt : Runtime) (w : World σ) :
    Writes P w [] ((rt.refs.foldl World.hold w).modifySession s fun st =>
      { st with runtime := some rt }) := by
  refine .own (World.guest_holdAll rt.refs w) ?_ fun u => ?_
  · exact (World.length_modifySession _ s _).trans
      (congrArg List.length (World.sessions_holdAll rt.refs w))
  · refine (captured_modifySession (rt.refs.foldl World.hold w) s u
      (f := fun st => { st with runtime := some rt }) fun _ => rfl).trans ?_
    rw [World.captured, World.captured, World.session, World.session, World.sessions_holdAll]

/-- **A session that enters the guest** asks for nothing but what belongs to a start. -/
theorem writes_enterGuest (s : SessionId) (config : SessionConfig) (w : World σ) :
    ∃ ws, Writes (OfStart s config.captureOutput) w ws (enterGuest s config w).2 := by
  obtain ⟨ws, started⟩ := lets_startRuntime s config w
  rw [enterGuest, bind_apply]
  cases hr : ((startRuntime s config).run w).1 with
  | ok rt => exact ⟨ws, started.after (writes_settle s rt _)⟩
  | error e => cases e with
      | failed e =>
          have tells : Lets (σ := σ) (OfStart s config.captureOutput) (raisedText e) :=
            lets_raisedText (fun _ => rfl) (fun _ => rfl) e
          obtain ⟨ws', told⟩ := tells ((startRuntime s config).run w).2
          exact ⟨ws ++ ws', started.trans told⟩
      | panicked message => exact ⟨ws, started⟩

/-- **A session that leaves the guest** makes no sink. -/
theorem writes_leaveGuest (s : SessionId) (w : World σ) :
    ∃ ws, Writes NoSink w ws (leaveGuest s w).2 := by
  cases runtime : (w.session s).runtime with
  | none =>
      rw [leaveGuest, runtime]
      exact ⟨[], .refl w⟩
  | some rt =>
      have restores : Lets (σ := σ) NoSink (restoreOutput rt).run := lets_restoreOutput rt
      obtain ⟨ws, restored⟩ := restores w
      have cleared : Writes NoSink _ _
          (((restoreOutput rt).run w).2.ask (.clear rt.globals)).2 := .ask _ _ rfl
      have notes : Lets (σ := σ) NoSink (noteRestored ((restoreOutput rt).run w).1) :=
        lets_noteRestored _
      obtain ⟨ws', noted⟩ := notes (((((restoreOutput rt).run w).2.ask (.clear rt.globals)).2.dropAll rt.refs).vacate s)
      have vacated : Writes NoSink (((restoreOutput rt).run w).2.ask (.clear rt.globals)).2 []
          (((((restoreOutput rt).run w).2.ask (.clear rt.globals)).2.dropAll rt.refs).vacate s) := by
        refine .own (dropAll_elsewhere rt.refs _).1 ?_ fun u => ?_
        · exact (World.length_modifySession _ s _).trans
            (congrArg List.length (World.dropAll_sessions _ rt.refs))
        · refine (captured_modifySession (World.dropAll _ rt.refs) s u
            (f := fun st => { st with runtime := none }) fun _ => rfl).trans ?_
          rw [World.captured, World.captured, World.session_dropAll]
      rw [leaveGuest_eq runtime]
      exact ⟨_, (restored.trans (cleared.after vacated)).trans noted⟩

/-! ### Jobs -/

omit [GuestState σ] in
/-- Remembering a module is nothing that the guest sees. -/
theorem captured_remember (cx : Context) (name : String) (m : Ref) (w : World σ) (u : SessionId) :
    (rememberModule cx name m w).2.captured u = w.captured u := by
  dsimp only [rememberModule]
  cases ((w.hold m).session cx.session).runtime with
  | none => rfl
  | some rt =>
      dsimp only
      split <;> exact captured_modifySession _ cx.session u fun _ => rfl

omit [GuestState σ] in
theorem captured_release (w : World σ) (t : Thread) (h : Handle) (u : SessionId) :
    (w.release t h).captured u = w.captured u := by
  have counted : (w.countOut h.session).captured u = w.captured u :=
    captured_modifySession w h.session u fun _ => rfl
  rw [← counted, World.release]
  split
  · rfl
  · cases parks : (w.countOut h.session).park? h.session h.object with
    | none => rfl
    | some w' =>
        obtain ⟨rs, -, rfl⟩ := Option.map_eq_some_iff.mp parks
        exact captured_modifySession (w.countOut h.session) h.session u fun _ => rfl

/-- **Jobs make no sinks.** -/
theorem Moves.writes {cx : Context} {w w' : World σ} {hs hs' : List Handle}
    (m : Moves cx w hs w' hs') : ∃ ws, Writes NoSink w ws w' := by
  induction m with
  | ask w hs r plain => exact ⟨_, .ask w r plain⟩
  | note w hs level message fields h => exact ⟨[], .own rfl rfl fun _ => rfl⟩
  | take w hs r =>
      exact ⟨[], .own rfl (World.length_modifySession _ _ _) fun u =>
        captured_modifySession (w.hold r) cx.session u fun _ => rfl⟩
  | give w h hs own =>
      exact ⟨[], .own (w.guest_release _ h) (Steady.release own w).length (captured_release w _ h)⟩
  | tag w h hs t => exact ⟨[], .refl w⟩
  | remember w hs name m =>
      exact ⟨[], .own (guest_rememberModule cx name m w) (steady_remember name m w).length
        (captured_remember cx name m w)⟩
  | perm w p => exact ⟨[], .refl w⟩
  | trans _ _ ih₁ ih₂ =>
      obtain ⟨ws, first⟩ := ih₁
      obtain ⟨ws', second⟩ := ih₂
      exact ⟨ws ++ ws', first.trans second⟩

end GuestBridge.Bridge
