import GuestBridge.Proofs.Requests.Steps

/-!
# Compiling Scripts

Before a script runs, its text is compiled by a function of the guest. `Compiles` lists what is
asked for that, in order, up to the exception that is raised, if there is one: the function is looked
up, three texts are made, and the function is called with them. Nothing else is asked of the guest.

`Compiler` is how a guest's compiler is looked at, and `Compiler.Laws` what is relied on while it is
in its place: it runs no script.

## Main statements

* `traced_compileScript` — what compiling a script asks, and what an exception becomes.
* `Compiler.Laws.still_compileScript` — compiling a script leaves everything as it is that scripts and
  the host see of it, also when it fails.
-/

namespace GuestBridge.Bridge

open Guest (Ref Raised)

/-- What is asked to compile a script, and how that went. -/
inductive Compiles (rt : Runtime) (source : String) (mode : ScriptMode) :
    List Asked → Except Raised Ref → Prop
  | done (f text file word code : Ref) : Compiles rt source mode
      [⟨.getAttr rt.builtins "compile", .ok f⟩, ⟨.newStr source, .ok text⟩,
        ⟨.newStr rt.scriptName, .ok file⟩, ⟨.newStr mode.word, .ok word⟩,
        ⟨.call f [text, file, word] [], .ok code⟩] (.ok code)
  | notFound (x : Raised) : Compiles rt source mode
      [⟨.getAttr rt.builtins "compile", .error x⟩] (.error x)
  | noText (f : Ref) (x : Raised) : Compiles rt source mode
      [⟨.getAttr rt.builtins "compile", .ok f⟩, ⟨.newStr source, .error x⟩] (.error x)
  | noFile (f text : Ref) (x : Raised) : Compiles rt source mode
      [⟨.getAttr rt.builtins "compile", .ok f⟩, ⟨.newStr source, .ok text⟩,
        ⟨.newStr rt.scriptName, .error x⟩] (.error x)
  | noWord (f text file : Ref) (x : Raised) : Compiles rt source mode
      [⟨.getAttr rt.builtins "compile", .ok f⟩, ⟨.newStr source, .ok text⟩,
        ⟨.newStr rt.scriptName, .ok file⟩, ⟨.newStr mode.word, .error x⟩] (.error x)
  | rejected (f text file word : Ref) (x : Raised) : Compiles rt source mode
      [⟨.getAttr rt.builtins "compile", .ok f⟩, ⟨.newStr source, .ok text⟩,
        ⟨.newStr rt.scriptName, .ok file⟩, ⟨.newStr mode.word, .ok word⟩,
        ⟨.call f [text, file, word] [], .error x⟩] (.error x)

/-- Compiling ends with the first exception that is raised. -/
theorem Compiles.crossed {rt : Runtime} {source : String} {mode : ScriptMode} {tr : List Asked}
    {a : Except Raised Ref} (h : Compiles rt source mode tr a) :
    Crossed (fun _ => True) (fun _ => True) tr (a.mapError Stop.failed) := by
  have raised (before : List Asked) {α : Type} {r : Request α} {x : Raised}
      (calm : ∀ q ∈ before, q.raised = none) :
      Crossed (fun _ => True) (fun _ : Ref => True) (before ++ [⟨r, .error x⟩])
        (.error (.failed x)) :=
    .raised (fun q hq => ⟨trivial, calm q hq⟩) trivial
  cases h with
  | done f text file word code => exact .done (by simp [Asked.raised]) trivial
  | notFound x => exact raised [] (List.forall_mem_nil _)
  | noText f x => exact raised [_] (by simp [Asked.raised])
  | noFile f text x => exact raised [_, _] (by simp [Asked.raised])
  | noWord f text file x => exact raised [_, _, _] (by simp [Asked.raised])
  | rejected f text file word x => exact raised [_, _, _, _] (by simp [Asked.raised])

/-- How compiling a script goes as part of an operation. -/
inductive Compiled (cx : Context) (rt : Runtime) (source : String) (mode : ScriptMode) :
    List Asked → Except (Stop Error) Ref → Prop
  | done {tr : List Asked} {code : Ref} (compiles : Compiles rt source mode tr (.ok code)) :
      Compiled cx rt source mode tr (.ok code)
  | failed {tr report : List Asked} {x : Raised} {e : Error}
      (compiles : Compiles rt source mode tr (.error x))
      (translates : Translates cx .compile x report e) :
      Compiled cx rt source mode (tr ++ report) (.error (.failed e))

variable {σ : Type} [GuestState σ] {cx : Context}

/-- Compiling a script by the functions of a runtime. -/
def compileCall (rt : Runtime) (source : String) (mode : ScriptMode) : Crossing σ Ref := do
  let compile ← request (.getAttr rt.builtins "compile")
  let text ← request (.newStr source)
  let file ← request (.newStr rt.scriptName)
  let word ← request (.newStr mode.word)
  request (.call compile [text, file, word] [])

theorem traced_compileCall (rt : Runtime) (source : String) (mode : ScriptMode) :
    Traced (σ := σ) (compileCall rt source mode).run fun tr r =>
      ∃ a : Except Raised Ref, r = a.mapError .failed ∧ Compiles rt source mode tr a := by
  refine traced_requestThen _ (fun f => ?_) fun x => ⟨.error x, rfl, .notFound x⟩
  refine traced_requestThen _ (fun text => ?_) fun x => ⟨.error x, rfl, .noText f x⟩
  refine traced_requestThen _ (fun file => ?_) fun x => ⟨.error x, rfl, .noFile f text x⟩
  refine traced_requestThen _ (fun word => ?_) fun x => ⟨.error x, rfl, .noWord f text file x⟩
  exact traced_request _ (fun code => ⟨.ok code, rfl, .done f text file word code⟩)
    fun x => ⟨.error x, rfl, .rejected f text file word x⟩

/-- **What compiling a script asks**, and what an exception becomes. -/
theorem traced_compile (rt : Runtime) (source : String) (mode : ScriptMode) :
    Traced (σ := σ) ((compileCall rt source mode).orError cx .compile).run
      (Compiled cx rt source mode) := by
  refine (traced_compileCall rt source mode).orError ?_ ?_ ?_
  · rintro tr code ⟨_ | _, ⟨⟩, compiles⟩
    exact .done compiles
  · rintro tr message ⟨_ | _, ⟨⟩, compiles⟩
  · rintro tr x report e ⟨_ | _, ⟨⟩, compiles⟩ translates
    exact .failed compiles translates

/-- Compiling as part of an operation that makes its requests for the answers alone. -/
theorem Compiled.ends {ρ : Rules} {rt : Runtime} {source : String} {mode : ScriptMode}
    {tr : List Asked} {r : Except (Stop Error) Ref} (adm : ∀ q, ρ.Admits .compile q)
    (h : Compiled cx rt source mode tr r) : Ends ρ cx (fun _ => True) tr r := by
  cases h with
  | done compiles =>
      cases compiles.crossed with
      | done calm h => exact ⟨_, [], by simp, .done (.of_may (fun q _ => adm q) calm) trivial⟩
  | failed compiles translates =>
      exact ⟨_, _, by simp, Crossed.ended (fun q _ => adm q) compiles.crossed translates⟩

/-! ### What compiling leaves as it is -/

/-- How the compiler of a guest is looked at. -/
structure Compiler (σ V : Type) where
  /-- The module of built-in names. -/
  builtins : Ref
  /-- The function that compiles. -/
  compile : Ref
  /-- The function is found under its name, and nothing that scripts left behind waits to be run. -/
  InPlace : σ → Prop
  /-- What running a statement can change: dictionaries, modules, all that scripts see. -/
  look : σ → V
  /-- The exceptions that the interpreter makes by itself. -/
  Own : σ → Ref → Prop

namespace Compiler

variable {V : Type} (C : Compiler σ V)

/-- The requests that compiling comes to, and those by which an exception of the interpreter itself is
described. -/
inductive Asks (g : σ) : {α : Type} → Request α → Prop
  | lookUp : Asks g (.getAttr C.builtins "compile")
  | text (s : String) : Asks g (.newStr s)
  | compile (text file word : Ref) : Asks g (.call C.compile [text, file, word] [])
  | typeName {x : Ref} (own : C.Own g x) : Asks g (.typeName x)
  | str {x : Ref} (own : C.Own g x) : Asks g (.str x)

/-- An exception of the interpreter itself, which has passed through no frame. -/
def Fault (x : Raised) (g : σ) : Prop := x.trace = [] ∧ C.Own g x.value

/-- What is relied on while the compiler is in its place: it runs no script. -/
structure Laws : Prop where
  /-- Nothing else is found under its name. -/
  found {g : σ} {f : Ref} (held : List Ref) : C.InPlace g →
    (GuestState.perform held (.getAttr C.builtins "compile") g).1 = .ok f → f = C.compile
  quiet {α : Type} {r : Request α} {g : σ} (held : List Ref) : C.InPlace g → C.Asks g r →
    (GuestState.perform held r g).2.1 = []
  keeps {α : Type} {r : Request α} {g : σ} (held : List Ref) : C.InPlace g → C.Asks g r →
    C.InPlace (GuestState.perform held r g).2.2 ∧
      C.look (GuestState.perform held r g).2.2 = C.look g ∧
      ∀ x, C.Own g x → C.Own (GuestState.perform held r g).2.2 x
  raises {α : Type} {r : Request α} {g : σ} {x : Raised} (held : List Ref) : C.InPlace g →
    C.Asks g r → (GuestState.perform held r g).1 = .error x →
    C.Fault x (GuestState.perform held r g).2.2

/-- Two worlds that scripts and the host cannot tell apart: the compiler is in its place, and the
guest looks the same, the output of each session and the modules that it has loaded. -/
structure Still (w w' : World σ) : Prop where
  inPlace : C.InPlace w'.guest
  look : C.look w'.guest = C.look w.guest
  output : ∀ s, (w'.session s).output = (w.session s).output
  runtime : ∀ s, (w'.session s).runtime = (w.session s).runtime

variable {C}

omit [GuestState σ] in
theorem Still.refl {w : World σ} (h : C.InPlace w.guest) : C.Still w w :=
  ⟨h, rfl, fun _ => rfl, fun _ => rfl⟩

omit [GuestState σ] in
theorem Still.trans {w w' w'' : World σ} (h : C.Still w w') (h' : C.Still w' w'') :
    C.Still w w'' where
  inPlace := h'.inPlace
  look := h'.look.trans h.look
  output s := (h'.output s).trans (h.output s)
  runtime s := (h'.runtime s).trans (h.runtime s)

/-- Where the compiler is in its place and `P` holds of the guest, a computation changes nothing that
scripts and the host see, and `Q` holds of its result and the guest afterwards. -/
def Calm {α : Type} (C : Compiler σ V) (P : σ → Prop) (x : StateM (World σ) α)
    (Q : α → σ → Prop) : Prop :=
  ∀ w, C.InPlace w.guest → P w.guest → C.Still w (x w).2 ∧ Q (x w).1 (x w).2.guest

namespace Calm

variable {α β : Type} {P : σ → Prop} {x : StateM (World σ) α} {Q : α → σ → Prop}

omit [GuestState σ]

theorem pure {a : α} (h : ∀ g, P g → Q a g) : C.Calm P (Pure.pure a : StateM (World σ) α) Q :=
  fun w inPlace hw => ⟨.refl inPlace, h w.guest hw⟩

theorem bind {f : α → StateM (World σ) β} {Q' : β → σ → Prop} (hx : C.Calm P x Q)
    (hf : ∀ a, C.Calm (Q a) (f a) Q') : C.Calm P (x >>= f) Q' := fun w inPlace hw =>
  have ⟨first, between⟩ := hx w inPlace hw
  have ⟨second, after⟩ := hf (x w).1 (x w).2 first.inPlace between
  ⟨first.trans second, after⟩

/-- A first part, and what follows unless it stops early. -/
theorem bindExcept {ε : Type} {x : ExceptT (Stop ε) (StateM (World σ)) α}
    {f : α → ExceptT (Stop ε) (StateM (World σ)) β} {Q : Except (Stop ε) α → σ → Prop}
    {Q' : Except (Stop ε) β → σ → Prop} (hx : C.Calm P x.run Q)
    (hf : ∀ a, C.Calm (Q (.ok a)) (f a).run Q') (he : ∀ e g, Q (.error e) g → Q' (.error e) g) :
    C.Calm P (x >>= f).run Q' := by
  rw [ExceptT.run_bind]
  refine hx.bind fun r => ?_
  cases r with
  | ok a => exact hf a
  | error e => exact pure fun g hg => he e g hg

/-- Something that sessions keep about handles, or the log. -/
theorem ofBooks {y : StateM (World σ) α} (guest : ∀ w, (y w).2.guest = w.guest)
    (output : ∀ w s, ((y w).2.session s).output = (w.session s).output)
    (runtime : ∀ w s, ((y w).2.session s).runtime = (w.session s).runtime) :
    C.Calm P y fun _ => P := fun w inPlace hw =>
  have same := guest w
  ⟨⟨same ▸ inPlace, congrArg C.look same, output w, runtime w⟩, same ▸ hw⟩

theorem note (level : Level) (message : String) (fields : List (String × String)) :
    C.Calm P (Bridge.note level message fields) fun _ => P :=
  ofBooks (fun _ => rfl) (fun _ _ => rfl) fun _ _ => rfl

theorem acquire (cx : Context) (r : Ref) : C.Calm P (Bridge.acquire cx r) fun _ => P :=
  ofBooks (fun _ => rfl)
    (fun w s => (w.hold r).field_modifySession cx.session s SessionState.output fun _ => rfl)
    fun w s => (w.hold r).field_modifySession cx.session s SessionState.runtime fun _ => rfl

end Calm

/-! #### Requests -/

/-- What is known where a crossing of compiling ends: an exception is one of the interpreter's own. -/
def Yields {α : Type} (C : Compiler σ V) (R : α → Prop) : Except (Stop Raised) α → σ → Prop
  | .ok a, _ => R a
  | .error (.failed x), g => C.Fault x g
  | .error (.panicked _), _ => False

variable {α : Type} {r : Request α} {P : σ → Prop}

theorem Laws.calm_ask (laws : C.Laws) (asks : ∀ g, P g → C.Asks g r) {Q : Except Raised α → σ → Prop}
    (h : ∀ held g, C.InPlace g → P g →
      Q (GuestState.perform held r g).1 (GuestState.perform held r g).2.2) :
    C.Calm P (ask? r) Q := by
  intro w inPlace hw
  have asked := asks w.guest hw
  have written := laws.quiet w.held inPlace asked
  obtain ⟨stays, look, _⟩ := laws.keeps w.held inPlace asked
  have after : (w.ask r).2 = { w with guest := (GuestState.perform w.held r w.guest).2.2 } := by
    simp only [World.ask, written, List.foldl_nil]
  change C.Still w (w.ask r).2 ∧ Q (w.ask r).1 (w.ask r).2.guest
  rw [after]
  exact ⟨⟨stays, look, fun _ => rfl, fun _ => rfl⟩, h w.held w.guest inPlace hw⟩

theorem Laws.calm_askOr {β : Type} (laws : C.Laws) (asks : ∀ g, P g → C.Asks g r) {f : α → β}
    {otherwise : β} (h : ∀ held g, C.InPlace g → P g → P (GuestState.perform held r g).2.2) :
    C.Calm P (askOr r f otherwise) fun _ => P := by
  refine (laws.calm_ask asks (Q := fun _ => P) h).bind fun a => ?_
  cases a <;> exact .pure fun _ hg => hg

/-- A request of compiling raises only exceptions of the interpreter itself. -/
theorem Laws.calm_request (laws : C.Laws) (asks : ∀ g, P g → C.Asks g r) {R : α → Prop}
    (h : ∀ held g a, C.InPlace g → P g → (GuestState.perform held r g).1 = .ok a → R a) :
    C.Calm P (request r).run (C.Yields R) := by
  have asked : C.Calm P (ask? r) fun a g => C.Yields R (a.mapError .failed) g := by
    refine laws.calm_ask asks fun held g inPlace hP => ?_
    cases answer : (GuestState.perform held r g).1 with
    | ok a => exact h held g a inPlace hP answer
    | error x => exact laws.raises held inPlace (asks g hP) answer
  intro w inPlace hw
  have after := asked w inPlace hw
  change C.Still w (w.ask r).2 ∧ C.Yields R ((w.ask r).1.mapError .failed) (w.ask r).2.guest at after
  change C.Still w (Bridge.request r w).2 ∧
    C.Yields R (Bridge.request r w).1 (Bridge.request r w).2.guest
  rw [Bridge.request]
  generalize w.ask r = answer at after ⊢
  obtain ⟨_ | a, w'⟩ := answer <;> exact after

/-! #### Compiling -/

/-- A request of compiling, and what follows. -/
theorem Laws.calm_requestThen {β : Type} (laws : C.Laws) (asks : ∀ g, P g → C.Asks g r)
    {R : α → Prop} {f : α → Crossing σ β} {R' : β → Prop}
    (h : ∀ held g a, C.InPlace g → P g → (GuestState.perform held r g).1 = .ok a → R a)
    (hf : ∀ a, R a → C.Calm (fun _ => True) (f a).run (C.Yields R')) :
    C.Calm P (request r >>= f).run (C.Yields R') := by
  refine (laws.calm_request asks h).bindExcept (fun a => ?_) fun e g known => ?_
  · exact fun w inPlace known => hf a known w inPlace trivial
  · cases e with
    | failed x => exact known
    | panicked message => exact known

theorem Laws.calm_compileCall (laws : C.Laws) {rt : Runtime} (own : rt.builtins = C.builtins)
    (source : String) (mode : ScriptMode) : C.Calm (fun _ => True)
      (compileCall rt source mode).run (C.Yields fun _ : Ref => True) := by
  have text {f : Ref → Crossing σ Ref} (s : String)
      (hf : ∀ t, C.Calm (fun _ => True) (f t).run (C.Yields fun _ => True)) :
      C.Calm (fun _ => True) (request (.newStr s) >>= f).run (C.Yields fun _ => True) :=
    laws.calm_requestThen (R := fun _ => True) (fun _ _ => .text s) (fun _ _ _ _ _ _ => trivial)
      fun t _ => hf t
  unfold compileCall
  rw [own]
  refine laws.calm_requestThen (fun _ _ => .lookUp) (fun held g f inPlace _ => laws.found held inPlace)
    fun f found => ?_
  subst found
  refine text source fun t => text rt.scriptName fun file => text mode.word fun word => ?_
  exact laws.calm_request (fun _ _ => .compile t file word) fun _ _ _ _ _ _ => trivial

/-- Describing an exception of the interpreter itself. -/
theorem Laws.calm_failure (laws : C.Laws) (cx : Context) (x : Raised) :
    C.Calm (C.Fault x) (failure cx .compile x) fun _ => C.Fault x := by
  have stays {α : Type} {r : Request α} (asks : ∀ g, C.Fault x g → C.Asks g r) (held : List Ref) (g : σ)
      (inPlace : C.InPlace g) (fault : C.Fault x g) :
      C.Fault x (GuestState.perform held r g).2.2 :=
    have ⟨_, _, own⟩ := laws.keeps held inPlace (asks g fault)
    ⟨fault.1, own _ fault.2⟩
  have diagnosed : C.Calm (C.Fault x) (diagnose x) fun _ => C.Fault x := by
    have name : ∀ g, C.Fault x g → C.Asks g (.typeName x.value) := fun _ fault => .typeName fault.2
    have message : ∀ g, C.Fault x g → C.Asks g (.str x.value) := fun _ fault => .str fault.2
    refine (laws.calm_askOr name (stays name)).bind fun typeName => ?_
    refine (laws.calm_askOr message (stays message)).bind fun text => ?_
    refine Calm.bind (Q := fun _ => C.Fault x) (fun w inPlace fault => ?_) fun _ => .pure fun _ h => h
    rw [tracebackOf, fault.1]
    exact ⟨.refl inPlace, fault⟩
  refine diagnosed.bind fun d => ?_
  refine Calm.bind (Q := fun _ => C.Fault x) ?_ fun e =>
    (Calm.note _ _ _).bind fun _ => .pure fun _ h => h
  exact (Calm.acquire cx x.value).bind fun _ => .pure fun _ h => h

/-- **Compiling a script leaves everything as it is** that scripts and the host see, also when it
fails. -/
theorem Laws.still_compileScript (laws : C.Laws) {cx : Context} {w : World σ}
    (inPlace : C.InPlace w.guest) (own : (runtimeOf cx w).1.builtins = C.builtins) (source : String)
    (mode : ScriptMode) : C.Still w (compileScript cx source mode w).2 := by
  have ⟨still, yields⟩ := laws.calm_compileCall own source mode w inPlace trivial
  change C.Still w (Crossing.orError (compileCall (runtimeOf cx w).1 source mode) cx .compile w).2
  change C.Still w (compileCall (runtimeOf cx w).1 source mode w).2 at still
  change C.Yields _ (compileCall (runtimeOf cx w).1 source mode w).1
    (compileCall (runtimeOf cx w).1 source mode w).2.guest at yields
  rw [Crossing.orError]
  generalize compileCall (runtimeOf cx w).1 source mode w = after at still yields ⊢
  obtain ⟨(x | message) | code, w'⟩ := after
  · exact still.trans (laws.calm_failure cx x w' still.inPlace yields).1
  · exact still
  · exact still

end Compiler

end GuestBridge.Bridge
