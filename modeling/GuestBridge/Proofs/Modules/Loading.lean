import GuestBridge.Proofs.Modules.Modest
import GuestBridge.Proofs.Process.Effect

/-!
# Loading Modules

A session loads a module once for each name. A name for which it has a module is answered with that
module, and the guest is not asked for it again; a module that is loaded is put in front of the others,
in place of an earlier one of its name.

What is imported from a module is an attribute of it. Where the attribute is missing, a module inside is
loaded in its place. This second way to a module asks the guest without looking at what the session has,
so the module that it loads takes the place of one that the session had under the same name.

## Main statements

* `remembers_of_module` — a name for which a session has a module is answered with that module.
* `Imports.kept` — an import leaves a module in its place, unless it loads another one inside.
* `importFrom_inside` — where it does, the new module is what the session has under the name.
-/

namespace GuestBridge.Bridge

open Guest (Ref Raised)

variable {σ : Type}

/-- Taking out the entries of a key leaves what other keys have. -/
theorem lookup_filter_ne {α β : Type} [DecidableEq α] {k k' : α} (ne : k' ≠ k) (es : List (α × β)) :
    (es.filter (·.1 != k)).lookup k' = es.lookup k' := by
  induction es with
  | nil => rfl
  | cons e es ih =>
      by_cases same : e.1 = k
      · rw [List.filter_cons_of_neg (by simpa using same), ih, List.lookup_cons,
          beq_false_of_ne fun h => ne (h.trans same)]
      · rw [List.filter_cons_of_pos (by simpa using same), List.lookup_cons, List.lookup_cons, ih]

/-! ### The modules of a session -/

namespace World

/-- The modules that a session has loaded, by name. -/
def modules (w : World σ) (s : SessionId) : List (String × Ref) :=
  ((w.session s).runtime.map Runtime.modules).getD []

/-- The module that a session has for a name. -/
def module? (w : World σ) (s : SessionId) (name : String) : Option Ref := (w.modules s).lookup name

variable {w w' : World σ} {s : SessionId}

theorem modules_of_runtime (same : (w'.session s).runtime = (w.session s).runtime) :
    w'.modules s = w.modules s := by
  rw [modules, same, modules]

theorem module?_of_modules (same : w'.modules s = w.modules s) (name : String) :
    w'.module? s name = w.module? s name :=
  congrArg (List.lookup name) same

theorem modules_acquire (w : World σ) (u s : SessionId) (r : Ref) :
    (w.acquire u r).2.modules s = w.modules s :=
  modules_of_runtime ((w.hold r).runtime_modifySession u s fun _ => rfl)

/-- Every module that a session had is still there. -/
def Extends (s : SessionId) (w w' : World σ) : Prop :=
  ∀ name m, w.module? s name = some m → w'.module? s name = some m

theorem Extends.of_modules (same : w'.modules s = w.modules s) : Extends s w w' :=
  fun name _ there => (module?_of_modules same name).trans there

theorem Extends.trans {w'' : World σ} (h : Extends s w w') (h' : Extends s w' w'') : Extends s w w'' :=
  fun name m there => h' name m (h name m there)

end World

theorem Modest.modules {α : Type} {x : StateM (World σ) α} (hx : Modest x) (w : World σ)
    (s : SessionId) : (x w).2.modules s = w.modules s :=
  World.modules_of_runtime (hx w s)

variable {cx : Context} {w w' : World σ} {name : String} {m : Ref}

theorem runtimeOf_modules (cx : Context) (w : World σ) :
    (runtimeOf cx w).1.modules = w.modules cx.session := by
  rw [runtimeOf, World.modules]
  cases (w.session cx.session).runtime <;> rfl

/-- A module that is remembered is put in front of the others. -/
theorem modules_remember (running : (w.session cx.session).runtime.isSome = true) :
    (rememberModule cx name m w).2.modules cx.session =
      (name, m) :: (w.modules cx.session).filter (·.1 != name) := by
  obtain ⟨rt, runtime⟩ := Option.isSome_iff_exists.mp running
  have put (w' : World σ) (same : w'.session cx.session = w.session cx.session) :
      (w'.modifySession cx.session fun st => { st with
        runtime := some { rt with modules := (name, m) :: rt.modules.filter (·.1 != name) } }).modules
          cx.session = (name, m) :: (w.modules cx.session).filter (·.1 != name) := by
    rw [World.modules, World.session_modifySession _ _ _ (lt_of_runtime (same ▸ runtime)), World.modules,
      runtime]
    rfl
  have held : ((w.hold m).session cx.session).runtime = some rt := runtime
  dsimp only [rememberModule]
  rw [held]
  dsimp only
  cases rt.modules.lookup name with
  | none => exact put _ rfl
  | some old => exact put _ rfl

/-- A name for which there was no module is added in front, and nothing else changes. -/
theorem modules_remember_new (running : (w.session cx.session).runtime.isSome = true)
    (absent : w.module? cx.session name = none) :
    (rememberModule cx name m w).2.modules cx.session = (name, m) :: w.modules cx.session := by
  rw [modules_remember running, filter_of_lookup absent]

/-! ### Loading -/

variable [GuestState σ]

theorem modest_importNow (name : String) : Modest (σ := σ) (importNow name).run :=
  (Modest.request (.importModule name)).andThen fun m =>
    (Modest.request (.expect m .module)).andThen fun _ => .pure _

/-- No job takes from a session what it lives on. -/
theorem Turns.running {α : Type} {used : List Handle} {x : StateM (World σ) α} {into : α → List Handle}
    (hx : Turns cx used x into) (w : World σ) (s : SessionId) :
    ((x w).2.session s).runtime.isSome = (w.session s).runtime.isSome := by
  have same := congrArg Option.isSome ((hx w []).base s)
  simpa only [World.base, Option.isSome_map] using same

/-- How loading a module ends, in a session that has something to live on. -/
inductive Loads (cx : Context) (name : String) (w : World σ) :
    Except (Stop Error) Ref × World σ → Prop
  | cached {m : Ref} (there : w.module? cx.session name = some m) :
      Loads cx name w (.ok m, w.note .trace "module cache hit" [("module", name)])
  | loaded {m : Ref} {w₁ w' : World σ} (absent : w.module? cx.session name = none)
      (now : (importNow name).run w = (.ok m, w₁))
      (added : w'.modules cx.session = (name, m) :: w.modules cx.session) :
      Loads cx name w (.ok m, w')
  | stopped {e : Stop Error} {w' : World σ} (absent : w.module? cx.session name = none)
      (kept : w'.modules cx.session = w.modules cx.session) : Loads cx name w (.error e, w')

/-- A crossing that stops makes its operation stop. -/
theorem run_orError_of_error {α : Type} {x : Crossing σ α} {w₁ : World σ} {stop : Stop Raised}
    (stopped : x.run w = (.error stop, w₁)) (cx : Context) (site : Site) :
    ∃ e w₂, (x.orError cx site).run w = (.error e, w₂) := by
  cases stop with
  | failed e => exact ⟨_, _, run_orError_of_failed stopped cx site⟩
  | panicked message =>
      refine ⟨.panicked message, w₁, ?_⟩
      change Crossing.orError x cx site w = _
      rw [Crossing.orError, show x w = _ from stopped]

/-- The session's own modules are looked through first. -/
theorem loadModule_eq (cx : Context) (name : String) (w : World σ) : (loadModule cx name).run w =
    (match w.module? cx.session name with
    | some m => do
      always (note .trace "module cache hit" [("module", name)])
      return m
    | none => do
      let m ← (importNow name).orError cx (.importing name)
      always (note .debug "imported module" [("module", name)])
      always (rememberModule cx name m)
      return m : Boundary σ Ref).run w := by
  rw [World.module?, ← runtimeOf_modules]
  rfl

/-- A name for which the session has a module is answered with that module. -/
theorem loadModule_cached (there : w.module? cx.session name = some m) :
    (loadModule cx name).run w = (.ok m, w.note .trace "module cache hit" [("module", name)]) := by
  rw [loadModule_eq, there]
  rfl

theorem loads_loadModule (cx : Context) (name : String)
    (running : (w.session cx.session).runtime.isSome = true) :
    Loads cx name w ((loadModule cx name).run w) := by
  cases there : w.module? cx.session name with
  | some m =>
      rw [loadModule_cached there]
      exact .cached there
  | none =>
      rw [loadModule_eq, there]
      dsimp only
      have kept := modest_importNow name w cx.session
      rcases now : (importNow name).run w with ⟨stop | m, w₁⟩
      · obtain ⟨e, w₂, failed⟩ := run_orError_of_error now cx (.importing name)
        have kept : (((importNow name).orError cx (.importing name)).run w).2.modules cx.session =
            w.modules cx.session :=
          ((modest_importNow name).orError _).modules w cx.session
        rw [run_bind_of_error failed]
        rw [failed] at kept
        exact .stopped there kept
      · rw [now] at kept
        have modules : w₁.modules cx.session = w.modules cx.session := World.modules_of_runtime kept
        have running₁ : ((w₁.note .debug "imported module" [("module", name)]).session
            cx.session).runtime.isSome = true := (congrArg Option.isSome kept).trans running
        rw [run_bind_of_ok (run_orError_of_ok now cx (.importing name))]
        refine .loaded there now ((modules_remember_new running₁ ?_).trans (congrArg _ modules))
        exact (World.module?_of_modules modules name).trans there

namespace Loads

variable {r : Except (Stop Error) Ref} {m : Ref}

/-- Every module that the session had is still there. -/
theorem kept (loads : Loads cx name w (r, w')) : World.Extends cx.session w w' := by
  cases loads with
  | cached there => exact fun _ _ => id
  | stopped absent kept => exact .of_modules kept
  | loaded absent now added =>
      intro other m there
      have ne : other ≠ name := by
        rintro rfl
        rw [absent] at there
        cases there
      rw [World.module?, added, List.lookup_cons, beq_false_of_ne ne]
      exact there

/-- The session has the module that loading gives. -/
theorem module? (loads : Loads cx name w (.ok m, w')) : w'.module? cx.session name = some m := by
  cases loads with
  | cached there => exact there
  | loaded absent now added => rw [World.module?, added, List.lookup_cons_self]

/-- Loading adds a module at most, and none where it stops. -/
theorem modules (loads : Loads cx name w (r, w')) : w'.modules cx.session = w.modules cx.session ∨
    w.module? cx.session name = none ∧ ∃ m w₁, (importNow name).run w = (.ok m, w₁) ∧ r = .ok m ∧
      w'.modules cx.session = (name, m) :: w.modules cx.session := by
  cases loads with
  | cached there => exact .inl rfl
  | stopped absent kept => exact .inl kept
  | loaded absent now added => exact .inr ⟨absent, _, _, now, rfl, added⟩

end Loads

/-! ### Importing -/

/-- What an import from a module does where an attribute is missing: the module inside is loaded, and
if there is none the attribute is reported. -/
def importInside (cx : Context) (module symbol : String) (missing : Raised) : Boundary σ Handle := do
  if ← always (isRaised missing .attributeError) then
    let qualified := module ++ "." ++ symbol
    match ← always (importNow qualified).run with
    | .ok m =>
      always (note .debug "imported submodule" [("module", qualified)])
      always (rememberModule cx qualified m)
      always (acquire cx m)
    | .error (.failed e) =>
      if ← always (isRaised e .moduleNotFoundError) then failWith cx .member missing
      else failWith cx (.importing qualified) e
    | .error (.panicked message) => panicWith message
  else failWith cx .member missing

/-- What an import makes of a module: an attribute of it, or a module inside. -/
def importOf (cx : Context) (module symbol : String) (parent : Ref) : Boundary σ Handle := do
  match ← always (ask? (.getAttr parent symbol)) with
  | .ok v => always (acquire cx v)
  | .error missing => importInside cx module symbol missing

/-- What is imported is looked up on the module first. -/
theorem run_importOf (module symbol : String) (parent : Ref) (w : World σ) :
    (importOf cx module symbol parent).run w =
      match w.ask (.getAttr parent symbol) with
      | (.ok v, w₁) => (.ok ⟨v, cx.session, none⟩, (w₁.acquire cx.session v).2)
      | (.error missing, w₁) => (importInside cx module symbol missing).run w₁ := by
  rw [importOf, run_always_bind, show ask? _ w = w.ask _ from rfl]
  rcases w.ask (.getAttr parent symbol) with ⟨_ | _, w₁⟩ <;> rfl

theorem importFrom_eq (module symbol : String) : importFrom (σ := σ) cx module symbol =
    loadModule cx module >>= importOf cx module symbol := rfl

/-- An import loads a module inside another one, which has no attribute of the name. -/
inductive LoadsInside (cx : Context) (module symbol : String) (w : World σ) (m : Ref) : Prop
  | intro {parent : Ref} {x : Raised} {w₁ w₂ w₃ w₄ : World σ}
      (first : (loadModule cx module).run w = (.ok parent, w₁))
      (lacks : w₁.ask (.getAttr parent symbol) = (.error x, w₂))
      (missing : isRaised x .attributeError w₂ = (true, w₃))
      (now : (importNow (module ++ "." ++ symbol)).run w₃ = (.ok m, w₄))

/-- How what is imported of a module ends. -/
inductive Fetches (cx : Context) (module symbol : String) (parent : Ref) (w : World σ) :
    Except (Stop Error) Handle × World σ → Prop
  | rests {r : Except (Stop Error) Handle} {w' : World σ}
      (kept : w'.modules cx.session = w.modules cx.session) : Fetches cx module symbol parent w (r, w')
  | inside {x : Raised} {m : Ref} {w₁ w₂ w₃ w' : World σ}
      (lacks : w.ask (.getAttr parent symbol) = (.error x, w₁))
      (missing : isRaised x .attributeError w₁ = (true, w₂))
      (now : (importNow (module ++ "." ++ symbol)).run w₂ = (.ok m, w₃))
      (put : w'.modules cx.session = (module ++ "." ++ symbol, m) ::
        (w.modules cx.session).filter (·.1 != module ++ "." ++ symbol)) :
      Fetches cx module symbol parent w (.ok ⟨m, cx.session, none⟩, w')

/-- A module inside is put in front, in place of an earlier one of its name. -/
theorem modules_importInside (module symbol : String) {x : Raised} {w₁ w₂ : World σ} {m : Ref}
    (running : (w.session cx.session).runtime.isSome = true)
    (missing : isRaised x .attributeError w = (true, w₁))
    (now : (importNow (module ++ "." ++ symbol)).run w₁ = (.ok m, w₂)) :
    ∃ w', (importInside cx module symbol x).run w = (.ok ⟨m, cx.session, none⟩, w') ∧
      w'.modules cx.session = (module ++ "." ++ symbol, m) ::
        (w.modules cx.session).filter (·.1 != module ++ "." ++ symbol) := by
  have asked : (w₁.session cx.session).runtime = (w.session cx.session).runtime := by
    have kept := Modest.askOr (σ := σ) (.belongs x.value (.error .attributeError)) id false w cx.session
    rwa [show askOr _ id false w = _ from missing] at kept
  have same : (w₂.session cx.session).runtime = (w.session cx.session).runtime := by
    have kept := modest_importNow (module ++ "." ++ symbol) w₁ cx.session
    rw [now] at kept
    exact kept.trans asked
  generalize noted : w₂.note .debug "imported submodule" [("module", module ++ "." ++ symbol)] = w₃
  have same₃ : (w₃.session cx.session).runtime = (w.session cx.session).runtime := noted ▸ same
  refine ⟨((rememberModule cx (module ++ "." ++ symbol) m w₃).2.acquire cx.session m).2, ?_, ?_⟩
  · rw [importInside, run_always_bind, missing]
    dsimp only
    rw [if_pos rfl, run_always_bind, now, ← noted]
    rfl
  · rw [World.modules_acquire, modules_remember ((congrArg Option.isSome same₃).trans running),
      World.modules_of_runtime same₃]

/-- Where no module inside is loaded, the modules stay as they are. -/
theorem kept_importInside (module symbol : String) {x : Raised}
    (without : ∀ w₁ m w₂, isRaised x .attributeError w = (true, w₁) →
      (importNow (module ++ "." ++ symbol)).run w₁ ≠ (.ok m, w₂)) :
    (((importInside cx module symbol x).run w).2.session cx.session).runtime =
      (w.session cx.session).runtime := by
  have asked := Modest.askOr (σ := σ) (.belongs x.value (.error .attributeError)) id false w cx.session
  rw [importInside, run_always_bind]
  change ((isRaised x .attributeError w).2.session _).runtime = _ at asked
  rcases missing : isRaised x .attributeError w with ⟨_ | _, w₁⟩
  · rw [missing] at asked
    exact (modest_failWith (α := Handle) .member x w₁ cx.session).trans asked
  · rw [missing] at asked
    dsimp only
    have loaded := modest_importNow (module ++ "." ++ symbol) w₁ cx.session
    rw [if_pos rfl, run_always_bind]
    rcases now : (importNow (module ++ "." ++ symbol)).run w₁ with ⟨(e | message) | m, w₂⟩
    · rw [now] at loaded
      refine Eq.trans ?_ (loaded.trans asked)
      refine Modest.alwaysThen (x := isRaised e .moduleNotFoundError) (.askOr _ _ _) (fun absent => ?_) w₂ _
      cases absent with
      | true => exact modest_failWith .member x
      | false => exact modest_failWith _ e
    · rw [now] at loaded
      exact loaded.trans asked
    · exact absurd now (without w₁ m w₂ missing)

theorem fetches_importOf (module symbol : String) (parent : Ref)
    (running : (w.session cx.session).runtime.isSome = true) :
    Fetches cx module symbol parent w ((importOf cx module symbol parent).run w) := by
  have asked := Modest.ask (σ := σ) (.getAttr parent symbol) w cx.session
  rw [run_importOf]
  change ((w.ask (.getAttr parent symbol)).2.session _).runtime = _ at asked
  rcases lacks : w.ask (.getAttr parent symbol) with ⟨x | v, w₁⟩
  · rw [lacks] at asked
    by_cases inside : ∃ w₂ m w₃, isRaised x .attributeError w₁ = (true, w₂) ∧
        (importNow (module ++ "." ++ symbol)).run w₂ = (.ok m, w₃)
    · obtain ⟨w₂, m, w₃, missing, now⟩ := inside
      obtain ⟨w', given, put⟩ := modules_importInside module symbol
        ((congrArg Option.isSome asked).trans running) missing now
      dsimp only
      rw [given]
      exact .inside lacks missing now (World.modules_of_runtime asked ▸ put)
    · refine .rests (World.modules_of_runtime ((kept_importInside module symbol ?_).trans asked))
      exact fun w₂ m w₃ missing now => inside ⟨w₂, m, w₃, missing, now⟩
  · rw [lacks] at asked
    exact .rests ((World.modules_acquire w₁ cx.session cx.session v).trans
      (World.modules_of_runtime asked))

/-! ### What imports do to the modules of a session -/

variable {module symbol : String}

/-- A module that was loaded is what the session has under the name. -/
theorem importModule_remembers {h : Handle} (running : (w.session cx.session).runtime.isSome = true)
    (given : (importModule cx name).run w = (.ok h, w')) :
    w'.module? cx.session name = some h.object := by
  obtain ⟨m, w₁, loaded, acquired⟩ := run_bind_ok_iff.mp given
  cases acquired
  have loads := loads_loadModule cx name running
  rw [loaded] at loads
  exact (World.module?_of_modules (w₁.modules_acquire cx.session cx.session m) name).trans loads.module?

/-- Loading a module that fails changes nothing of what the session has. -/
theorem importModule_fails {e : Stop Error} (running : (w.session cx.session).runtime.isSome = true)
    (failed : (importModule cx name).run w = (.error e, w')) :
    w'.modules cx.session = w.modules cx.session := by
  have loads := loads_loadModule cx name running
  rcases loaded : (loadModule cx name).run w with ⟨stop | m, w₁⟩
  · rw [importModule, run_bind_of_error loaded] at failed
    cases failed
    rw [loaded] at loads
    cases loads with
    | stopped absent kept => exact kept
  · rw [importModule, run_bind_of_ok loaded] at failed
    cases failed

/-- A module that was loaded stays what the session has under the name. -/
theorem importModule_extends (running : (w.session cx.session).runtime.isSome = true) :
    World.Extends cx.session w ((importModule cx name).run w).2 := by
  have loads := loads_loadModule cx name running
  rcases loaded : (loadModule cx name).run w with ⟨stop | m, w₁⟩
  · rw [loaded] at loads
    rw [importModule, run_bind_of_error loaded]
    exact loads.kept
  · rw [loaded] at loads
    rw [importModule, run_bind_of_ok loaded]
    exact loads.kept.trans (.of_modules (w₁.modules_acquire cx.session cx.session m))

/-- How an import from a module ends. -/
inductive Imports (cx : Context) (module symbol : String) (w : World σ) :
    Except (Stop Error) Handle × World σ → Prop
  /-- The module cannot be loaded. -/
  | unloaded {e : Stop Error} {w' : World σ} (loads : Loads cx module w (.error e, w')) :
      Imports cx module symbol w (.error e, w')
  | given {parent : Ref} {w₁ : World σ} {r : Except (Stop Error) Handle × World σ}
      (loads : Loads cx module w (.ok parent, w₁))
      (first : (loadModule cx module).run w = (.ok parent, w₁))
      (fetches : Fetches cx module symbol parent w₁ r) : Imports cx module symbol w r

theorem imports_importFrom (module symbol : String)
    (running : (w.session cx.session).runtime.isSome = true) :
    Imports cx module symbol w ((importFrom cx module symbol).run w) := by
  have loads := loads_loadModule cx module running
  have quiet : Quiet (σ := σ) cx (loadModule cx module) := quiet_loadModule module
  have still := Turns.running quiet w cx.session
  rw [importFrom_eq]
  rcases first : (loadModule cx module).run w with ⟨stop | parent, w₁⟩
  · rw [first] at loads
    rw [run_bind_of_error first]
    exact .unloaded loads
  · rw [first] at loads still
    rw [run_bind_of_ok first]
    exact .given loads first (fetches_importOf module symbol parent (still.trans running))

namespace Imports

variable {r : Except (Stop Error) Handle}

/-- An import that fails changes nothing of what the session has, but for the module that it was to be
from, which it may have loaded. -/
theorem fails {e : Stop Error} (imports : Imports cx module symbol w (.error e, w')) :
    w'.modules cx.session = w.modules cx.session ∨
      w.module? cx.session module = none ∧ ∃ parent w₁, (importNow module).run w = (.ok parent, w₁) ∧
        w'.modules cx.session = (module, parent) :: w.modules cx.session := by
  cases imports with
  | unloaded loads =>
      cases loads with
      | stopped absent kept => exact .inl kept
  | given loads first fetches =>
      cases fetches with
      | rests kept =>
          rw [kept]
          exact loads.modules.imp_right fun ⟨absent, m, w₁, now, _, added⟩ => ⟨absent, m, w₁, now, added⟩

/-- An import leaves a module in its place, unless it loads another one of the name inside. -/
theorem kept {m : Ref} (imports : Imports cx module symbol w (r, w'))
    (there : w.module? cx.session name = some m)
    (apart : ∀ m', LoadsInside cx module symbol w m' → module ++ "." ++ symbol ≠ name) :
    w'.module? cx.session name = some m := by
  cases imports with
  | unloaded loads => exact loads.kept name m there
  | @given parent w₁ _ loads first fetches =>
      have before := loads.kept name m there
      cases fetches with
      | rests kept => exact (World.module?_of_modules kept name).trans before
      | inside lacks missing now put =>
          have ne := apart _ ⟨first, lacks, missing, now⟩
          rw [World.module?, put, List.lookup_cons, beq_false_of_ne (Ne.symm ne)]
          exact (lookup_filter_ne (Ne.symm ne) _).trans before

end Imports

/-- A module that is loaded inside is given, and is what the session has under its name from then on,
whatever it had before. -/
theorem importFrom_inside (running : (w.session cx.session).runtime.isSome = true)
    (inside : LoadsInside cx module symbol w m) :
    ∃ w', (importFrom cx module symbol).run w = (.ok ⟨m, cx.session, none⟩, w') ∧
      w'.module? cx.session (module ++ "." ++ symbol) = some m := by
  obtain @⟨parent, x, w₁, w₂, w₃, w₄, first, lacks, missing, now⟩ := inside
  have quiet : Quiet (σ := σ) cx (loadModule cx module) := quiet_loadModule module
  have still := Turns.running quiet w cx.session
  have asked := congrArg Option.isSome (Modest.ask (σ := σ) (.getAttr parent symbol) w₁ cx.session)
  change ((w₁.ask (.getAttr parent symbol)).2.session _).runtime.isSome = _ at asked
  rw [first] at still
  rw [lacks] at asked
  obtain ⟨w', given, put⟩ := modules_importInside module symbol (asked.trans (still.trans running))
    missing now
  refine ⟨w', ?_, ?_⟩
  · rw [importFrom_eq, run_bind_of_ok first, run_importOf, lacks]
    exact given
  · rw [World.module?, put, List.lookup_cons_self]

/-! ### What a session that has a module answers -/

/-- The module that a session has under a name answers the imports of it. -/
structure Remembers (cx : Context) (w : World σ) (name : String) (m : Ref) : Prop where
  /-- The name is answered with the module; the guest is not asked. -/
  module : (importModule cx name).run w = (.ok ⟨m, cx.session, none⟩,
    ((w.note .trace "module cache hit" [("module", name)]).acquire cx.session m).2)
  /-- What is imported from it is looked up on the module before anything else is asked. -/
  symbol : ∀ symbol, (importFrom cx name symbol).run w =
    match (w.note .trace "module cache hit" [("module", name)]).ask (.getAttr m symbol) with
    | (.ok v, w₁) => (.ok ⟨v, cx.session, none⟩, (w₁.acquire cx.session v).2)
    | (.error missing, w₁) => (importInside cx name symbol missing).run w₁

theorem remembers_of_module (there : w.module? cx.session name = some m) : Remembers cx w name m where
  module := by
    rw [importModule, run_bind_of_ok (loadModule_cached there)]
    rfl
  symbol symbol := by
    rw [importFrom_eq, run_bind_of_ok (loadModule_cached there), run_importOf]

end GuestBridge.Bridge
