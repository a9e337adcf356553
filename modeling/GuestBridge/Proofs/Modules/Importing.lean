import GuestBridge.Proofs.Modules.Loading

/-!
# Which Failure an Import From a Module Reports

An import from a module can fail twice: the attribute is missing, and the module inside that is loaded in
its place cannot be loaded. One of the two exceptions is reported. `Packages.Settles` says which: where
there is no module inside, the attribute's; where there is one, that of loading it, unless the guest says
that this is an exception for a module that was not found.

A module inside that is there and needs another one that is not raises just such an exception. What is
reported then is the attribute, and why the module could not be loaded is lost (`needless_attribute`).

## Main results

* `settles_importFrom` — how an import from a module that can be loaded ends, in every guest.
* `needless_attribute` — a module that is there is reported as a missing attribute.
-/

namespace GuestBridge.Bridge

open Guest (Ref Raised ErrorKind)

variable {σ : Type} [GuestState σ] {cx : Context} {w w₁ w₂ w₃ w₄ : World σ} {x y : Raised}
  {module symbol : String} {parent m : Ref}

/-! ### Reports -/

/-- What ends in `r` reports, from `w` on, an exception that was raised at a site, and asks the guest for
nothing else than that takes. -/
def Discloses {α : Type} (cx : Context) (site : Site) (x : Raised) (w : World σ)
    (r : Except (Stop Error) α × World σ) : Prop :=
  ∃ tr e, Runs w tr r.2 ∧ Translates cx site x tr e ∧ r.1 = .error (.failed e)

theorem discloses_failWith {α : Type} (site : Site) (x : Raised) (w : World σ) :
    Discloses cx site x w ((failWith cx site x : Boundary σ α).run w) := by
  have traced : Traced (σ := σ) (failure cx site x) (Translates cx site x) := traced_failure site x
  obtain ⟨tr, run, translates⟩ := traced w
  exact ⟨tr, (failure cx site x w).1, run, translates, rfl⟩

omit [GuestState σ] in
/-- What the exception of a load becomes: an error that names the module, if the guest says that it is an
exception for imports, and the exception itself if not. -/
theorem Translates.of_load {name : String} {tr : List Asked} {e : Error}
    (h : Translates cx (.importing name) y tr e) :
    (test y .importError (.ok true) ∈ tr ∧ ∃ d, e = .invalidModule name d) ∨
      test y .importError (.ok true) ∉ tr ∧ ∃ t d, e = .foreignException (cx.handle y.value) t d := by
  cases h with
  | module name diagnosed => exact .inl ⟨by simp, _, rfl⟩
  | foreign diagnosed unspecific tracebacks =>
      have tested := unspecific.not_mem .importError rfl
      refine .inr ⟨?_, _, _, rfl⟩
      simp [diagnosed.not_mem, tracebacks.not_mem, tested]

/-! ### Modules that are there -/

/-- Which modules there are in a guest, whatever comes of loading them. -/
structure Packages (σ : Type) where
  Has : σ → String → Prop

/-- A module that is not there is not found, and the guest says so of the exception. -/
structure Packages.Laws (P : Packages σ) : Prop where
  notFound : ∀ {w : World σ} {name : String}, ¬ P.Has w.guest name → ∃ y w₁ w₂,
    (importNow name).run w = (.error (.failed y), w₁) ∧ isRaised y .moduleNotFoundError w₁ = (true, w₂)

/-- The lookup of an attribute has raised, and the guest says that the attribute is missing. -/
def Lacks (parent : Ref) (symbol : String) (w : World σ) (x : Raised) (w₂ : World σ) : Prop :=
  ∃ w₁, w.ask (.getAttr parent symbol) = (.error x, w₁) ∧ isRaised x .attributeError w₁ = (true, w₂)

/-- How an import from a module ends that was found in `w`. -/
structure Packages.Settles (P : Packages σ) (cx : Context) (module symbol : String) (parent : Ref)
    (w : World σ) (r : Except (Stop Error) Handle × World σ) : Prop where
  /-- An attribute is given, and nothing further is asked. -/
  resolved : ∀ v w₁, w.ask (.getAttr parent symbol) = (.ok v, w₁) →
    r.1 = .ok (cx.handle v) ∧ Runs w₁ [] r.2
  /-- A lookup that fails otherwise than for a missing attribute is what is reported; nothing is
  loaded. -/
  lookup : ∀ x w₁ w₂, w.ask (.getAttr parent symbol) = (.error x, w₁) →
    isRaised x .attributeError w₁ = (false, w₂) → Discloses cx .member x w₂ r
  /-- A module inside that can be loaded is given. -/
  inside : ∀ x w₂ m w₃, Lacks parent symbol w x w₂ →
    (importNow (module ++ "." ++ symbol)).run w₂ = (.ok m, w₃) →
    r.1 = .ok (cx.handle m) ∧ Runs w₃ [] r.2
  /-- Without a module inside, the attribute is what is reported. -/
  neither : ∀ x w₂, Lacks parent symbol w x w₂ → ¬ P.Has w₂.guest (module ++ "." ++ symbol) →
    ∃ y w₃ w₄, (importNow (module ++ "." ++ symbol)).run w₂ = (.error (.failed y), w₃) ∧
      isRaised y .moduleNotFoundError w₃ = (true, w₄) ∧ Discloses cx .member x w₄ r
  /-- A module inside that cannot be loaded is what is reported, by its name if the exception is one for
  imports, where the exception is not one for a module that was not found. -/
  broken : ∀ x w₂ y w₃ w₄, Lacks parent symbol w x w₂ →
    (importNow (module ++ "." ++ symbol)).run w₂ = (.error (.failed y), w₃) →
    isRaised y .moduleNotFoundError w₃ = (false, w₄) →
    ∃ tr e, Runs w₄ tr r.2 ∧ r.1 = .error (.failed e) ∧
      Translates cx (.importing (module ++ "." ++ symbol)) y tr e ∧
      ((test y .importError (.ok true) ∈ tr ∧ ∃ d, e = .invalidModule (module ++ "." ++ symbol) d) ∨
        test y .importError (.ok true) ∉ tr ∧ ∃ t d, e = .foreignException (cx.handle y.value) t d)
  /-- Where it is one, the attribute is what is reported, whether the module inside is there or not. -/
  hidden : ∀ x w₂ y w₃ w₄, Lacks parent symbol w x w₂ →
    (importNow (module ++ "." ++ symbol)).run w₂ = (.error (.failed y), w₃) →
    isRaised y .moduleNotFoundError w₃ = (true, w₄) → Discloses cx .member x w₄ r

/-! ### The parts -/

theorem run_importInside_of_present (raised : isRaised x .attributeError w = (false, w₁)) :
    (importInside cx module symbol x).run w = (failWith cx .member x : Boundary σ Handle).run w₁ := by
  rw [importInside, run_always_bind, raised]
  rfl

theorem run_importInside_of_failed (missing : isRaised x .attributeError w = (true, w₁))
    (failed : (importNow (module ++ "." ++ symbol)).run w₁ = (.error (.failed y), w₂)) :
    (importInside cx module symbol x).run w =
      (if (isRaised y .moduleNotFoundError w₂).1 then failWith cx .member x
        else failWith cx (.importing (module ++ "." ++ symbol)) y : Boundary σ Handle).run
        (isRaised y .moduleNotFoundError w₂).2 := by
  rw [importInside, run_always_bind, missing]
  dsimp only
  rw [if_pos rfl, run_always_bind, failed]
  dsimp only
  rw [run_always_bind]

/-- What follows a load that worked is on the bridge's own side. -/
theorem run_importInside_of_loaded (cx : Context) (missing : isRaised x .attributeError w = (true, w₁))
    (now : (importNow (module ++ "." ++ symbol)).run w₁ = (.ok m, w₂)) :
    ∃ w', (importInside cx module symbol x).run w = (.ok (cx.handle m), w') ∧ w'.guest = w₂.guest := by
  refine ⟨((rememberModule cx (module ++ "." ++ symbol) m
    (w₂.note .debug "imported submodule" [("module", module ++ "." ++ symbol)])).2.acquire
      cx.session m).2, ?_, guest_rememberModule cx _ m _⟩
  rw [importInside, run_always_bind, missing]
  dsimp only
  rw [if_pos rfl, run_always_bind, now]
  rfl

theorem run_importOf_of_lacks (cx : Context) (module : String) (lacks : Lacks parent symbol w x w₂) :
    ∃ w₁, isRaised x .attributeError w₁ = (true, w₂) ∧
      (importOf cx module symbol parent).run w = (importInside cx module symbol x).run w₁ := by
  obtain ⟨w₁, raised, missing⟩ := lacks
  exact ⟨w₁, missing, by rw [run_importOf, raised]⟩

/-- A load that fails hides behind the attribute if its exception is one for a module that was not
found. -/
theorem discloses_hidden (lacks : Lacks parent symbol w x w₂)
    (failed : (importNow (module ++ "." ++ symbol)).run w₂ = (.error (.failed y), w₃))
    (unfound : isRaised y .moduleNotFoundError w₃ = (true, w₄)) :
    Discloses cx .member x w₄ ((importOf cx module symbol parent).run w) := by
  obtain ⟨w₁, missing, run⟩ := run_importOf_of_lacks cx module lacks
  rw [run, run_importInside_of_failed missing failed, unfound, if_pos rfl]
  exact discloses_failWith .member x w₄

/-- Any other exception of a load is reported. -/
theorem discloses_broken (lacks : Lacks parent symbol w x w₂)
    (failed : (importNow (module ++ "." ++ symbol)).run w₂ = (.error (.failed y), w₃))
    (other : isRaised y .moduleNotFoundError w₃ = (false, w₄)) :
    Discloses cx (.importing (module ++ "." ++ symbol)) y w₄
      ((importOf cx module symbol parent).run w) := by
  obtain ⟨w₁, missing, run⟩ := run_importOf_of_lacks cx module lacks
  rw [run, run_importInside_of_failed missing failed, other, if_neg (by simp)]
  exact discloses_failWith _ y w₄

/-! ### The whole -/

/-- **Which failure is reported.** An import from a module that can be loaded gives the attribute or the
module inside; where both fail, the load is what is reported, unless its exception is one for a module
that was not found: then it is the attribute. -/
theorem settles_importFrom {P : Packages σ} (laws : P.Laws)
    (first : (loadModule cx module).run w = (.ok parent, w₁)) :
    P.Settles cx module symbol parent w₁ ((importFrom cx module symbol).run w) := by
  rw [importFrom_eq, run_bind_of_ok first]
  constructor
  case resolved =>
    intro v w₂ found
    rw [run_importOf, found]
    exact ⟨rfl, .stay rfl⟩
  case lookup =>
    intro x w₂ w₃ raised other
    rw [run_importOf, raised]
    dsimp only
    rw [run_importInside_of_present other]
    exact discloses_failWith .member x w₃
  case inside =>
    intro x w₂ m w₃ lacks now
    obtain ⟨w', missing, run⟩ := run_importOf_of_lacks cx module lacks
    obtain ⟨w'', given, same⟩ := run_importInside_of_loaded cx missing now
    rw [run, given]
    exact ⟨rfl, .stay same⟩
  case neither =>
    intro x w₂ lacks absent
    obtain ⟨y, w₃, w₄, failed, unfound⟩ := laws.notFound absent
    exact ⟨y, w₃, w₄, failed, unfound, discloses_hidden lacks failed unfound⟩
  case broken =>
    intro x w₂ y w₃ w₄ lacks failed other
    have disclosed : Discloses cx (.importing (module ++ "." ++ symbol)) y w₄
      ((importOf cx module symbol parent).run w₁) := discloses_broken lacks failed other
    obtain ⟨tr, e, run, translates, result⟩ := disclosed
    exact ⟨tr, e, run, result, translates, translates.of_load⟩
  case hidden => exact fun x w₂ y w₃ w₄ => discloses_hidden

/-! ### A guest with written modules -/

/-- A module as it is written: the names that it gives, the modules that it loads, in order, and the
class of the exception at its end, if there is one. -/
structure Source where
  gives : List String
  needs : List String
  ends : Option ErrorKind
  deriving DecidableEq, Repr

/-- A guest that is nothing but its modules. -/
structure Depot where
  sources : List (String × Source)
  deriving DecidableEq, Repr

namespace Depot

/-- The exceptions of the guest, by their classes. -/
def fault : ErrorKind → Ref
  | .attributeError => ⟨1⟩
  | .moduleNotFoundError => ⟨2⟩
  | .importError => ⟨3⟩
  | _ => ⟨4⟩

/-- The classes that an exception belongs to. -/
def classes (o : Ref) : List ErrorKind :=
  match o.id with
  | 1 => [.attributeError]
  | 2 => [.moduleNotFoundError, .importError]
  | 3 => [.importError]
  | _ => []

/-- Why a module cannot be loaded: it is not there, a module that it needs cannot be loaded, or its own
text ends with an exception. Loads inside one another come to an end some time. -/
def obstacle (d : Depot) : Nat → String → Option ErrorKind
  | 0, _ => some .recursionError
  | depth + 1, name =>
    match d.sources.lookup name with
    | none => some .moduleNotFoundError
    | some source => (source.needs.findSome? (d.obstacle depth)).or source.ends

/-- The object of a module. -/
def moduleRef (d : Depot) (name : String) : Ref := ⟨d.sources.findIdx (·.1 == name) + 5⟩

/-- Answers a request. -/
def answer (d : Depot) : {α : Type} → Request α → Except Raised α
  | _, .importModule name =>
    match d.obstacle (d.sources.length + 1) name with
    | none => .ok (d.moduleRef name)
    | some k => .error ⟨fault k, []⟩
  | _, .getAttr o name =>
    match d.sources[o.id - 5]? with
    | some (_, source) => if name ∈ source.gives then .ok ⟨0⟩ else .error ⟨fault .attributeError, []⟩
    | none => .error ⟨fault .attributeError, []⟩
  | _, .expect _ _ => .ok ()
  | _, .belongs o (.error k) => .ok (k ∈ classes o)
  | _, _ => .error ⟨fault .exception, []⟩

instance : GuestState Depot where
  perform _ r d := (d.answer r, [], d)

/-- The modules that are written. -/
def packages : Packages Depot where
  Has d name := (d.sources.lookup name).isSome = true

/-- Whatever modules there are written, the others are not found. -/
theorem laws : packages.Laws where
  notFound {w name} absent := by
    have unwritten : w.guest.sources.lookup name = none := Option.not_isSome_iff_eq_none.mp absent
    have raised : w.guest.answer (.importModule name) = .error ⟨fault .moduleNotFoundError, []⟩ := by
      simp [answer, obstacle, unwritten]
    have stopped : (request (.importModule name)).run w =
        (.error (.failed ⟨fault .moduleNotFoundError, []⟩), (w.ask (.importModule name)).2) := by
      rw [run_request]
      exact Prod.ext (congrArg (Except.mapError Stop.failed) raised) rfl
    exact ⟨_, _, _, run_bind_of_error stopped _, Prod.ext rfl rfl⟩

/-- A guest at work for its first session. -/
def world (sources : List (String × Source)) : World Depot :=
  ⟨⟨sources⟩, [], [{ SessionState.fresh with runtime := some ⟨"<tether>", ⟨0⟩, ⟨0⟩, [], ⟨0⟩, none⟩ }], []⟩

/-- A package with a module that loads what is not there, and one whose text ends with an exception. -/
def needy : World Depot :=
  world [("pkg", ⟨["VALUE"], [], none⟩), ("pkg.needs", ⟨[], ["no_such_dependency"], none⟩),
    ("pkg.refuses", ⟨[], [], some .importError⟩)]

end Depot

/-- A module inside that refuses to be loaded is reported by its name. -/
theorem settles_importFrom_refuses :
    ∃ parent w₁ e tr, (loadModule ⟨0⟩ "pkg").run Depot.needy = (.ok parent, w₁) ∧
      Depot.packages.Settles ⟨0⟩ "pkg" "refuses" parent w₁
        ((importFrom ⟨0⟩ "pkg" "refuses").run Depot.needy) ∧
      Depot.packages.Has Depot.needy.guest "pkg.refuses" ∧
      ((importFrom ⟨0⟩ "pkg" "refuses").run Depot.needy).1 = .error (.failed e) ∧
      Translates ⟨0⟩ (.importing "pkg.refuses") ⟨Depot.fault .importError, []⟩ tr e ∧
      e.kindName = "invalid_module" := by
  have first : (loadModule ⟨0⟩ "pkg").run Depot.needy = (.ok ⟨5⟩, _) := rfl
  have whole : Depot.packages.Settles ⟨0⟩ "pkg" "refuses" _ _
      ((importFrom ⟨0⟩ "pkg" "refuses").run Depot.needy) := settles_importFrom Depot.laws first
  obtain ⟨tr, e, -, result, translates, -⟩ := whole.broken _ _ _ _ _ ⟨_, rfl, rfl⟩ rfl rfl
  refine ⟨_, _, e, tr, rfl, whole, rfl, result, translates, ?_⟩
  cases result
  rfl

/-- A module inside that is there, and that cannot be loaded because it needs one that is not there, is
reported as a missing attribute; loaded by its own name, it is reported by that name. -/
theorem needless_attribute :
    let inside := (importFrom ⟨0⟩ "pkg" "needs").run Depot.needy
    let named := (importModule ⟨0⟩ "pkg.needs").run Depot.needy
    Depot.packages.Has Depot.needy.guest "pkg.needs" ∧
      (∃ d, inside.1 = .error (.failed (.foreignException ⟨Depot.fault .attributeError, 0, none⟩ none d))) ∧
      ∃ d, named.1 = .error (.failed (.invalidModule "pkg.needs" d)) :=
  ⟨rfl, ⟨_, rfl⟩, _, rfl⟩

end GuestBridge.Bridge
