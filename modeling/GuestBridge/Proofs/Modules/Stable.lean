import GuestBridge.Proofs.Modules.Loading
import GuestBridge.Proofs.Process.Frames
import GuestBridge.Proofs.Process.Visits

/-!
# The Modules of a Session Over a Whole Run

A module that a session has loaded answers every later import of its name, whatever the guest has done in
between: no step changes it while the session is in the guest. There is one exception. An import from a
package that lacks the attribute loads a module inside the package without looking at what the session
has, and what it loads takes the place of the module that the session had under that name (`Reloads`).

An import that fails can be tried again: it has changed no module of the session, and added none but the
package that it was to import from.

## Main results

* `cached_run` — what becomes of a module that was loaded, in every run.
* `reloaded_inside` — a run in which the same name is answered with two modules.
-/

namespace GuestBridge.Bridge

open Guest (Ref)

/-! ### A guest that forgets its modules

The smallest guest in which sessions can start and which never gives a module twice, as if a script
made it forget each module that it has loaded. The only attribute that anything has in it is the output
stream, so whatever else is imported from a module has to be loaded.
-/

/-- A guest that makes a new module whenever it is to load one. -/
structure Foundry where
  /-- How many modules were made. -/
  made : Nat
  deriving DecidableEq, Repr

namespace Foundry

/-- The object that stands for everything but modules. -/
def thing : Ref := ⟨0⟩

/-- Answers a request; nothing if that raises. -/
def answer (f : Foundry) : {α : Type} → Request α → Option α × Foundry
  | _, .importModule _ => (some ⟨f.made + 1⟩, ⟨f.made + 1⟩)
  | _, .newStr _ | _, .newDict _ | _, .evaluate _ | _, .newSink _ => (some thing, f)
  | _, .getAttr _ name => (if name = "stdout" then some thing else none, f)
  | _, .setAttr _ _ _ | _, .expect _ _ => (some (), f)
  | _, .belongs _ _ => (some true, f)
  | _, _ => (none, f)

instance : GuestState Foundry where
  perform _ r f := match f.answer r with
    | (some a, f) => (.ok a, [], f)
    | (none, f) => (.error ⟨thing, []⟩, [], f)

end Foundry

end GuestBridge.Bridge

namespace GuestBridge.Session

open Bridge
open Guest (Ref)

variable {σ J R : Type}

namespace Desk

variable [GuestState σ]

/-- The module that a session has for a name. -/
def module? (d : Desk σ J R) (s : SessionId) (name : String) : Option Ref :=
  d.process.system.world.module? s name

/-- A step loads a module inside a package, under a name that a session may have a module for. -/
def Reloads (d : Desk σ J R) (m : Move J R) (s : SessionId) (name : String) : Prop :=
  ∃ package symbol r, m = .act (.operate s (.importFrom package symbol)) ∧
    package ++ "." ++ symbol = name ∧ LoadsInside ⟨s⟩ package symbol d.process.system.world r

variable {d d' : Desk σ J R} {m : Move J R} {s : SessionId} {name : String} {r : Ref}

omit [GuestState σ] in
theorem module?_of_runtime (same : (d'.process.system.world.session s).runtime =
    (d.process.system.world.session s).runtime) : d'.module? s name = d.module? s name :=
  World.module?_of_modules (World.modules_of_runtime same) name

omit [GuestState σ] in
/-- A session whose owner is in the guest has something to live on. -/
theorem running_of_inside (housed : d.process.Housed) (inside : d.phase s = .inside) :
    (d.process.system.world.session s).runtime.isSome = true := by
  have base := housed s inside
  rwa [World.base, Option.isSome_map] at base

/-- An operation leaves a module in its place, unless it loads another one of the name inside a
package. -/
theorem module?_operation (op : Operation) {w : World σ}
    (running : (w.session s).runtime.isSome = true) (there : w.module? s name = some r)
    (apart : ∀ package symbol r', op = .importFrom package symbol → package ++ "." ++ symbol = name →
      ¬ LoadsInside ⟨s⟩ package symbol w r') :
    (op.run ⟨s⟩ w).2.module? s name = some r := by
  cases loads : op.isImport with
  | false =>
      exact (World.module?_of_modules ((op.modest_run loads).modules w s) name).trans there
  | true =>
      cases op with
      | importModule other => exact importModule_extends running name r there
      | importFrom package symbol =>
          have imports := imports_importFrom package symbol running
          exact imports.kept there fun r' inside same => apart package symbol r' rfl same inside
      | _ => cases loads

/-- **A step leaves a module of a session in its place** while the session is in the guest, unless it
loads another one of the name inside a package. -/
theorem Effect.module? [HasHandles R] (e : d.Effect m d') (housed : d.process.Housed)
    (inside : d.phase s = .inside) (there : d.module? s name = some r)
    (apart : ¬ d.Reloads m s name) : d'.module? s name = some r ∨ d'.phase s = .outside := by
  have same (kept : (d'.process.system.world.session s).runtime =
      (d.process.system.world.session s).runtime) : d'.module? s name = some r ∨ d'.phase s = .outside :=
    .inl ((module?_of_runtime kept).trans there)
  cases e with
  | rests process | proceeds u l l' known next process => exact same (by rw [process])
  | inner a move inner process =>
      cases inner with
      | aside aside => exact same (aside.runtime s)
      | operates u ticket job op action working system =>
          have world : d'.process.system.world = (op.run ⟨u⟩ d.process.system.world).2 :=
            congrArg System.world system
          by_cases own : s = u
          · subst own
            refine .inl ?_
            rw [Desk.module?, world]
            refine module?_operation op (running_of_inside housed inside) there ?_
            rintro package symbol r' rfl qualified loads
            exact apart ⟨package, symbol, r', action ▸ move, qualified, loads⟩
          · have moves := (op.turns_run : Turns (σ := σ) ⟨u⟩ op.used (op.run ⟨u⟩) id)
              d.process.system.world []
            exact same (world ▸ moves.steady.runtime s own)
      | leaves u idle queue closed system =>
          have world : d'.process.system.world = (leaveGuest u d.process.system.world).2 :=
            congrArg System.world system
          by_cases own : s = u
          · subst own
            refine .inr ?_
            rw [phase, Process.phase_of_modify (congrArg System.controls system),
              if_pos ⟨rfl, lt_of_phase (by simp [inside])⟩]
            rfl
          · exact same (world ▸ (steady_leave d.process.system.world).runtime s own)
  | opens config free process =>
      refine same ?_
      rw [process]
      exact congrArg SessionState.runtime (d.process.system.world.session_concat s)
  | enters u known starting process =>
      have world : d'.process.system.world =
          (enterGuest u (d.process.system.control u).config d.process.system.world).2 := by
        rw [process, Process.prepare, starting]
        rfl
      have other : s ≠ u := by
        rintro rfl
        rw [phase, Process.phase, starting] at inside
        cases inside
      exact same (world ▸ (steady_enter _ d.process.system.world).runtime s other)
  | withdraws u reason known starting process =>
      have gives := process ▸ Process.givesBack_withdraw starting
      exact same (congrArg (fun w : World σ => (w.session s).runtime) gives.world)
  | surrenders u last =>
      obtain ⟨before, -, -, gives⟩ := Process.givesBack_last last
      exact same (congrArg (fun w : World σ => (w.session s).runtime) gives.world)

/-- The owner of a session has been in the guest, and will not be there again. -/
def Past (d : Desk σ J R) (s : SessionId) : Prop :=
  s < d.process.system.controls.length ∧ (d.phase s = .outside ∨ d.phase s = .gone)

omit [GuestState σ] in
theorem Past.not_inside (past : d.Past s) : d.phase s ≠ .inside := by
  rcases past.2 with out | gone
  · simp [out]
  · simp [gone]

theorem Past.shift (past : d.Past s) (shift : d.Shift d')
    (grows : d.process.system.controls.length ≤ d'.process.system.controls.length) : d'.Past s := by
  refine ⟨Nat.lt_of_lt_of_le past.1 grows, ?_⟩
  obtain ⟨known, out | gone⟩ := past
  · cases shift with
    | stays phase | proceeds u l l' known next phase => exact .inl ((phase s).trans out)
    | enters u reason known passes | leaves u leaves passes | withdraws u reason known passes =>
        exact .inl ((passes.stays (by simp [out])).trans out)
    | surrenders u before last own passes =>
        by_cases same : s = u
        · exact .inr (same ▸ passes.there)
        · exact .inl ((passes.others s same).trans out)
    | opens free taken new others => exact .inl ((others s (Nat.ne_of_lt known)).trans out)
  · exact .inr (shift.gone known gone)

/-- An owner in the guest stays there or leaves it. -/
theorem Shift.fromInside (shift : d.Shift d') (inside : d.phase s = .inside) :
    d'.phase s = .inside ∨ d'.phase s = .outside := by
  cases shift with
  | stays phase | proceeds u l l' known next phase => exact .inl ((phase s).trans inside)
  | enters u reason known passes | withdraws u reason known passes =>
      exact .inl ((passes.stays (by simp [inside])).trans inside)
  | leaves u leaves passes =>
      by_cases same : s = u
      · exact .inr (same ▸ passes.there)
      · exact .inl ((passes.others s same).trans inside)
  | surrenders u before last own passes =>
      have apart : d.phase s ≠ before := by rcases last with rfl | rfl <;> simp [inside]
      exact .inl ((passes.stays apart).trans inside)
  | opens free taken new others =>
      exact .inl ((others s (Nat.ne_of_lt (lt_of_phase (by simp [inside])))).trans inside)

/-- A session has a module under a name, unless it has left the guest. -/
def Keeps (d : Desk σ J R) (s : SessionId) (name : String) (r : Ref) : Prop :=
  d.phase s = .inside ∧ d.module? s name = some r ∨ d.Past s

variable [HasHandles R]

/-- From inside the guest, a step keeps what is there afterwards if the session has not left it. -/
theorem keeps_of_inside (inside : d.phase s = .inside)
    (there : (d.step m).phase s = .inside → (d.step m).module? s name = some r) :
    (d.step m).Keeps s name r := by
  rcases (d.effect_step m).shift.fromInside inside with stays | out
  · exact .inl ⟨stays, there stays⟩
  · have known : s < d.process.system.controls.length := lt_of_phase (by simp [inside])
    exact .inr ⟨Nat.lt_of_lt_of_le known (d.touches_step m).grows, .inl out⟩

/-- **Each step keeps a module in its place**, unless it loads another one of the name. -/
theorem Keeps.step (keeps : d.Keeps s name r) (o : d.Orderly) (apart : ¬ d.Reloads m s name) :
    (d.step m).Keeps s name r := by
  have effect := d.effect_step m
  rcases keeps with ⟨inside, there⟩ | past
  · refine keeps_of_inside inside fun stays => ?_
    exact (effect.module? o.sound.housed inside there apart).resolve_right (by simp [stays])
  · exact .inr (past.shift effect.shift (d.touches_step m).grows)

/-- **What was kept so far is kept along a run** in which no step loads another module of the name inside
a package. -/
theorem Keeps.steps {ms : List (Move J R)} (keeps : d.Keeps s name r) (o : d.Orderly)
    (apart : Along (fun d m _ => ¬ d.Reloads m s name) d ms) : (d.steps ms).Keeps s name r := by
  induction ms generalizing d with
  | nil => exact keeps
  | cons m ms ih => exact ih (keeps.step o apart.1) (o.step (d.effect_step m)) apart.2

/-- What becomes of the modules of a session, from a state in which a job of the session is at work. -/
structure Cached (d : Desk σ J R) (s : SessionId) : Prop where
  /-- A module that was loaded answers all imports of its name for as long as the session is in the
  guest, whatever is done in between, unless a step loads another one of the name inside a package. -/
  stable : ∀ name h w, (importModule ⟨s⟩ name).run d.process.system.world = (.ok h, w) →
    ∀ ms : List (Move J R),
      Along (fun d m _ => ¬ d.Reloads m s name) (d.step (.act (.operate s (.importModule name)))) ms →
      ((d.step (.act (.operate s (.importModule name)))).steps ms).phase s = .inside →
      Remembers ⟨s⟩ ((d.step (.act (.operate s (.importModule name)))).steps ms).process.system.world name
        h.object
  /-- Loading a module that fails changes nothing of what the session has. -/
  failed : ∀ name e w, (importModule ⟨s⟩ name).run d.process.system.world = (.error e, w) →
    w.modules s = d.process.system.world.modules s
  /-- An import from a package that fails has at most added the package, which it has loaded. -/
  failedFrom : ∀ package symbol e w,
    (importFrom ⟨s⟩ package symbol).run d.process.system.world = (.error e, w) →
    w.modules s = d.process.system.world.modules s ∨
      d.module? s package = none ∧ ∃ r w₁,
        (importNow package).run d.process.system.world = (.ok r, w₁) ∧
        w.modules s = (package, r) :: d.process.system.world.modules s
  /-- A module that is loaded inside a package is given, and is what the session has under its name from
  then on, whatever it had before. -/
  inside : ∀ package symbol r, LoadsInside ⟨s⟩ package symbol d.process.system.world r →
    ∃ w, (importFrom ⟨s⟩ package symbol).run d.process.system.world = (.ok ⟨r, s, none⟩, w) ∧
      w.module? s (package ++ "." ++ symbol) = some r

/-- A job that loads a module leaves the world as loading does. -/
theorem world_importModule {ticket : Nat} {job : J} (working : d.process.owner s = .working ticket job)
    (name : String) : (d.step (.act (.operate s (.importModule name)))).process.system.world =
      ((importModule ⟨s⟩ name).run d.process.system.world).2 := by
  change (d.inner (.operate s (.importModule name))).process.system.world = _
  rw [Desk.inner, if_pos (by rfl)]
  change (d.process.operate s (.importModule name)).system.world = _
  rw [Process.operate, working]
  dsimp only
  rw [if_pos (show (Operation.importModule name).used.Subperm _ from List.nil_subperm)]
  rfl

/-- **The modules of a session are stable, in every run**: what was loaded under a name is what the name
means until the session leaves the guest, and imports that fail leave nothing behind but the package that
they were to import from; an import that loads a module inside a package replaces one of its name. -/
theorem cached_run (g : σ) (ms : List (Move J R)) {ticket : Nat} {job : J}
    (working : (run g ms).process.owner s = .working ticket job) : (run g ms).Cached s := by
  have o := orderly_run (J := J) (R := R) g ms
  have inside : (run g ms).phase s = .inside := by
    rw [phase, Process.phase, working]
    rfl
  have running := running_of_inside o.sound.housed inside
  refine ⟨fun name h w loaded ms' apart still => ?_, fun name e w => importModule_fails running,
    fun package symbol e w failed => ?_, fun package symbol r => importFrom_inside running⟩
  · have keeps : ((run g ms).step (.act (.operate s (.importModule name)))).Keeps s name h.object := by
      refine keeps_of_inside inside fun _ => ?_
      rw [module?, world_importModule working name, loaded]
      exact importModule_remembers running loaded
    have orderly := o.step ((run g ms).effect_step (.act (.operate s (.importModule name))))
    rcases keeps.steps orderly apart with ⟨-, kept⟩ | past
    · exact remembers_of_module kept
    · exact absurd still past.not_inside
  · have imports := imports_importFrom package symbol running
    rw [failed] at imports
    exact imports.fails

/-! ### One name, two modules -/

/-- A job loads a package and then a module inside it; the package is what it was. -/
theorem cached_foundry :
    let d := run (⟨0⟩ : Foundry) opening
    let d' := (d.step (.act (.operate 0 (.importModule "pkg")))).steps
      [.act (.operate 0 (.importFrom "pkg" "sub"))]
    d.process.owner 0 = .working 0 () ∧ d.Cached 0 ∧
      Remembers ⟨0⟩ d'.process.system.world "pkg" ⟨3⟩ := by
  intro d d'
  have working : d.process.owner 0 = .working 0 () := rfl
  have cached : d.Cached 0 := cached_run _ _ working
  refine ⟨working, cached, cached.stable "pkg" ⟨⟨3⟩, 0, none⟩ _ rfl _ ⟨?_, trivial⟩ rfl⟩
  rintro ⟨package, symbol, r, ⟨⟩, same, -⟩
  exact absurd same (by decide)

/-- A job loads a module by its name and imports it from its package, which has lost it; the name is
then answered with another module, while the session is still in the guest. -/
theorem reloaded_inside :
    let d := run (⟨0⟩ : Foundry) opening
    let d' := d.steps [.act (.operate 0 (.importModule "pkg.sub")),
      .act (.operate 0 (.importFrom "pkg" "sub"))]
    d'.phase 0 = .inside ∧ ∃ h h' w w',
      (importModule ⟨0⟩ "pkg.sub").run d.process.system.world = (.ok h, w) ∧
      (importModule ⟨0⟩ "pkg.sub").run d'.process.system.world = (.ok h', w') ∧
      h.object ≠ h'.object :=
  ⟨rfl, _, _, _, _, rfl, rfl, by decide +kernel⟩

end Desk

end GuestBridge.Session
