import GuestBridge.Proofs.Requests.SearchPath

/-!
# What a Start That Fails Leaves Behind

A session that is to enter the guest puts its directories on the search path and its sink in the place of
the output stream, each by requests that can raise. If one of them does, the session has not started, and
nothing is undone: `Scenery.Laws.enterGuest` says that the stream is then what it was before, since
putting the sink there is the last thing that can raise, and that the search path has some first
directories of the session in front.

The guest can be in any state. There may be no stream, no search path or something else than a list in its
place, and the module that holds both may be gone; what is relied on is only that no code that was left
behind runs while the session starts.

## Main results

* `Scenery.Laws.enterGuest` — what a start that fails has done.
-/

namespace GuestBridge.Bridge

open Guest (Ref Raised)

/-- Whether sessions make the request when they start, to make or to look at something. -/
def Request.looksOnly {α : Type} : Request α → Bool
  | insert _ _ _ => false
  | r => r.isUpkeep

/-- What all sessions see of a guest. -/
structure Scene where
  /-- The module that holds the search path and the stream. -/
  sys : Option Ref
  /-- What is in the place of the search path. -/
  list : Option Ref
  /-- What stands on the search path, with nothing for what is no text. -/
  path : List (Option String)
  /-- The output stream. -/
  out : Option Ref
  deriving DecidableEq

/-- A scene with directories put on the search path at a position. -/
def Scene.extended (b : Scene) (position : Nat) (dirs : List String) : Scene :=
  { b with path := b.path.take position ++ (dirs.map some ++ b.path.drop position) }

@[simp] theorem Scene.extended_nil (b : Scene) (position : Nat) : b.extended position [] = b := by
  simp [extended]

/-- How a guest is looked at. -/
structure Scenery (σ : Type) where
  /-- Whether nothing that jobs left behind acts while a session starts. -/
  Sane : σ → Prop
  scene : σ → Scene
  /-- The text that an object stands for. -/
  text : σ → Ref → Option String

namespace Scenery

variable {σ : Type} (V : Scenery σ)

/-- All is in order, and the scene is the given one. -/
def Stands (b : Scene) (g : σ) : Prop := V.Sane g ∧ V.scene g = b

/-- What the bridge relies on where sessions start. No request has to succeed. -/
structure Laws [GuestState σ] : Prop where
  quiet {α : Type} {r : Request α} {g : σ} (held : List Ref) : r.looksOnly = true → V.Sane g →
    V.Stands (V.scene g) (GuestState.perform held r g).2.2
  loads {g : σ} {m : Ref} (held : List Ref) : V.Sane g →
    (GuestState.perform held (.importModule "sys") g).1 = .ok m → (V.scene g).sys = some m
  reads {g : σ} {m l : Ref} (held : List Ref) : V.Sane g → (V.scene g).sys = some m →
    (GuestState.perform held (.getAttr m "path") g).1 = .ok l → (V.scene g).list = some l
  makes {g : σ} {dir : String} {r : Ref} (held : List Ref) : V.Sane g →
    (GuestState.perform held (.newStr dir) g).1 = .ok r →
    V.text (GuestState.perform held (.newStr dir) g).2.2 r = some dir
  /-- What is inserted comes to stand at its position, or behind everything if there is none. -/
  inserts {g : σ} {l : Ref} (held : List Ref) (position : Nat) (r : Ref) : V.Sane g →
    (V.scene g).list = some l →
    V.Stands
      (match (GuestState.perform held (.insert l position r) g).1 with
      | .ok () => { V.scene g with
          path := (V.scene g).path.take position ++ V.text g r :: (V.scene g).path.drop position }
      | .error _ => V.scene g)
      (GuestState.perform held (.insert l position r) g).2.2
  /-- A stream that is refused is not put in the place of the old one. -/
  refuses {g : σ} {m : Ref} {x : Raised} (held : List Ref) (v : Ref) : V.Sane g →
    (V.scene g).sys = some m → (GuestState.perform held (.setAttr m "stdout" v) g).1 = .error x →
    V.Stands (V.scene g) (GuestState.perform held (.setAttr m "stdout" v) g).2.2

/-- First ones of some directories are on the path at a position, and all of them if nothing has
failed. -/
def Extended {ε α : Type} (position : Nat) (dirs : List String) (b : Scene) (r : Except ε α) (g : σ) :
    Prop :=
  ∃ added, added <+: dirs ∧ (r.isOk = true → added = dirs) ∧ V.Stands (b.extended position added) g

variable {V} {b : Scene} {position : Nat} {dirs : List String}

/-- No directory has been inserted yet, and something has failed. -/
theorem Stands.stopped {ε α : Type} {e : ε} {g : σ} (h : V.Stands b g) :
    V.Extended position dirs b (.error e : Except ε α) g :=
  ⟨[], List.nil_prefix, nofun, by rwa [Scene.extended_nil]⟩

/-- One directory more. -/
theorem Extended.cons {ε α : Type} {dir : String} {r : Except ε α} {g : σ}
    (within : position ≤ b.path.length)
    (h : V.Extended (position + 1) dirs (b.extended position [dir]) r g) :
    V.Extended position (dir :: dirs) b r g := by
  obtain ⟨added, first, all, stands⟩ := h
  have same : (b.extended position [dir]).extended (position + 1) added =
      b.extended position (dir :: added) :=
    congrArg (fun path => { b with path }) (inserted_behind within (some dir) (added.map some))
  exact ⟨dir :: added, List.cons_prefix_cons.mpr ⟨rfl, first⟩, fun ok => by rw [all ok], same ▸ stands⟩

variable [GuestState σ]

/-! ### The parts -/

theorem Laws.kept (laws : V.Laws) {α : Type} {r : Request α} (looks : r.looksOnly = true)
    (held : List Ref) {g : σ} (h : V.Stands b g) : V.Stands b (GuestState.perform held r g).2.2 := by
  obtain ⟨sane, rfl⟩ := h
  exact laws.quiet held looks sane

theorem Laws.brings_request (laws : V.Laws) {α : Type} {r : Request α} (looks : r.looksOnly = true) :
    Brings (V.Stands b) (request r).run fun _ => V.Stands b :=
  .request fun held _ h => laws.kept looks held h

theorem Laws.brings_raisedText (laws : V.Laws) (e : Raised) :
    Brings (V.Stands b) (raisedText e) fun _ => V.Stands b :=
  .raisedText e (fun held _ => laws.kept rfl held) fun held _ => laws.kept rfl held

theorem Laws.brings_importBuiltins (laws : V.Laws) :
    Brings (V.Stands b) (importNow "builtins").run fun _ => V.Stands b :=
  .importNow (fun held _ => laws.kept rfl held) fun _ held _ => laws.kept rfl held

/-- A request whose answer, if it is given, is known to be in order. -/
theorem Laws.brings_known (laws : V.Laws) {r : Request Ref} {K : σ → Ref → Prop}
    (looks : r.looksOnly = true)
    (known : ∀ held g m, V.Stands b g → (GuestState.perform held r g).1 = .ok m →
      K (GuestState.perform held r g).2.2 m) :
    Brings (V.Stands b) (request r).run fun m g => V.Stands b g ∧ ∀ x, m = .ok x → K g x := by
  refine .request fun held g h => ⟨laws.kept looks held h, fun x answer => ?_⟩
  cases given : (GuestState.perform held r g).1 with
  | ok m =>
      rw [given] at answer
      cases answer
      exact known held g _ h given
  | error e =>
      rw [given] at answer
      cases answer

/-- If the module that holds the path is loaded, it is that module. -/
theorem Laws.brings_importSys (laws : V.Laws) :
    Brings (V.Stands b) (importNow "sys").run
      fun m g => V.Stands b g ∧ ∀ x, m = .ok x → b.sys = some x := by
  have loaded := laws.brings_known (b := b) (r := .importModule "sys") (K := fun _ m => b.sys = some m)
    rfl fun held g m h given => h.2.symm ▸ laws.loads held h.1 given
  refine loaded.bindExcept (fun m => ?_) fun e g h => ⟨h.1, nofun⟩
  intro w h
  have checked : Brings (V.Stands b) (request (.expect m .module) >>= fun _ => pure m).run
      fun r g => V.Stands b g ∧ ∀ x, r = .ok x → x = m :=
    (laws.brings_request rfl).bindExcept
      (fun _ => .pure fun g h => ⟨h, fun x same => (Except.ok.inj same).symm⟩)
      fun e g h => ⟨h, nofun⟩
  obtain ⟨stands, own⟩ := checked w h.1
  exact ⟨stands, fun x same => own x same ▸ h.2 m rfl⟩

/-- Directories are inserted one after the other into the list that is the path. -/
theorem Laws.brings_insertPaths (laws : V.Laws) (l : Ref) (dirs : List String) :
    ∀ position b, b.list = some l → position ≤ b.path.length →
      Brings (V.Stands b) (insertPaths l position dirs).run (V.Extended position dirs b) := by
  induction dirs with
  | nil =>
      intro position b _ _
      exact .pure fun g h => ⟨[], List.nil_prefix, fun _ => rfl, by rwa [Scene.extended_nil]⟩
  | cons dir dirs ih =>
      intro position b own within
      have made := laws.brings_known (b := b) (r := .newStr dir)
        (K := fun g d => V.text g d = some dir) rfl fun held g r h given => laws.makes held h.1 given
      refine made.bindExcept (fun d => ?_) fun e g h => h.1.stopped
      have put : Brings (fun g => V.Stands b g ∧ ∀ d', (Except.ok d : Except (Stop Raised) Ref) = .ok d' →
            V.text g d' = some dir) (request (.insert l position d)).run
          fun r g => match r with
            | .ok () => V.Stands (b.extended position [dir]) g
            | .error _ => V.Stands b g := by
        refine .request fun held g h => ?_
        obtain ⟨⟨sane, rfl⟩, text⟩ := h
        have stands := laws.inserts held position d sane own
        cases answer : (GuestState.perform held (.insert l position d) g).1 with
        | ok _ =>
            rw [answer, text d rfl] at stands
            exact stands
        | error e =>
            rw [answer] at stands
            exact stands
      refine put.bindExcept (fun _ => ?_) fun e g h => Stands.stopped h
      refine (ih (position + 1) (b.extended position [dir]) own ?_).mono fun r g h => h.cons within
      simp only [Scene.extended, List.length_append, List.length_map, List.length_singleton,
        List.length_take, List.length_drop]
      omega

theorem Laws.brings_extendSearch (laws : V.Laws) {m : Ref} (sys : b.sys = some m) (dirs : List String) :
    Brings (V.Stands b) (extendSearch m dirs).run (V.Extended 0 dirs b) := by
  unfold extendSearch
  split
  · rename_i none
    refine .pure fun g h => ⟨[], List.nil_prefix, fun _ => (List.isEmpty_iff.mp none).symm, ?_⟩
    rwa [Scene.extended_nil]
  · have read := laws.brings_known (b := b) (r := .getAttr m "path") (K := fun _ l => b.list = some l)
      rfl fun held g l h given => h.2 ▸ laws.reads held h.1 (h.2.symm ▸ sys) given
    refine read.bindExcept (fun l => ?_) fun e g h => h.1.stopped
    intro w h
    have checked : Brings (V.Stands b) (request (.expect l .list)).run fun _ => V.Stands b :=
      laws.brings_request rfl
    exact checked.bindExcept (fun _ => laws.brings_insertPaths l dirs 0 b (h.2 l rfl) (Nat.zero_le _))
      (fun e g h => h.stopped) w h.1

/-- Putting the sink in the place of the stream fails only before the stream is changed. -/
theorem Laws.brings_replaceOutput (laws : V.Laws) (s : SessionId) {m : Ref} (sys : b.sys = some m)
    (capture : Bool) : Brings (V.Stands b) (replaceOutput s m capture).run
      fun r g => ∀ e, r = .error e → V.Stands b g := by
  cases capture with
  | false => exact .pure fun g _ => nofun
  | true =>
      have put (sink : Ref) : Brings (V.Stands b) (request (.setAttr m "stdout" sink)).run
          fun r g => ∀ e, r = .error e → V.Stands b g := by
        refine .request fun held g h e raised => ?_
        cases answer : (GuestState.perform held (.setAttr m "stdout" sink) g).1 with
        | ok _ =>
            rw [answer] at raised
            cases raised
        | error x => exact h.2 ▸ laws.refuses held sink h.1 (h.2.symm ▸ sys) answer
      have installed : Brings (V.Stands b) (installSink s m).run
          fun r g => ∀ e, r = .error e → V.Stands b g :=
        (laws.brings_request rfl).bindExcept (fun previous =>
          (laws.brings_request rfl).bindExcept (fun sink =>
            (put sink).bindExcept (fun _ => .pure fun _ _ => nofun) fun e _ h _ _ => h e rfl)
            fun _ _ h _ _ => h) fun _ _ h _ _ => h
      exact installed.bindExcept (fun previous => .pure fun _ _ => nofun) fun e _ h _ _ => h e rfl

/-- What holds of a guest in which a session has failed to start. -/
def Fallen (V : Scenery σ) (dirs : List String) (b : Scene) (g : σ) : Prop :=
  ∃ added, added <+: dirs ∧ V.Stands (b.extended 0 added) g

omit [GuestState σ] in
theorem Stands.fallen {g : σ} (h : V.Stands b g) : V.Fallen dirs b g :=
  ⟨[], List.nil_prefix, by rwa [Scene.extended_nil]⟩

/-- What is done once the directories are on the path. -/
theorem Laws.brings_last (laws : V.Laws) (s : SessionId) {m : Ref} (sys : b.sys = some m)
    (config : SessionConfig) (builtins globals : Ref) :
    Brings (V.Stands b)
      (do
        let keywordCall ← request (.evaluate keywordCallSource)
        let previousOutput ← replaceOutput s m config.captureOutput
        return ⟨config.scriptName, builtins, globals, [], keywordCall, previousOutput⟩ :
          Crossing σ Runtime).run
      fun r g => ∀ e, r = .error e → V.Stands b g := by
  refine (laws.brings_request rfl).bindExcept (fun keywordCall => ?_) fun _ _ h _ _ => h
  exact (laws.brings_replaceOutput s sys config.captureOutput).bindExcept
    (fun previous => .pure fun _ _ => nofun) fun e _ h _ _ => h e rfl

theorem Laws.brings_startRuntime (laws : V.Laws) (s : SessionId) (config : SessionConfig) :
    Brings (V.Stands b) (startRuntime s config).run
      fun r g => ∀ e, r = .error e → V.Fallen config.searchPaths b g := by
  refine laws.brings_importBuiltins.bindExcept (fun builtins => ?_) fun _ _ h _ _ => h.fallen
  refine (laws.brings_request rfl).bindExcept (fun name => ?_) fun _ _ h _ _ => h.fallen
  refine (laws.brings_request rfl).bindExcept (fun globals => ?_) fun _ _ h _ _ => h.fallen
  refine laws.brings_importSys.bindExcept (fun sys => ?_) fun _ _ h _ _ => h.1.fallen
  intro w h
  have own : b.sys = some sys := h.2 sys rfl
  suffices later : Brings (V.Stands b) _ fun (r : Except (Stop Raised) Runtime) g =>
      ∀ e, r = .error e → V.Fallen config.searchPaths b g from later w h.1
  refine (laws.brings_extendSearch own config.searchPaths).bindExcept (fun _ => ?_) fun e g h _ _ => ?_
  · -- whatever fails from here on leaves the directories on the path
    rintro w ⟨added, first, -, stands⟩
    have last := laws.brings_last (b := b.extended 0 added) s own config builtins globals w stands
    exact fun e failed => ⟨added, first, last e failed⟩
  · obtain ⟨added, first, -, stands⟩ := h
    exact ⟨added, first, stands⟩

/-! ### The whole -/

/-- **A start that fails** leaves the stream as it is, and some first directories of the session on the
search path. -/
theorem Laws.enterGuest (laws : V.Laws) {s : SessionId} {config : SessionConfig} {w : World σ}
    (h : V.Stands b w.guest) (failed : (enterGuest s config w).1 ≠ none) :
    V.Fallen config.searchPaths b (enterGuest s config w).2.guest := by
  have started := laws.brings_startRuntime s config w h
  rw [Bridge.enterGuest, bind_apply] at failed ⊢
  generalize (startRuntime s config).run w = after at started failed ⊢
  obtain ⟨r, w'⟩ := after
  cases r with
  | ok rt => exact absurd rfl failed
  | error e =>
      obtain ⟨added, first, stands⟩ := started e rfl
      cases e with
      | failed e => exact ⟨added, first, laws.brings_raisedText e w' stands⟩
      | panicked message => exact ⟨added, first, stands⟩

end Scenery

end GuestBridge.Bridge
