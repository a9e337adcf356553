import GuestBridge.Proofs.Requests.Stream

/-!
# The Search Path Around a Session's Stay

A session puts its directories in front of the guest's module search path when it enters the guest.
It takes none of them out again when it leaves. `Route` is how the path of a guest is looked at, and
`Route.Laws` what is relied on: the path is one list, an object made from a text stands for it, and
nothing else that sessions ask for when they start or end changes the list. No request has to
succeed: a start that fails on the way leaves the directories on the path that it had got to.

## Main results

* `Route.Laws.enterGuest` — a start that succeeds puts all its directories in front, in their order; one
  that fails puts some first ones there.
* `Route.Laws.leaveGuest` — leaving the guest leaves the path as it is.
-/

namespace GuestBridge.Bridge

open Guest (Ref Raised)

/-- Whether sessions make the request when they start or end, apart from inserting a directory. -/
def Request.sparesPath {α : Type} : Request α → Bool
  | insert _ _ _ => false
  | setAttr _ name _ => name = "stdout"
  | r => r.isUpkeep

/-- What stands at a position, and what is put right behind it, stand there together. -/
theorem inserted_behind {α : Type} {p : List α} {position : Nat} (within : position ≤ p.length) (x : α)
    (more : List α) :
    (p.take position ++ x :: p.drop position).take (position + 1) ++
      (more ++ (p.take position ++ x :: p.drop position).drop (position + 1)) =
    p.take position ++ (x :: more ++ p.drop position) := by
  have length : (p.take position).length = position := List.length_take_of_le within
  rw [List.take_append, List.drop_append, length, Nat.add_sub_cancel_left,
    List.take_of_length_le (Nat.le_succ_of_le length.le),
    List.drop_of_length_le (Nat.le_succ_of_le length.le)]
  simp

/-- How the search path of a guest is looked at. -/
structure Route (σ : Type) where
  /-- The module that holds the path. -/
  sys : Ref
  /-- The list that the path is. -/
  list : Ref
  /-- Whether the path is this list, and nothing that jobs left behind changes it. -/
  Sane : σ → Prop
  /-- What stands on the path, with nothing for what is no text. -/
  path : σ → List (Option String)
  /-- The text that an object stands for. -/
  text : σ → Ref → Option String

namespace Route

variable {σ : Type} (V : Route σ)

/-- What the bridge relies on where sessions start and end. -/
structure Laws [GuestState σ] : Prop where
  spares {α : Type} {r : Request α} {g : σ} (held : List Ref) : r.sparesPath = true → V.Sane g →
    V.Sane (GuestState.perform held r g).2.2 ∧ V.path (GuestState.perform held r g).2.2 = V.path g
  loads {g : σ} {m : Ref} (held : List Ref) : V.Sane g →
    (GuestState.perform held (.importModule "sys") g).1 = .ok m → m = V.sys
  reads {g : σ} {l : Ref} (held : List Ref) : V.Sane g →
    (GuestState.perform held (.getAttr V.sys "path") g).1 = .ok l → l = V.list
  makes {g : σ} {dir : String} {r : Ref} (held : List Ref) : V.Sane g →
    (GuestState.perform held (.newStr dir) g).1 = .ok r →
    V.text (GuestState.perform held (.newStr dir) g).2.2 r = some dir
  /-- What is inserted comes to stand at its position, or behind everything if there is none. -/
  inserts {g : σ} (held : List Ref) (position : Nat) (r : Ref) : V.Sane g →
    V.Sane (GuestState.perform held (.insert V.list position r) g).2.2 ∧
      V.path (GuestState.perform held (.insert V.list position r) g).2.2 =
        match (GuestState.perform held (.insert V.list position r) g).1 with
        | .ok () => (V.path g).take position ++ V.text g r :: (V.path g).drop position
        | .error _ => V.path g

/-- All is in order, and the path is the given one. -/
def Leads (p : List (Option String)) (g : σ) : Prop := V.Sane g ∧ V.path g = p

/-- First ones of some directories are on the path at a position, and all of them if nothing has
failed. -/
def Extended {ε α : Type} (position : Nat) (dirs : List String) (p : List (Option String))
    (r : Except ε α) (g : σ) : Prop :=
  ∃ added, added <+: dirs ∧ (r.isOk = true → added = dirs) ∧
    V.Leads (p.take position ++ (added.map some ++ p.drop position)) g

variable {V} {p : List (Option String)} {position : Nat} {dirs : List String}

/-- No directory has been inserted yet, and something has failed. -/
theorem Leads.stopped {ε α : Type} {e : ε} {g : σ} (h : V.Leads p g) :
    V.Extended position dirs p (.error e : Except ε α) g := by
  refine ⟨[], List.nil_prefix, nofun, ?_⟩
  rw [List.map_nil, List.nil_append, List.take_append_drop]
  exact h

/-- One directory more. -/
theorem Extended.cons {ε α : Type} {dir : String} {r : Except ε α} {g : σ}
    (within : position ≤ p.length)
    (h : V.Extended (position + 1) dirs (p.take position ++ some dir :: p.drop position) r g) :
    V.Extended position (dir :: dirs) p r g := by
  obtain ⟨added, first, all, leads⟩ := h
  rw [inserted_behind within] at leads
  exact ⟨dir :: added, List.cons_prefix_cons.mpr ⟨rfl, first⟩, fun ok => by rw [all ok], leads⟩

variable [GuestState σ]

/-! ### The parts -/

theorem Laws.kept (laws : V.Laws) {α : Type} {r : Request α} (spares : r.sparesPath = true)
    (held : List Ref) {g : σ} (h : V.Leads p g) : V.Leads p (GuestState.perform held r g).2.2 :=
  have after := laws.spares held spares h.1
  ⟨after.1, after.2.trans h.2⟩

theorem Laws.brings_request (laws : V.Laws) {α : Type} {r : Request α}
    (spares : r.sparesPath = true) : Brings (V.Leads p) (request r).run fun _ => V.Leads p :=
  .request fun held _ h => laws.kept spares held h

theorem Laws.brings_raisedText (laws : V.Laws) (e : Raised) :
    Brings (V.Leads p) (raisedText e) fun _ => V.Leads p :=
  .raisedText e (fun held _ => laws.kept rfl held) fun held _ => laws.kept rfl held

theorem Laws.brings_importBuiltins (laws : V.Laws) :
    Brings (V.Leads p) (importNow "builtins").run fun _ => V.Leads p :=
  .importNow (fun held _ => laws.kept rfl held) fun _ held _ => laws.kept rfl held

/-- A request for an object that, if it is given, is the given one. -/
theorem Laws.brings_known (laws : V.Laws) {r : Request Ref} (known : Ref)
    (spares : r.sparesPath = true) (same : ∀ held g m, V.Sane g →
      (GuestState.perform held r g).1 = .ok m → m = known) :
    Brings (V.Leads p) (request r).run fun m g => V.Leads p g ∧ (∀ x, m = .ok x → x = known) := by
  refine .request fun held g h => ⟨laws.kept spares held h, fun x answer => ?_⟩
  cases given : (GuestState.perform held r g).1 with
  | ok m =>
      rw [given] at answer
      cases answer
      exact same held g _ h.1 given
  | error e =>
      rw [given] at answer
      cases answer

/-- If the module that holds the path is loaded, it is that module. -/
theorem Laws.brings_importSys (laws : V.Laws) :
    Brings (V.Leads p) (importNow "sys").run fun m g => V.Leads p g ∧ (∀ x, m = .ok x → x = V.sys) := by
  refine (laws.brings_known V.sys rfl fun held g m sane => laws.loads held sane).bindExcept
    (fun m => ?_) fun e g h => ⟨h.1, nofun⟩
  have checked : Brings (V.Leads p) (request (.expect m .module) >>= fun _ => pure m).run
      fun r g => V.Leads p g ∧ ∀ x, r = .ok x → x = m :=
    (laws.brings_request rfl).bindExcept
      (fun _ => .pure fun g h => ⟨h, fun x same => (Except.ok.inj same).symm⟩)
      fun e g h => ⟨h, nofun⟩
  intro w h
  obtain ⟨leads, own⟩ := checked w h.1
  exact ⟨leads, fun x same => (own x same).trans (h.2 m rfl)⟩

/-- Directories are inserted one after the other. -/
theorem Laws.brings_insertPaths (laws : V.Laws) (dirs : List String) :
    ∀ position p, position ≤ p.length → Brings (V.Leads p) (insertPaths V.list position dirs).run
      (V.Extended position dirs p) := by
  induction dirs with
  | nil =>
      refine fun position p _ => .pure fun g h => ⟨[], List.nil_prefix, fun _ => rfl, ?_⟩
      rw [List.map_nil, List.nil_append, List.take_append_drop]
      exact h
  | cons dir dirs ih =>
      intro position p within
      have made : Brings (V.Leads p) (request (.newStr dir)).run fun r g =>
          V.Leads p g ∧ ∀ d, r = .ok d → V.text g d = some dir := by
        refine .request fun held g h => ⟨laws.kept rfl held h, fun d answer => ?_⟩
        cases given : (GuestState.perform held (.newStr dir) g).1 with
        | ok r =>
            rw [given] at answer
            cases answer
            exact laws.makes held h.1 given
        | error e =>
            rw [given] at answer
            cases answer
      refine made.bindExcept (fun d => ?_) fun e g h => h.1.stopped
      have put : Brings (fun g => V.Leads p g ∧ ∀ d', (Except.ok d : Except (Stop Raised) Ref) = .ok d' →
            V.text g d' = some dir) (request (.insert V.list position d)).run
          fun r g => match r with
            | .ok () => V.Leads (p.take position ++ some dir :: p.drop position) g
            | .error _ => V.Leads p g := by
        refine .request fun held g h => ?_
        obtain ⟨sane, path⟩ := laws.inserts held position d h.1.1
        cases answer : (GuestState.perform held (.insert V.list position d) g).1 with
        | ok _ =>
            rw [answer, h.2 d rfl, h.1.2] at path
            exact ⟨sane, path⟩
        | error e =>
            rw [answer, h.1.2] at path
            exact ⟨sane, path⟩
      refine put.bindExcept (fun _ => ?_) fun e g h => Leads.stopped h
      refine (ih (position + 1) (p.take position ++ some dir :: p.drop position) ?_).mono
        fun r g h => h.cons within
      simp only [List.length_append, List.length_cons, List.length_take, List.length_drop]
      omega

theorem Laws.brings_extendSearch (laws : V.Laws) (dirs : List String) :
    Brings (V.Leads p) (extendSearch V.sys dirs).run (V.Extended 0 dirs p) := by
  unfold extendSearch
  split
  · rename_i none
    refine .pure fun g h => ⟨[], List.nil_prefix, fun _ => ?_, h⟩
    exact (List.isEmpty_iff.mp none).symm
  · refine (laws.brings_known V.list rfl fun held g l sane => laws.reads held sane).bindExcept
      (fun l => ?_) fun e g h => h.1.stopped
    intro w h
    obtain rfl : l = V.list := h.2 l rfl
    have checked : Brings (V.Leads p) (request (.expect V.list .list)).run fun _ => V.Leads p :=
      laws.brings_request rfl
    exact checked.bindExcept (fun _ => laws.brings_insertPaths dirs 0 p (Nat.zero_le _))
      (fun e g h => h.stopped) w h.1

theorem Laws.brings_replaceOutput (laws : V.Laws) (s : SessionId) (sys : Ref) (capture : Bool) :
    Brings (V.Leads p) (replaceOutput s sys capture).run fun _ => V.Leads p := by
  cases capture with
  | false => exact .pure fun g h => h
  | true =>
      have installed : Brings (V.Leads p) (installSink s sys).run fun _ => V.Leads p :=
        (laws.brings_request rfl).bindExcept (fun previous =>
          (laws.brings_request rfl).bindExcept (fun sink =>
            (laws.brings_request rfl).bindExcept (fun _ => .pure fun _ h => h) fun _ _ h => h)
            fun _ _ h => h) fun _ _ h => h
      exact installed.bindExcept (fun previous => .pure fun _ h => h) fun _ _ h => h

theorem Laws.brings_startRuntime (laws : V.Laws) (s : SessionId) (config : SessionConfig) :
    Brings (V.Leads p) (startRuntime s config).run (V.Extended 0 config.searchPaths p) := by
  refine laws.brings_importBuiltins.bindExcept (fun builtins => ?_) fun _ _ h => h.stopped
  refine (laws.brings_request rfl).bindExcept (fun name => ?_) fun _ _ h => h.stopped
  refine (laws.brings_request rfl).bindExcept (fun globals => ?_) fun _ _ h => h.stopped
  refine laws.brings_importSys.bindExcept (fun sys => ?_) fun _ _ h => h.1.stopped
  intro w h
  obtain rfl : sys = V.sys := h.2 sys rfl
  refine (laws.brings_extendSearch config.searchPaths).bindExcept (fun _ => ?_) (fun e g h => ?_) w h.1
  · -- from here on all directories are on the path, whatever fails
    have rest : Brings (V.Leads (config.searchPaths.map some ++ p)) _ fun _ =>
        V.Leads (config.searchPaths.map some ++ p) :=
      (laws.brings_request (r := .evaluate keywordCallSource) rfl).bindExcept (fun keywordCall =>
        (laws.brings_replaceOutput s V.sys config.captureOutput).bindExcept
          (fun previous => .pure (a := Except.ok
            (⟨config.scriptName, builtins, globals, [], keywordCall, previous⟩ : Runtime))
            fun g h => h) fun _ _ h => h) fun _ _ h => h
    intro w h
    obtain ⟨added, -, all, leads⟩ := h
    rw [all rfl] at leads
    exact ⟨_, List.prefix_refl _, fun _ => rfl, rest w leads⟩
  · obtain ⟨added, first, -, leads⟩ := h
    exact ⟨added, first, nofun, leads⟩

/-! ### Entering and leaving -/

/-- **Entering the guest** puts the directories of the session in front of the path; if it fails, some
first ones. -/
theorem Laws.enterGuest (laws : V.Laws) {s : SessionId} (config : SessionConfig) (w : World σ)
    (h : V.Leads p w.guest) :
    ∃ added, added <+: config.searchPaths ∧
      ((enterGuest s config w).1 = none → added = config.searchPaths) ∧
      V.Leads (added.map some ++ p) (enterGuest s config w).2.guest := by
  have started := laws.brings_startRuntime s config w h
  rw [Bridge.enterGuest, bind_apply]
  generalize (startRuntime s config).run w = after at started ⊢
  obtain ⟨r, w'⟩ := after
  obtain ⟨added, first, all, leads⟩ := started
  cases r with
  | ok rt =>
      refine ⟨added, first, fun _ => all rfl, ?_⟩
      have same := World.guest_holdAll rt.refs w'
      exact same.symm ▸ leads
  | error e =>
      cases e with
      | failed e =>
          exact ⟨added, first, fun ok => (by cases ok), laws.brings_raisedText e w' leads⟩
      | panicked message => exact ⟨added, first, fun ok => (by cases ok), leads⟩

/-- **Leaving the guest** takes nothing off the path. -/
theorem Laws.leaveGuest (laws : V.Laws) {s : SessionId} {w : World σ} (h : V.Leads p w.guest) :
    V.Leads p (leaveGuest s w).2.guest := by
  cases runtime : (w.session s).runtime with
  | none =>
      rw [Bridge.leaveGuest, runtime]
      exact h
  | some rt =>
      have restored : Brings (V.Leads p) (restoreOutput rt).run fun _ => V.Leads p := by
        unfold restoreOutput
        split
        · exact .pure fun _ h => h
        · exact (laws.brings_importSys.mono fun _ _ h => h.1).bindExcept
            (fun sys => laws.brings_request rfl) fun _ _ h => h
      have back := restored w h
      rw [leaveGuest_eq runtime]
      generalize (restoreOutput rt).run w = after at back ⊢
      obtain ⟨result, w₁⟩ := after
      have cleared : V.Leads p (((w₁.ask (.clear rt.globals)).2.dropAll rt.refs).vacate s).guest := by
        have asked : Brings (V.Leads p) (ask? (.clear rt.globals)) fun _ => V.Leads p :=
          .ask fun held _ h => laws.kept rfl held h
        rw [World.vacate, World.guest_modifySession, (dropAll_elsewhere _ _).1]
        exact asked w₁ back
      cases result with
      | ok _ => exact cleared
      | error e =>
          cases e with
          | failed e => exact laws.brings_raisedText e _ cleared
          | panicked message => exact cleared

end Route

end GuestBridge.Bridge
