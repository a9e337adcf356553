import GuestBridge.Proofs.Requests.Departure
import GuestBridge.Proofs.RoundTrip.Guest

/-!
# The Output Stream Around a Session's Stay

A session that captures output puts its sink in the place of the guest's output stream when it
enters the guest, as the last thing that can go wrong, and puts the stream back when it leaves.
`Outlet` is how the stream of a guest is looked at, and `Outlet.Laws` what is relied on: the module
that holds the stream can be loaded, its attribute can be read and assigned, and nothing else that
sessions ask for when they start or end changes the stream.

## Main results

* `Outlet.Laws.enterGuest` — a start that fails leaves the stream where it is; one that succeeds saves
  the stream and puts the sink of its own session in its place, or does nothing of that.
* `Outlet.Laws.leaveGuest` — leaving the guest puts back what was saved.
-/

namespace GuestBridge.Bridge

open Guest (Ref Raised)

/-- Whether sessions make the request when they start or end, apart from putting a stream in its
place. -/
def Request.isUpkeep {α : Type} : Request α → Bool
  | importModule name => name = "builtins" || name = "sys"
  | getAttr _ name => name = "path" || name = "stdout"
  | evaluate expression => expression = keywordCallSource
  | expect _ _ | newStr _ | newDict _ | insert _ _ _ | newSink _ | clear _ | typeName _ | str _ => true
  | _ => false

/-- How the output stream of a guest is looked at. -/
structure Outlet (σ : Type) where
  /-- The module that holds the stream. -/
  sys : Ref
  /-- The stream that is there while no session runs. -/
  original : Ref
  /-- Whether the module can be loaded, and nothing that jobs left behind changes the stream. -/
  Sane : σ → Prop
  /-- The stream that the module holds. -/
  out : σ → Ref
  /-- The session whose sink an object is. -/
  sinkOf : σ → Ref → Option SessionId

/-! ### Triples -/

/-- Where `P` holds of the guest before a computation, `Q` holds of its result and the guest after. -/
def Brings {σ α : Type} (P : σ → Prop) (x : StateM (World σ) α) (Q : α → σ → Prop) : Prop :=
  ∀ w, P w.guest → Q (x w).1 (x w).2.guest

namespace Brings

variable {σ α β : Type} {P : σ → Prop} {x : StateM (World σ) α} {Q : α → σ → Prop}

theorem mono {Q' : α → σ → Prop} (hx : Brings P x Q) (h : ∀ a g, Q a g → Q' a g) : Brings P x Q' :=
  fun w hw => h _ _ (hx w hw)

theorem pure {a : α} (h : ∀ g, P g → Q a g) : Brings P (Pure.pure a : StateM (World σ) α) Q :=
  fun w hw => h w.guest hw

theorem bind {f : α → StateM (World σ) β} {Q' : β → σ → Prop} (hx : Brings P x Q)
    (hf : ∀ a, Brings (Q a) (f a) Q') : Brings P (x >>= f) Q' :=
  fun w hw => hf _ (x w).2 (hx w hw)

/-- A first part, and what follows it unless it stops early. -/
theorem bindExcept {ε : Type} {x : ExceptT (Stop ε) (StateM (World σ)) α}
    {f : α → ExceptT (Stop ε) (StateM (World σ)) β} {Q : Except (Stop ε) α → σ → Prop}
    {Q' : Except (Stop ε) β → σ → Prop} (hx : Brings P x.run Q)
    (hf : ∀ a, Brings (Q (.ok a)) (f a).run Q') (he : ∀ e g, Q (.error e) g → Q' (.error e) g) :
    Brings P (x >>= f).run Q' := by
  rw [ExceptT.run_bind]
  refine hx.bind fun r => ?_
  cases r with
  | ok a => exact hf a
  | error e => exact pure fun g hg => he e g hg

variable [GuestState σ]

theorem ask {r : Request α} {Q : Except Raised α → σ → Prop}
    (h : ∀ held g, P g → Q (GuestState.perform held r g).1 (GuestState.perform held r g).2.2) :
    Brings P (ask? r) Q := by
  intro w hw
  have same : (w.ask r).2.guest = (GuestState.perform w.held r w.guest).2.2 :=
    World.guest_writes _ _
  change Q (w.ask r).1 (w.ask r).2.guest
  rw [same]
  exact h w.held w.guest hw

theorem askOr {f : α → β} {otherwise : β} {r : Request α}
    (h : ∀ held g, P g → P (GuestState.perform held r g).2.2) :
    Brings P (Bridge.askOr r f otherwise) fun _ => P := by
  refine (ask (Q := fun _ => P) h).bind fun a => ?_
  cases a <;> exact pure fun _ hg => hg

theorem request {r : Request α} {Q : Except (Stop Raised) α → σ → Prop}
    (h : ∀ held g, P g → Q ((GuestState.perform held r g).1.mapError .failed)
      (GuestState.perform held r g).2.2) : Brings P (Bridge.request r).run Q := by
  have asked : Brings P (ask? r) fun a g => Q (a.mapError .failed) g := ask h
  intro w hw
  have after := asked w hw
  change Q ((w.ask r).1.mapError .failed) (w.ask r).2.guest at after
  change Q (Bridge.request r w).1 (Bridge.request r w).2.guest
  rw [Bridge.request]
  rcases hr : w.ask r with ⟨a, w'⟩
  rw [hr] at after
  cases a <;> exact after

/-- Loading a module keeps what the two requests keep that it is made of. -/
theorem importNow {name : String} (load : ∀ held g, P g → P (GuestState.perform held (.importModule name) g).2.2)
    (check : ∀ m held g, P g → P (GuestState.perform held (.expect m .module) g).2.2) :
    Brings P (Bridge.importNow name).run fun _ => P :=
  (request (Q := fun _ => P) load).bindExcept (fun m =>
    (request (Q := fun _ => P) (check m)).bindExcept (fun _ => .pure fun _ h => h) fun _ _ h => h)
    fun _ _ h => h

/-- So does the text of an exception. -/
theorem raisedText (e : Raised)
    (name : ∀ held g, P g → P (GuestState.perform held (.typeName e.value) g).2.2)
    (message : ∀ held g, P g → P (GuestState.perform held (.str e.value) g).2.2) :
    Brings P (Bridge.raisedText e) fun _ => P :=
  (askOr name).bind fun _ => (askOr message).bind fun _ => .pure fun _ h => h

end Brings

theorem World.guest_holdAll {σ : Type} (rs : List Ref) (w : World σ) :
    (rs.foldl World.hold w).guest = w.guest := by
  induction rs generalizing w with
  | nil => rfl
  | cons r rs ih => exact ih (w.hold r)

namespace Outlet

variable {σ : Type} (V : Outlet σ)

/-- What the bridge relies on where sessions start and end. -/
structure Laws [GuestState σ] : Prop where
  /-- The stream that is there while no session runs is no sink. -/
  plain {g : σ} : V.Sane g → V.sinkOf g V.original = none
  /-- What sessions ask for when they start or end does not change the stream. -/
  upkeep {α : Type} {r : Request α} {g : σ} (held : List Ref) : r.isUpkeep = true → V.Sane g →
    V.Sane (GuestState.perform held r g).2.2 ∧ V.out (GuestState.perform held r g).2.2 = V.out g
  loads {g : σ} (held : List Ref) : V.Sane g →
    (GuestState.perform held (.importModule "sys") g).1 = .ok V.sys
  isModule {g : σ} (held : List Ref) : V.Sane g →
    (GuestState.perform held (.expect V.sys .module) g).1 = .ok ()
  reads {g : σ} (held : List Ref) : V.Sane g →
    (GuestState.perform held (.getAttr V.sys "stdout") g).1 = .ok (V.out g)
  makes {g : σ} {s : SessionId} {r : Ref} (held : List Ref) : V.Sane g →
    (GuestState.perform held (.newSink s) g).1 = .ok r →
    V.sinkOf (GuestState.perform held (.newSink s) g).2.2 r = some s
  assigns {g : σ} (held : List Ref) (v : Ref) : V.Sane g →
    (GuestState.perform held (.setAttr V.sys "stdout" v) g).1 = .ok () ∧
      V.Sane (GuestState.perform held (.setAttr V.sys "stdout" v) g).2.2 ∧
      V.out (GuestState.perform held (.setAttr V.sys "stdout" v) g).2.2 = v ∧
      V.sinkOf (GuestState.perform held (.setAttr V.sys "stdout" v) g).2.2 v = V.sinkOf g v

/-- All is in order, and the stream is the given one. -/
def Shows (o : Ref) (g : σ) : Prop := V.Sane g ∧ V.out g = o

/-- What entering the guest comes to where the stream was the given one: what is saved, and whose
sink is in its place. -/
structure Entered (s : SessionId) (capture : Bool) (o : Ref) (saved : Option Ref) (g : σ) : Prop where
  sane : V.Sane g
  saved : saved = if capture then some o else none
  own : capture = true → V.sinkOf g (V.out g) = some s
  kept : capture = false → V.out g = o

variable {V} [GuestState σ] {o : Ref}

/-! ### The parts -/

theorem Laws.kept (laws : V.Laws) {α : Type} {r : Request α} (upkeep : r.isUpkeep = true)
    (held : List Ref) {g : σ} (h : V.Shows o g) : V.Shows o (GuestState.perform held r g).2.2 :=
  have after := laws.upkeep held upkeep h.1
  ⟨after.1, after.2.trans h.2⟩

theorem Laws.brings_request (laws : V.Laws) {α : Type} {r : Request α}
    (upkeep : r.isUpkeep = true) : Brings (V.Shows o) (request r).run fun _ => V.Shows o :=
  .request fun held _ h => laws.kept upkeep held h

theorem Laws.brings_raisedText (laws : V.Laws) (e : Raised) :
    Brings (V.Shows o) (raisedText e) fun _ => V.Shows o :=
  .raisedText e (fun held _ => laws.kept rfl held) fun held _ => laws.kept rfl held

theorem Laws.brings_importBuiltins (laws : V.Laws) :
    Brings (V.Shows o) (importNow "builtins").run fun _ => V.Shows o :=
  .importNow (fun held _ => laws.kept rfl held) fun _ held _ => laws.kept rfl held

/-- Loading the module that holds the stream succeeds. -/
theorem Laws.brings_importSys (laws : V.Laws) :
    Brings (V.Shows o) (importNow "sys").run fun m g => m = .ok V.sys ∧ V.Shows o g := by
  have loaded : Brings (V.Shows o) (request (.importModule "sys")).run
      fun m g => m = .ok V.sys ∧ V.Shows o g :=
    .request fun held _ h => ⟨by rw [laws.loads held h.1]; rfl, laws.kept rfl held h⟩
  refine loaded.bindExcept (fun m => ?_) fun e g h => nomatch h.1
  have checked : Brings (fun g => Except.ok m = (.ok V.sys : Except (Stop Raised) Ref) ∧ V.Shows o g)
      (request (.expect m .module)).run fun a g => a = .ok () ∧ m = V.sys ∧ V.Shows o g := by
    refine .request fun held g h => ?_
    cases h.1
    exact ⟨by rw [laws.isModule held h.2.1]; rfl, rfl, laws.kept rfl held h.2⟩
  exact checked.bindExcept (fun _ => .pure fun g h => ⟨congrArg _ h.2.1, h.2.2⟩)
    fun e g h => nomatch h.1

theorem Laws.brings_insertPaths (laws : V.Laws) (path : Ref) (dirs : List String) :
    ∀ position, Brings (V.Shows o) (insertPaths path position dirs).run fun _ => V.Shows o := by
  induction dirs with
  | nil => exact fun _ => .pure fun _ h => h
  | cons dir dirs ih =>
      exact fun position => (laws.brings_request rfl).bindExcept (fun _ =>
        (laws.brings_request rfl).bindExcept (fun _ => ih _) fun _ _ h => h) fun _ _ h => h

theorem Laws.brings_extendSearch (laws : V.Laws) (sys : Ref) (dirs : List String) :
    Brings (V.Shows o) (extendSearch sys dirs).run fun _ => V.Shows o := by
  unfold extendSearch
  split
  · exact .pure fun _ h => h
  · exact (laws.brings_request rfl).bindExcept (fun path =>
      (laws.brings_request rfl).bindExcept (fun _ => laws.brings_insertPaths path dirs 0)
        fun _ _ h => h) fun _ _ h => h

/-- Putting the sink in the place of the stream fails only before the stream is changed. -/
theorem Laws.brings_installSink (laws : V.Laws) (s : SessionId) :
    Brings (V.Shows o) (installSink s V.sys).run fun
      | .ok previous, g => V.Entered s true o (some previous) g
      | .error _, g => V.Shows o g := by
  have read : Brings (V.Shows o) (request (.getAttr V.sys "stdout")).run
      fun a g => a = .ok o ∧ V.Shows o g :=
    .request fun held g h => ⟨by rw [laws.reads held h.1, h.2]; rfl, laws.kept rfl held h⟩
  refine read.bindExcept (fun previous => ?_) fun e g h => nomatch h.1
  have made : Brings (fun g => Except.ok previous = (.ok o : Except (Stop Raised) Ref) ∧ V.Shows o g)
      (request (.newSink s)).run fun a g => previous = o ∧ V.Shows o g ∧
        ∀ sink, a = .ok sink → V.sinkOf g sink = some s := by
    refine .request fun held g h => ⟨Except.ok.inj h.1, laws.kept rfl held h.2, fun sink made => ?_⟩
    cases answer : (GuestState.perform held (.newSink s) g).1 with
    | ok r =>
        rw [answer] at made
        cases made
        exact laws.makes held h.2.1 answer
    | error e =>
        rw [answer] at made
        cases made
  refine made.bindExcept (fun sink => ?_) fun e g h => h.2.1
  have put : Brings (fun g => previous = o ∧ V.Shows o g ∧
        ∀ sink', (Except.ok sink : Except (Stop Raised) Ref) = .ok sink' → V.sinkOf g sink' = some s)
      (request (.setAttr V.sys "stdout" sink)).run
      fun a g => a = .ok () ∧ V.Entered s true o (some previous) g := by
    refine .request fun held g h => ?_
    obtain ⟨answer, sane, out, same⟩ := laws.assigns held sink h.2.1.1
    refine ⟨by rw [answer]; rfl, sane, by rw [h.1]; rfl, fun _ => ?_, (nomatch ·)⟩
    rw [out, same]
    exact h.2.2 sink rfl
  exact put.bindExcept (fun _ => .pure fun g h => h.2) fun e g h => nomatch h.1

theorem Laws.brings_replaceOutput (laws : V.Laws) (s : SessionId) (capture : Bool) :
    Brings (V.Shows o) (replaceOutput s V.sys capture).run fun
      | .ok saved, g => V.Entered s capture o saved g
      | .error _, g => V.Shows o g := by
  cases capture with
  | false => exact .pure fun g h => ⟨h.1, rfl, (nomatch ·), fun _ => h.2⟩
  | true =>
      exact (laws.brings_installSink s).bindExcept (fun previous => .pure fun g h => h) fun _ _ h => h

theorem Laws.brings_startRuntime (laws : V.Laws) (s : SessionId) (config : SessionConfig) :
    Brings (V.Shows o) (startRuntime s config).run fun
      | .ok rt, g => V.Entered s config.captureOutput o rt.previousOutput g
      | .error _, g => V.Shows o g := by
  refine laws.brings_importBuiltins.bindExcept (fun builtins => ?_) fun _ _ h => h
  refine (laws.brings_request rfl).bindExcept (fun name => ?_) fun _ _ h => h
  refine (laws.brings_request rfl).bindExcept (fun globals => ?_) fun _ _ h => h
  refine laws.brings_importSys.bindExcept (fun sys => ?_) fun _ _ h => h.2
  by_cases own : sys = V.sys
  · subst own
    refine Brings.bindExcept (Q := fun _ => V.Shows o) (fun w h =>
      laws.brings_extendSearch V.sys config.searchPaths w h.2) (fun _ => ?_) fun _ _ h => h
    refine (laws.brings_request rfl).bindExcept (fun keywordCall => ?_) fun _ _ h => h
    exact (laws.brings_replaceOutput s config.captureOutput).bindExcept
      (fun saved => .pure fun g h => h) fun _ _ h => h
  · exact fun w h => absurd (Except.ok.inj h.1) own

/-! ### Entering and leaving -/

/-- **Entering the guest** leaves the stream where it is, or puts a sink of the session in its place,
which it then lives with. -/
theorem Laws.enterGuest (laws : V.Laws) {s : SessionId} (config : SessionConfig) (w : World σ)
    (h : V.Shows o w.guest) :
    match (enterGuest s config w).1 with
    | none => ∃ rt, ((startRuntime s config).run w).1 = .ok rt ∧
        V.Entered s config.captureOutput o rt.previousOutput (enterGuest s config w).2.guest
    | some _ => V.Shows o (enterGuest s config w).2.guest := by
  have started := laws.brings_startRuntime s config w h
  rw [Bridge.enterGuest, bind_apply]
  generalize (startRuntime s config).run w = after at started ⊢
  obtain ⟨r, w'⟩ := after
  cases r with
  | ok rt =>
      refine ⟨rt, rfl, ?_⟩
      have same := World.guest_holdAll rt.refs w'
      have entered : V.Entered s config.captureOutput o rt.previousOutput w'.guest := started
      rwa [← same] at entered
  | error e =>
      cases e with
      | failed e => exact laws.brings_raisedText e w' started
      | panicked message => exact started

/-- **Leaving the guest** puts the saved stream back. -/
theorem Laws.leaveGuest (laws : V.Laws) {s : SessionId} {rt : Runtime} {w : World σ}
    (runtime : (w.session s).runtime = some rt) (sane : V.Sane w.guest) :
    V.Shows (rt.previousOutput.getD (V.out w.guest)) (leaveGuest s w).2.guest := by
  have restored : ∀ o, Brings (V.Shows o) (restoreOutput rt).run
      fun r => V.Shows (rt.previousOutput.getD o) := by
    intro o
    unfold restoreOutput
    split
    · rename_i nothing
      rw [nothing]
      exact .pure fun _ h => h
    · rename_i previous some_
      rw [some_]
      refine laws.brings_importSys.bindExcept (fun sys => ?_) fun e g h => nomatch h.1
      refine .request fun held g h => ?_
      cases h.1
      obtain ⟨-, sane, out, -⟩ := laws.assigns held previous h.2.1
      exact ⟨sane, out⟩
  have back := restored (V.out w.guest) w ⟨sane, rfl⟩
  rw [leaveGuest_eq runtime]
  generalize (restoreOutput rt).run w = after at back ⊢
  obtain ⟨result, w₁⟩ := after
  have cleared : V.Shows (rt.previousOutput.getD (V.out w.guest))
      (((w₁.ask (.clear rt.globals)).2.dropAll rt.refs).vacate s).guest := by
    have asked : Brings (V.Shows (rt.previousOutput.getD (V.out w.guest)))
        (ask? (.clear rt.globals)) fun _ => V.Shows (rt.previousOutput.getD (V.out w.guest)) :=
      .ask fun held _ h => laws.kept rfl held h
    have after := asked w₁ back
    rwa [World.vacate, World.guest_modifySession, (dropAll_elsewhere _ _).1]
  cases result with
  | ok _ => exact cleared
  | error e =>
      cases e with
      | failed e => exact laws.brings_raisedText e _ cleared
      | panicked message => exact cleared

end Outlet

/-! ### A guest around an output stream

The smallest guest in which sessions can start: it loads modules, makes what a start asks for and
keeps the stream that its output goes to. It raises on every other request. Two things can go wrong
in it: modules can cease to be loadable, and the last object that dies with the globals of a session
can change the stream.
-/

/-- A guest that keeps an output stream. -/
structure Booth where
  out : Ref
  /-- How many modules can still be loaded, if not any number. -/
  loads : Option Nat
  /-- What the last object that dies with the globals puts in the place of the stream. -/
  last : Option Ref
  deriving DecidableEq, Repr

namespace Booth

/-- The object that stands for everything but streams. -/
def thing : Ref := ⟨1⟩

/-- The stream that is there at first. -/
def original : Ref := ⟨0⟩

/-- The sink of a session. -/
def sink (s : SessionId) : Ref := ⟨s + 2⟩

/-- Loads a module. -/
def load (b : Booth) : Option Ref × Booth :=
  match b.loads with
  | none => (some thing, b)
  | some 0 => (none, b)
  | some (n + 1) => (some thing, { b with loads := some n })

/-- Answers a request; nothing if that raises. -/
def answer (b : Booth) : {α : Type} → Request α → Option α × Booth
  | _, .importModule _ => b.load
  | _, .expect _ _ | _, .insert _ _ _ => (some (), b)
  | _, .newStr _ | _, .newDict _ | _, .evaluate _ => (some thing, b)
  | _, .newSink s => (some (sink s), b)
  | _, .getAttr _ name => (some (if name = "stdout" then b.out else thing), b)
  | _, .setAttr _ name v => (some (), if name = "stdout" then { b with out := v }
      else if name = "last" then { b with last := some v } else b)
  | _, .clear _ => (some (), { b with out := b.last.getD b.out })
  | _, _ => (none, b)

instance : GuestState Booth where
  perform _ r b := match b.answer r with
    | (some a, b) => (.ok a, [], b)
    | (none, b) => (.error ⟨thing, []⟩, [], b)

/-- How the stream is looked at. -/
def outlet : Outlet Booth where
  sys := thing
  original := original
  Sane b := b.loads = none ∧ b.last = none
  out := out
  sinkOf _ r := if r.id < 2 then none else some (r.id - 2)

theorem guest_perform {α : Type} (b : Booth) (held : List Ref) (r : Request α) :
    (GuestState.perform held r b).2.2 = (b.answer r).2 := by
  change (match b.answer r with | (some a, b) => _ | (none, b) => _ : _ × _ × Booth).2.2 = _
  rcases b.answer r with ⟨_ | a, b'⟩ <;> rfl

/-- Where modules can be loaded any number of times and no object waits to change the stream, starts
and ends change nothing. -/
theorem answer_upkeep {α : Type} {b : Booth} {r : Request α} (upkeep : r.isUpkeep = true)
    (sane : outlet.Sane b) : (b.answer r).2 = b := by
  cases r with
  | importModule name => simp [answer, load, sane.1]
  | clear dict =>
      obtain ⟨out, loads, last⟩ := b
      cases sane.2
      rfl
  | _ => first | rfl | cases upkeep

theorem laws : outlet.Laws where
  plain _ := rfl
  upkeep {α} {r} {b} held upkeep sane := by
    rw [guest_perform, answer_upkeep upkeep sane]
    exact ⟨sane, rfl⟩
  loads {b} held sane := by
    have loaded : b.load = (some thing, b) := by rw [load, sane.1]
    simp [GuestState.perform, answer, loaded, outlet]
  isModule held sane := rfl
  reads held sane := rfl
  makes {b} {s} {r} held sane made := by
    cases made
    simp [outlet, sink]
  assigns held v sane := ⟨rfl, sane, rfl, rfl⟩

end Booth

end GuestBridge.Bridge
