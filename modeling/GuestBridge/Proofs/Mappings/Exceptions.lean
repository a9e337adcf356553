import GuestBridge.Proofs.Arguments.Precedence
import GuestBridge.Proofs.Mappings.Lexicon

/-!
# What Becomes of Known Exceptions

Computations over a guest of which a lexicon knows what its exceptions tell. `Yields` says how such a
computation ends, without anything being forgotten: with a value, or as an operation with the error for
an exception.

## Main statements

* `Lexicon.Laws.yields_refused` — an object without a hash is reported as unhashable.
* `Lexicon.Laws.yields_keyError` — a `KeyError` is reported with the container and the text of the key.
-/

namespace GuestBridge.Bridge

open Guest (Ref Raised ErrorKind)

variable {σ : Type} {V : Lexicon σ} {cx : Context} {α β ε : Type}

namespace Lexicon

variable (V) in
/-- A computation ends with a result, and everything is known that was known before. -/
def Yields (x : StateM (World σ) α) (w : World σ) (a : α) : Prop :=
  ∃ w', x w = (a, w') ∧ V.Learns w.guest w'.guest

variable (V) in
/-- The text of a key in errors. -/
def keyText (s : σ) (k : Ref) : String := (V.shown s k).elim "<unrepresentable>" Text.lossy

theorem keyText_later {s s' : σ} {k : Ref} (learned : V.Learns s s') (sound : V.hash s k = some .sound) :
    V.keyText s' k = V.keyText s k := by
  rw [keyText, keyText, learned.shown sound]

namespace Yields

variable {w : World σ} {a : α} {b : β}

theorem of_eq {x : StateM (World σ) α} {w' : World σ} (run : x w = (a, w')) (same : w'.guest = w.guest)
    (ready : V.Ready w.guest) : V.Yields x w a := by
  refine ⟨w', run, ?_⟩
  rw [same]
  exact .refl ready

theorem bind {x : StateM (World σ) α} {f : α → StateM (World σ) β} (hx : V.Yields x w a)
    (hf : ∀ w', V.Learns w.guest w'.guest → V.Yields (f a) w' b) : V.Yields (x >>= f) w b := by
  obtain ⟨w₁, began, learned⟩ := hx
  obtain ⟨w₂, went, learned'⟩ := hf w₁ learned
  refine ⟨w₂, ?_, learned.trans learned'⟩
  rw [bind_apply, began]
  exact went

theorem always {x : StateM (World σ) α} (hx : V.Yields x w a) :
    V.Yields (Bridge.always (ε := ε) x).run w (.ok a) := by
  obtain ⟨w', run, learned⟩ := hx
  refine ⟨w', ?_, learned⟩
  change (Except.ok (x w).1, (x w).2) = _
  rw [run]

/-- What goes on after a result. -/
theorem after {x : ExceptT (Stop ε) (StateM (World σ)) α} {f : α → ExceptT (Stop ε) (StateM (World σ)) β}
    {r : Except (Stop ε) β} {w₁ : World σ} (given : x.run w = (.ok a, w₁)) (learned : V.Learns w.guest w₁.guest)
    (hf : V.Yields (f a).run w₁ r) : V.Yields (x >>= f).run w r := by
  obtain ⟨w₂, went, learned'⟩ := hf
  exact ⟨w₂, (run_bind_of_ok given).trans went, learned.trans learned'⟩

theorem bindOk {x : ExceptT (Stop ε) (StateM (World σ)) α} {f : α → ExceptT (Stop ε) (StateM (World σ)) β}
    {r : Except (Stop ε) β} (hx : V.Yields x.run w (.ok a))
    (hf : ∀ w', V.Learns w.guest w'.guest → V.Yields (f a).run w' r) : V.Yields (x >>= f).run w r := by
  obtain ⟨w₁, given, learned⟩ := hx
  exact .after given learned (hf w₁ learned)

theorem bindError {x : ExceptT (Stop ε) (StateM (World σ)) α} {e : Stop ε} (hx : V.Yields x.run w (.error e))
    (f : α → ExceptT (Stop ε) (StateM (World σ)) β) : V.Yields (x >>= f).run w (.error e) := by
  obtain ⟨w', stopped, learned⟩ := hx
  exact ⟨w', run_bind_of_error stopped f, learned⟩

theorem map {x : ExceptT (Stop ε) (StateM (World σ)) α} (hx : V.Yields x.run w (.ok a)) (f : α → β) :
    V.Yields (f <$> x).run w (.ok (f a)) := by
  obtain ⟨w', given, learned⟩ := hx
  exact ⟨w', run_map_ok_iff.mpr ⟨a, given, rfl⟩, learned⟩

theorem mapError {x : ExceptT (Stop ε) (StateM (World σ)) α} {e : Stop ε} (hx : V.Yields x.run w (.error e))
    (f : α → β) : V.Yields (f <$> x).run w (.error e) := by
  obtain ⟨w', stopped, learned⟩ := hx
  exact ⟨w', run_map_error_iff.mpr stopped, learned⟩

end Yields

variable [GuestState σ]

namespace Yields

variable {w : World σ} {a : α} {r : Request α}

theorem askOr (answers : Answers w.guest r fun b s' => b = a ∧ V.Learns w.guest s') (f : α → β) (otherwise : β) :
    V.Yields (Bridge.askOr r f otherwise) w (f a) := by
  obtain ⟨_, w', asked, rfl, learned⟩ := w.ask_of_answers answers
  exact ⟨w', askOr_of_ok asked f otherwise, learned⟩

theorem otherwise (raises : Raises w.guest r fun _ s' => V.Learns w.guest s') (f : α → β) (b : β) :
    V.Yields (Bridge.askOr r f b) w b := by
  obtain ⟨e, writes, s', raised, learned⟩ := raises w.held
  obtain ⟨w', asked, rfl⟩ := World.ask_of_perform raised
  refine ⟨w', ?_, learned⟩
  rw [askOr_apply, asked]
  rfl

theorem perform (answers : Answers w.guest r fun b s' => b = a ∧ V.Learns w.guest s') (site : Site) :
    V.Yields (Bridge.perform cx site r).run w (.ok a) := by
  obtain ⟨_, w', asked, rfl, learned⟩ := w.ask_of_answers answers
  exact ⟨w', run_perform_of_ok asked site, learned⟩

end Yields

namespace Laws

variable (laws : V.Laws) {w : World σ} {e : Raised} {f : Report} {k : Ref}
include laws

theorem yields_diagnose (ready : V.Ready w.guest) (known : V.report w.guest e.value = some f) (trace : e.trace = []) :
    V.Yields (diagnose e) w f.diagnostic := by
  refine (Yields.askOr (laws.typeName ready known) id _).bind fun w₁ learned => ?_
  refine (Yields.askOr (laws.str learned.ready (learned.report known)) Text.lossy _).bind fun w₂ learned => ?_
  have none : V.Yields (tracebackOf e) w₂ none := by
    rw [tracebackOf, if_pos (List.isEmpty_iff.mpr trace)]
    exact .of_eq rfl rfl learned.ready
  exact none.bind fun w₃ learned => .of_eq rfl rfl learned.ready

theorem yields_isRaised (ready : V.Ready w.guest) (known : V.report w.guest e.value = some f) (kind : ErrorKind) :
    V.Yields (isRaised e kind) w (f.belongs kind) :=
  .askOr (laws.belongs kind ready known) id _

theorem yields_describeKey (ready : V.Ready w.guest) (sound : V.hash w.guest k = some .sound) :
    V.Yields (describeKey k) w (V.keyText w.guest k) := by
  rw [keyText]
  cases shown : V.shown w.guest k with
  | none => exact .otherwise (laws.noRepr ready sound shown) _ _
  | some t => exact .askOr (laws.repr ready sound shown) _ _

omit laws in
theorem yields_foreignError (ready : V.Ready w.guest) (trace : e.trace = []) (d : Diagnostic) :
    V.Yields (foreignError cx e d) w (.foreignException (cx.handle e.value) none d) := by
  refine Yields.bind (.of_eq rfl rfl ready) fun w₁ learned => ?_
  have none : V.Yields (acquireTraceback cx e) w₁ none := by
    rw [acquireTraceback, if_pos (List.isEmpty_iff.mpr trace)]
    exact .of_eq rfl rfl learned.ready
  exact none.bind fun w₂ learned => .of_eq rfl rfl learned.ready

/-- An exception becomes the error that it is classified as. -/
theorem yields_failure {site : Site} {error : Error} (ready : V.Ready w.guest)
    (known : V.report w.guest e.value = some f) (trace : e.trace = [])
    (classified : ∀ w' : World σ, V.Learns w.guest w'.guest → V.Yields (classify cx site e f.diagnostic) w' error) :
    V.Yields (failure cx site e) w error :=
  (laws.yields_diagnose ready known trace).bind fun w₁ learned =>
    (classified w₁ learned).bind fun _ noted =>
      Yields.bind (.of_eq rfl rfl noted.ready) fun _ last => .of_eq rfl rfl last.ready

omit laws in
/-- A request that raises fails as an operation with the error for its exception. -/
theorem yields_error {r : Request α} {site : Site} {P : Report → Prop} {Q : Error → Prop}
    (throws : V.Throws w.guest r P)
    (reports : ∀ (e : Raised) (f : Report) (w' : World σ), V.Learns w.guest w'.guest → e.trace = [] →
      V.report w'.guest e.value = some f → P f → ∃ error, Q error ∧ V.Yields (failure cx site e) w' error) :
    ∃ error, Q error ∧ V.Yields (perform cx site r).run w (.error (.failed error)) := by
  obtain ⟨e, writes, s', raised, learned, trace, f, known, told⟩ := throws w.held
  obtain ⟨w₁, asked, rfl⟩ := World.ask_of_perform raised
  obtain ⟨error, holds, w₂, failed, learned'⟩ := reports e f w₁ learned trace known told
  refine ⟨error, holds, w₂, ?_, learned.trans learned'⟩
  have run : (request r).run w = (.error (.failed e), w₁) := by
    rw [run_request, asked]
    rfl
  have reported := run_orError_of_failed run cx site
  rw [failed] at reported
  exact reported

/-- **A key without a hash is reported as unhashable**, where it is looked for in whatever way. -/
theorem yields_refused {r : Request α} {site : Site} {type : String}
    (throws : V.Throws w.guest r (Report.IsUnhashable type)) (here : site = .member ∨ ∃ d k, site = .subscript d k) :
    ∃ e, V.Yields (perform cx site r).run w (.error (.failed (unhashable cx e type))) := by
  have reported : ∃ error, (∃ e, error = unhashable cx e type) ∧
      V.Yields (perform cx site r).run w (.error (.failed error)) := by
    refine yields_error throws fun e f w₁ learned trace known told => ?_
    have same : Error.foreignException (cx.handle e.value) none f.diagnostic = unhashable cx e.value type := by
      rw [Report.diagnostic, told.typeName, told.text, Text.lossy_ofString]
      rfl
    refine ⟨_, ⟨e.value, rfl⟩, same ▸ laws.yields_failure learned.ready known trace fun w₂ later => ?_⟩
    obtain rfl | ⟨d, k, rfl⟩ := here
    · exact yields_foreignError later.ready trace _
    · refine (laws.yields_isRaised later.ready (later.report known) .lookupError).bind fun w₃ later => ?_
      rw [told.noLookup]
      exact yields_foreignError later.ready trace _
  obtain ⟨_, ⟨e, rfl⟩, reported⟩ := reported
  exact ⟨e, reported⟩

/-- **A `KeyError` is reported with the container and the text of the key.** -/
theorem yields_keyError (cx : Context) {r : Request α} {d : Ref} (sound : V.hash w.guest k = some .sound)
    (throws : V.Throws w.guest r (Report.IsKeyError (V.shown w.guest k))) :
    ∃ text, (∀ t, V.shown w.guest k = some t → text = t.lossy) ∧
      V.Yields (perform cx (.subscript d k) r).run w
        (.error (.failed (.indexError (cx.handle d) (V.keyText w.guest k) ⟨"KeyError", text, none⟩))) := by
  have reported : ∃ error, (∃ text, (∀ t, V.shown w.guest k = some t → text = t.lossy) ∧
        error = .indexError (cx.handle d) (V.keyText w.guest k) ⟨"KeyError", text, none⟩) ∧
      V.Yields (perform cx (.subscript d k) r).run w (.error (.failed error)) := by
    refine yields_error throws fun e f w₁ learned trace known told => ?_
    have text (t : Text) (shown : V.shown w.guest k = some t) : f.text.lossy = t.lossy :=
      congrArg Text.lossy (told.text shown)
    have diagnostic : f.diagnostic = ⟨"KeyError", f.text.lossy, none⟩ := by rw [Report.diagnostic, told.typeName]
    refine ⟨_, ⟨_, text, rfl⟩, laws.yields_failure learned.ready known trace fun w₂ later => ?_⟩
    refine (laws.yields_isRaised later.ready (later.report known) .lookupError).bind fun w₃ later' => ?_
    rw [told.lookup, diagnostic]
    refine Yields.bind (.of_eq rfl rfl later'.ready) fun w₄ later'' => ?_
    have all := (learned.trans later).trans (later'.trans later'')
    rw [← keyText_later all sound]
    exact (laws.yields_describeKey all.ready (all.hash sound)).bind fun w₅ last => .of_eq rfl rfl last.ready
  obtain ⟨_, ⟨text, shown, rfl⟩, reported⟩ := reported
  exact ⟨text, shown, reported⟩

/-- **A key that the bridge itself finds missing** is reported with the same, without an exception. -/
theorem yields_missingEntry (ready : V.Ready w.guest) (sound : V.hash w.guest k = some .sound) (d : Ref) :
    V.Yields (missingEntry cx d k : Boundary σ α).run w (.error (.failed (.indexError (cx.handle d)
      (V.keyText w.guest k) ⟨"KeyError", V.keyText w.guest k, none⟩))) := by
  refine (laws.yields_describeKey ready sound).always.bindOk fun w₁ learned => ?_
  exact .of_eq rfl rfl learned.ready

end Laws

end Lexicon

end GuestBridge.Bridge
