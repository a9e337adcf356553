import GuestBridge.Proofs.Requests.Operations

/-!
# What a Report Shows of a Traceback

An exception that has passed through frames has a traceback, and the guest is asked to print it when an
operation fails. What it prints is kept in the diagnostic of the error (`Carries`), whichever of the
operations has failed and wherever the exception was raised.

The full report of an exception, and of a script that could not be compiled, shows the traceback in front
of the summary. The full report of a module that could not be loaded and of an entry that was not found
is the one line of the error, so it never shows the traceback that the diagnostic carries
(`dropped_from_report`).

## Main results

* `Operation.accounts` — what the error of any operation that fails keeps and shows.
-/

namespace GuestBridge.Bridge

open Guest (Ref Raised ErrorKind TraceEntry)

/-! ### What a diagnostic carries -/

/-- What is kept of the traceback of an exception, by what the guest was asked: nothing where the
exception has passed through no frame, and what the guest prints of it otherwise. -/
inductive Carries (x : Raised) (report : List Asked) : Option String → Prop
  | bare (bare : x.trace = []) : Carries x report none
  | printed (passed : x.trace ≠ []) (text : Except Raised Text)
      (asked : ⟨.tracebackText x.trace, text⟩ ∈ report) :
      Carries x report (answered Text.toString? none text)

theorem Diagnosed.carries {x : Raised} {tr : List Asked} {d : Diagnostic} (h : Diagnosed x tr d) :
    Carries x tr d.traceback := by
  cases h with
  | plain bare name message => exact .bare bare
  | traced passed name message text => exact .printed passed text (by simp)

theorem Carries.mono {x : Raised} {tr tr' : List Asked} {t : Option String} (h : Carries x tr t)
    (sub : tr ⊆ tr') : Carries x tr' t := by
  cases h with
  | bare bare => exact .bare bare
  | printed passed text asked => exact .printed passed text (sub asked)

/-- The error that an exception becomes carries what the guest prints of its traceback. -/
theorem Translates.carries {cx : Context} {site : Site} {x : Raised} {tr : List Asked} {e : Error}
    {d : Diagnostic} (h : Translates cx site x tr e) (has : e.diagnostic? = some d) :
    Carries x tr d.traceback := by
  cases h with
  | compile diagnosed => cases has; exact diagnosed.carries
  | module name diagnosed | entry container key text diagnosed =>
      cases has
      exact diagnosed.carries.mono (List.subset_append_left _ _)
  | iteration target diagnosed => cases has
  | foreign diagnosed unspecific tracebacks =>
      cases has
      refine diagnosed.carries.mono ?_
      rw [List.append_assoc]
      exact List.subset_append_left _ _

/-- Where the bridge itself refuses to go on there is no exception, and no traceback. -/
theorem Refusal.untraced {cx : Context} {q : Asked} {tr : List Asked} {e : Error} {d : Diagnostic}
    (h : Refusal cx q tr e) (has : e.diagnostic? = some d) : d.traceback = none := by
  cases h <;> cases has <;> rfl

/-! ### Where an error comes from -/

/-- The error is that of an exception, which one of the steps has raised, and carries what the guest
prints of its traceback; or it is a refusal of the bridge itself. -/
inductive Derives (ρ : Rules) (cx : Context) (steps : List Step) (report : List Asked) (e : Error)
    (d : Diagnostic) : Prop
  | exception {site : Site} {x : Raised} {tr : List Asked}
      (raised : ∃ s ∈ steps, s.site = some site ∧ s.asked.raised = some x) (told : tr <:+ report)
      (translates : Translates cx site x tr e) (carries : Carries x report d.traceback)
  | refusal (refused : ∃ s ∈ steps, ρ.refuses s) (untraced : d.traceback = none)

theorem Blames.derives {ρ : Rules} {cx : Context} {steps : List Step} {last : Step}
    {report : List Asked} {e : Error} {d : Diagnostic} (h : Blames ρ cx steps last report e)
    (has : e.diagnostic? = some d) : Derives ρ cx (steps ++ [last]) report e d := by
  have there : last ∈ steps ++ [last] := List.mem_append_right _ List.mem_cons_self
  cases h with
  | raised strict translates =>
      exact .exception ⟨_, there, rfl, rfl⟩ (List.suffix_refl _) translates (translates.carries has)
  | tested no only translates =>
      exact .exception ⟨_, there, rfl, rfl⟩ (List.suffix_cons _ _) translates
        ((translates.carries has).mono (List.subset_cons_self _ _))
  | replaced earlier forgives translates =>
      exact .exception ⟨_, List.mem_append_left _ earlier, rfl, rfl⟩ (List.suffix_cons _ _) translates
        ((translates.carries has).mono (List.subset_cons_self _ _))
  | refused refuses refusal => exact .refusal ⟨last, there, refuses⟩ (refusal.untraced has)

/-! ### What a report shows -/

/-- What the full report of an error shows of its diagnostic. -/
structure Shows (e : Error) (d : Diagnostic) : Prop where
  /-- An exception, and a script that could not be compiled: the traceback, if there is one, and then the
  summary. -/
  whole : e.kindName = "foreign_exception" ∨ e.kindName = "run_error" →
    e.render = d.traceback.getD "" ++ d.summary
  /-- A module that could not be loaded: its name and the summary, whatever the traceback is. -/
  module : ∀ name, e = .invalidModule name d → ∀ t,
    (Error.invalidModule name { d with traceback := t }).render =
      "cannot resolve module '" ++ name ++ "': " ++ d.summary
  /-- An entry that was not found: its key and the summary, whatever the traceback is. -/
  entry : ∀ c key, e = .indexError c key d → ∀ t,
    (Error.indexError c key { d with traceback := t }).render =
      "no entry " ++ key ++ " in container: " ++ d.summary

theorem shows {e : Error} {d : Diagnostic} (has : e.diagnostic? = some d) : Shows e d where
  whole kind := by
    cases e with
    | foreignException exception t d' | runError failure d' =>
        cases has
        exact d.render_eq
    | invalidCall | invalidModule | indexError => simp [Error.kindName] at kind
  module _ _ _ := rfl
  entry _ _ _ _ := rfl

/-! ### Operations without errors of their own -/

section

variable {σ α β : Type}

/-- A computation that gives no error: it gives something, or it panics. -/
def Errorless (x : Boundary σ α) : Prop := ∀ w e, (x.run w).1 ≠ .error (.failed e)

theorem Errorless.pure (a : α) : Errorless (Pure.pure a : Boundary σ α) := fun _ _ => nofun

theorem Errorless.always (x : StateM (World σ) α) : Errorless (always x) := fun _ _ => nofun

theorem Errorless.panic (message : String) : Errorless (panicWith message : Boundary σ α) :=
  fun _ _ => nofun

theorem Errorless.bind {x : Boundary σ α} {f : α → Boundary σ β} (hx : Errorless x)
    (hf : ∀ a, Errorless (f a)) : Errorless (x >>= f) := by
  intro w e
  rcases ran : x.run w with ⟨stop | a, w₁⟩
  · rw [run_bind_of_error ran]
    rintro ⟨⟩
    exact hx w e (congrArg Prod.fst ran)
  · rw [run_bind_of_ok ran]
    exact hf a w₁ e

theorem Errorless.map {x : Boundary σ α} (g : α → β) (hx : Errorless x) : Errorless (g <$> x) := by
  rw [map_eq_pure_bind]
  exact hx.bind fun a => .pure (g a)

theorem Errorless.own (h : Handle) (cx : Context) : Errorless (h.bind cx : Boundary σ Ref) := by
  rw [Handle.bind]
  split
  · exact .pure _
  · exact .panic _

end

namespace Operation

variable {σ : Type} [GuestState σ] {cx : Context}

/-- An operation that cannot give an error of its own gives none. -/
theorem errorless {op : Operation} (infallible : op.canFail = false) :
    Errorless (op.result cx : Boundary σ (List Handle)) := by
  cases op with
  | liveHandles | globals | builtins | none | adopt => exact .map _ (.always _)
  | isNone h => exact .map _ (.bind (.own h cx) fun r => .pure _)
  | retention h => exact .map _ (.bind (.own h cx) fun r => .always _)
  | clone h => exact .map _ (.bind (.own h cx) fun r => .bind (.always _) fun _ => .pure _)
  | extract h t =>
      refine .map _ (.bind (.own h cx) fun r => .bind (.always _) fun found => ?_)
      rcases found with (_ | message) | v
      · exact .pure _
      · exact .panic message
      · exact .pure _
  | typeName h =>
      refine .map _ ?_
      rw [Handle.typeName]
      cases h.typeTag with
      | some name => exact .pure _
      | none => exact .bind (.own h cx) fun r => .bind (.always _) fun _ => .pure _
  | _ => cases infallible

/-- **What an error keeps and shows of a traceback**, for every operation, in every guest: the diagnostic
carries what the guest prints of it; the full report shows it if the error is an exception or a script
that could not be compiled. -/
theorem accounts {op : Operation} {w w' : World σ} {e : Error}
    (failed : (op.result cx).run w = (.error (.failed e), w')) :
    ∃ steps report, Runs w (asks steps ++ report) w' ∧
      ∀ d, e.diagnostic? = some d → Shows e d ∧ Derives (op.rules cx) cx steps report e d := by
  cases fallible : op.canFail with
  | false => exact absurd (congrArg Prod.fst failed) (errorless fallible w e)
  | true =>
      obtain ⟨tr, run, steps, report, rfl, ended⟩ := (op.keeps fallible : op.Keeps σ cx) w
      rw [failed] at run ended
      refine ⟨steps, report, run, fun d has => ⟨shows has, ?_⟩⟩
      cases ended with
      | failed clean does blames => exact blames.derives has

end Operation

/-! ### A guest in which everything raises -/

/-- A guest that raises an exception of one class whatever it is to do, from inside a frame. -/
structure Alarm where
  cls : ErrorKind
  deriving DecidableEq, Repr

namespace Alarm

/-- The frame that every exception has passed through. -/
def frame : TraceEntry := ⟨"m.py", 1, "<module>", none⟩

/-- What the guest prints of it. -/
def printed : String := "Traceback (most recent call last):\n  File \"m.py\", line 1, in <module>\n"

/-- Answers a request. -/
def answer (a : Alarm) : {α : Type} → Request α → Except Raised α
  | _, .typeName _ => .ok a.cls.name
  | _, .str _ | _, .repr _ => .ok (Text.ofString "no")
  | _, .tracebackText _ => .ok (Text.ofString printed)
  | _, .belongs _ (.error k) => .ok (k = a.cls)
  | _, .newStr _ => .ok ⟨2⟩
  | _, _ => .error ⟨⟨1⟩, [frame]⟩

instance : GuestState Alarm where
  perform _ r a := (a.answer r, [], a)

/-- A guest at work for its first session. -/
def world (cls : ErrorKind) : World Alarm :=
  ⟨⟨cls⟩, [], [{ SessionState.fresh with runtime := some ⟨"m.py", ⟨0⟩, ⟨0⟩, [], ⟨0⟩, none⟩ }], []⟩

/-- What is kept of the exception. -/
def diagnostic (cls : ErrorKind) : Diagnostic := ⟨cls.name, "no", some printed⟩

end Alarm

/-- The report of a missing attribute shows the traceback that the guest prints. -/
theorem Operation.accounts_member :
    let op : Operation := .member ⟨⟨3⟩, 0, Option.none⟩ "x"
    ∃ e w' steps report, (op.result ⟨0⟩).run (Alarm.world .attributeError) = (.error (.failed e), w') ∧
      Runs (Alarm.world .attributeError) (asks steps ++ report) w' ∧
      Derives (op.rules ⟨0⟩) ⟨0⟩ steps report e (Alarm.diagnostic .attributeError) ∧
      e.render = Alarm.printed ++ "AttributeError: no" := by
  intro op
  have failed : (op.result ⟨0⟩).run (Alarm.world .attributeError) = (.error (.failed _), _) := rfl
  obtain ⟨steps, report, run, told⟩ := Operation.accounts failed
  obtain ⟨shows, derives⟩ := told (Alarm.diagnostic .attributeError) rfl
  exact ⟨_, _, steps, report, failed, run, derives, shows.whole (.inl rfl)⟩

/-- A text that is longer than another one does not stand in it. -/
theorem not_infix_of_length {s t : String} (longer : t.length < s.length) : ¬ ∃ a b, t = a ++ s ++ b := by
  rintro ⟨a, b, rfl⟩
  simp only [String.length_append] at longer
  omega

/-- A module that cannot be loaded and an entry that is not found: each carries a traceback, and its
report does not show it. -/
theorem dropped_from_report :
    (∃ d w', (importModule ⟨0⟩ "m").run (Alarm.world .importError) =
        (.error (.failed (.invalidModule "m" d)), w') ∧ d.traceback = some Alarm.printed ∧
      ¬ ∃ a b, (Error.invalidModule "m" d).render = a ++ (Alarm.printed ++ d.summary) ++ b) ∧
    ∃ c key d w', (Handle.subscript ⟨⟨3⟩, 0, none⟩ ⟨0⟩ ⟨.string, "k"⟩).run (Alarm.world .lookupError) =
        (.error (.failed (.indexError c key d)), w') ∧ d.traceback = some Alarm.printed ∧
      ¬ ∃ a b, (Error.indexError c key d).render = a ++ (Alarm.printed ++ d.summary) ++ b := by
  refine ⟨⟨Alarm.diagnostic .importError, _, rfl, rfl, not_infix_of_length ?_⟩,
    _, "no", Alarm.diagnostic .lookupError, _, rfl, rfl, not_infix_of_length ?_⟩ <;> decide

end GuestBridge.Bridge
