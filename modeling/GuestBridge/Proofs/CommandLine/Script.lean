import GuestBridge.CommandLine.Run
import GuestBridge.Proofs.Handles.Access
import GuestBridge.Proofs.Requests.Writes

/-!
# How the Script of a Command Line Ends

The job of the command compiles the script, runs it, looks up the result that was asked for and shows
it. `Script.Completes` says that all of this went well, in terms of what the guest answered. A script
that does not complete ends with an error: the job never panics, since it works on no handle but the one
that it has just made.

## Main results

* `Script.run_ok_iff` — the job gives a text or nothing to show exactly where the script completes.
* `Script.run_settles` — the job does not panic.
* `Script.carried` — what a job that is carried out returns, and what the guest writes meanwhile.
-/

namespace GuestBridge.Bridge

open Guest (Ref Raised)

variable {σ : Type}

/-! ### Computations that do not panic -/

/-- In no world a computation panics. -/
def Settles {ε α : Type} (x : ExceptT (Stop ε) (StateM (World σ)) α) : Prop :=
  ∀ w message, (x.run w).1 ≠ .error (.panicked message)

namespace Settles

variable {ε α β : Type} {cx : Context}

theorem pure (a : α) : Settles (Pure.pure a : ExceptT (Stop ε) (StateM (World σ)) α) := nofun

theorem failed (e : ε) : Settles (throw (.failed e) : ExceptT (Stop ε) (StateM (World σ)) α) := nofun

theorem always (x : StateM (World σ) α) :
    Settles (Bridge.always x : ExceptT (Stop ε) (StateM (World σ)) α) := nofun

section

variable {x : ExceptT (Stop ε) (StateM (World σ)) α} {f : α → ExceptT (Stop ε) (StateM (World σ)) β}

/-- The second part matters for what the first one gives. -/
theorem bindGiven (hx : Settles x) (hf : ∀ a w w', x.run w = (.ok a, w') → Settles (f a)) :
    Settles (x >>= f) := by
  intro w message panics
  rw [ExceptT.run_bind, bind_apply] at panics
  rcases hr : x.run w with ⟨e | a, w'⟩ <;> rw [hr] at panics
  · cases panics
    exact hx w message (congrArg Prod.fst hr)
  · exact hf a w w' hr w' message panics

theorem bind (hx : Settles x) (hf : ∀ a, Settles (f a)) : Settles (x >>= f) :=
  hx.bindGiven fun a _ _ _ => hf a

end

variable [GuestState σ]

theorem request (r : Request α) : Settles (σ := σ) (Bridge.request r) := by
  intro w message panics
  change (Bridge.request r w).1 = _ at panics
  rw [Bridge.request] at panics
  rcases hr : w.ask r with ⟨a | e, w'⟩ <;> rw [hr] at panics <;> cases panics

/-- An exception becomes an error. -/
theorem orError {x : Crossing σ α} (hx : Settles x) (site : Site) : Settles (x.orError cx site) := by
  intro w message panics
  change (Crossing.orError x cx site w).1 = _ at panics
  rw [Crossing.orError] at panics
  rcases hr : x.run w with ⟨r, w'⟩
  rw [show x w = (r, w') from hr] at panics
  rcases r with (e | m) | a
  · have fails : Settles (σ := σ) (failWith cx site e : Boundary σ α) :=
      (Settles.always _).bind fun error => Settles.failed error
    exact fails w' message panics
  · exact hx w m (congrArg Prod.fst hr)
  · cases panics

theorem perform (site : Site) (r : Request α) : Settles (σ := σ) (Bridge.perform cx site r) :=
  (Settles.request r).orError site

end Settles

section

variable [GuestState σ] {cx : Context}

theorem settles_compileScript (source : String) (mode : ScriptMode) :
    Settles (σ := σ) (compileScript cx source mode) := by
  refine (Settles.always _).bind fun rt => Settles.orError ?_ .compile
  refine (Settles.request _).bind fun compile => (Settles.request _).bind fun text => ?_
  exact (Settles.request _).bind fun file => (Settles.request _).bind fun word => .request _

theorem settles_runCode (code : Ref) (mode : ScriptMode) :
    Settles (σ := σ) (runCode cx code mode) := by
  refine (Settles.always _).bind fun rt => Settles.orError ?_ .execute
  exact (Settles.request _).bind fun run => .request _

end

/-! ### Computations that give something -/

section

variable {ε α β : Type}

theorem run_discard_ok_iff {x : ExceptT (Stop ε) (StateM (World σ)) α} {w w' : World σ} :
    (discard x).run w = (.ok (), w') ↔ ∃ a, x.run w = (.ok a, w') := by
  change (x >>= fun _ => pure ()).run w = _ ↔ _
  rw [run_bind_ok_iff]
  exact ⟨fun ⟨a, _, given, rest⟩ => by cases rest; exact ⟨a, given⟩, fun ⟨a, given⟩ => ⟨a, w', given, rfl⟩⟩

variable [GuestState σ] {cx : Context} {site : Site} {w w' : World σ}

theorem run_perform_ok_iff {r : Request α} {a : α} :
    (perform cx site r).run w = (.ok a, w') ↔ w.ask r = (.ok a, w') := by
  change Crossing.orError (request r) cx site w = _ ↔ _
  rw [Crossing.orError, request]
  rcases hr : w.ask r with ⟨e | b, w₁⟩
  · dsimp only
    constructor <;> intro h <;> cases h
  · exact ⟨fun h => by cases h; rfl, fun h => by cases h; rfl⟩

end

end GuestBridge.Bridge

namespace GuestBridge.CommandLine

open Bridge Session
open Guest (Ref)

variable {σ : Type} [GuestState σ] {cx : Context} {w w' : World σ}

/-! ### Ends of a script -/

/-- A text is compiled and runs to its end without an exception, from one world to another. -/
def Ran (cx : Context) (source : String) (w w' : World σ) : Prop :=
  ∃ code w₁ value, (compileScript cx source .statements).run w = (.ok code, w₁) ∧
    (runCode cx code .statements).run w₁ = (.ok value, w')

/-- The request for what a name is bound to in the session's globals. -/
def lookUp (cx : Context) (name : String) (w : World σ) : Request (Option Ref) :=
  .getName (runtimeOf cx w).1.globals name

namespace Script

/-- A script does all that it was asked for, and this is the text that shows the result: it runs to its
end, and where a result is asked for, the name is bound in the session's globals and what it is bound to
can be shown. -/
inductive Completes (cx : Context) (w : World σ) : Script → Option String → Prop
  | plain {source : String} {w₁ : World σ} (ran : Ran cx source w w₁) :
      Completes cx w ⟨source, none⟩ none
  | shown {source name : String} {w₁ w₂ w₃ : World σ} {v : Ref} {text : Text}
      (ran : Ran cx source w w₁) (bound : w₁.ask (lookUp cx name w₁) = (.ok (some v), w₂))
      (shows : (w₂.acquire cx.session v).2.ask (.repr v) = (.ok text, w₃)) :
      Completes cx w ⟨source, some name⟩ (some text.lossy)

/-- A script runs to its end and leaves the name unbound whose value was asked for. -/
def LeavesUnset (cx : Context) (w : World σ) (s : Script) (name : String) : Prop :=
  s.result = some name ∧
    ∃ w₁ w₂, Ran cx s.source w w₁ ∧ w₁.ask (lookUp cx name w₁) = (.ok none, w₂)

end Script

/-! ### Running -/

/-- What is found of the result in the world in which the script has run to its end. -/
inductive Found (cx : Context) (w : World σ) : Option String → Option Handle → World σ → Prop
  | unasked : Found cx w none none w
  | unset {name : String} {w₁ : World σ} (unset : w.ask (lookUp cx name w) = (.ok none, w₁)) :
      Found cx w (some name) none w₁
  | bound {name : String} {w₁ : World σ} {v : Ref}
      (bound : w.ask (lookUp cx name w) = (.ok (some v), w₁)) :
      Found cx w (some name) (some ⟨v, cx.session, none⟩) (w₁.acquire cx.session v).2

theorem execute_ok_iff {source : String} {result : Option String} {found : Option Handle} :
    (execute cx source result).run w = (.ok found, w') ↔
      ∃ w₁, Ran cx source w w₁ ∧ Found cx w₁ result found w' := by
  unfold execute
  constructor
  · intro h
    obtain ⟨code, w₁, compiled, h⟩ := run_bind_ok_iff.mp h
    obtain ⟨_, w₂, ran, h⟩ := run_bind_ok_iff.mp h
    obtain ⟨value, ran⟩ := run_discard_ok_iff.mp ran
    refine ⟨w₂, ⟨code, w₁, value, compiled, ran⟩, ?_⟩
    cases result with
    | none =>
        cases h
        exact .unasked
    | some name =>
        rw [run_always_bind] at h
        obtain ⟨v?, w₃, asked, h⟩ := run_bind_ok_iff.mp h
        have asked := run_perform_ok_iff.mp asked
        cases v? with
        | none =>
            cases h
            exact .unset asked
        | some v =>
            cases h
            exact .bound asked
  · rintro ⟨w₁, ⟨code, w₂, value, compiled, ran⟩, found⟩
    refine run_bind_ok_iff.mpr ⟨code, w₂, compiled, ?_⟩
    refine run_bind_ok_iff.mpr ⟨(), w₁, run_discard_ok_iff.mpr ⟨value, ran⟩, ?_⟩
    cases found with
    | unasked => rfl
    | unset asked =>
        rw [run_always_bind]
        exact run_bind_ok_iff.mpr ⟨none, _, run_perform_ok_iff.mpr asked, rfl⟩
    | bound asked =>
        rw [run_always_bind]
        exact run_bind_ok_iff.mpr ⟨some _, _, run_perform_ok_iff.mpr asked, rfl⟩

/-- A handle of the session is never refused. -/
theorem repr_own {h : Handle} (own : h.session = cx.session) :
    (h.repr cx : Boundary σ String) =
      do return (← perform cx .convert (.repr h.object)).lossy := by
  unfold Handle.repr Handle.bind
  rw [if_pos own]
  rfl

/-- A handle of the session is shown where its object is. -/
theorem repr_ok_iff {v : Ref} {text : String} :
    (Handle.repr ⟨v, cx.session, none⟩ cx).run w = (.ok text, w') ↔
      ∃ t : Text, w.ask (.repr v) = (.ok t, w') ∧ text = t.lossy := by
  rw [repr_own rfl]
  constructor
  · intro h
    obtain ⟨t, w₁, asked, given⟩ := run_bind_ok_iff.mp h
    cases given
    exact ⟨t, run_perform_ok_iff.mp asked, rfl⟩
  · rintro ⟨t, asked, rfl⟩
    exact run_bind_ok_iff.mpr ⟨t, w', run_perform_ok_iff.mpr asked, rfl⟩

namespace Script

/-- **The job gives a text where the script completes**, and nothing to show where it completes without a
result or leaves the result unset. -/
theorem run_ok_iff {s : Script} {shown : Option String} :
    ((s.run cx).run w).1 = .ok shown ↔
      s.Completes cx w shown ∨ shown = none ∧ ∃ name, s.LeavesUnset cx w name := by
  obtain ⟨source, result⟩ := s
  constructor
  · intro h
    rcases ends : (run cx ⟨source, result⟩).run w with ⟨given, w'⟩
    cases (congrArg Prod.fst ends).symm.trans h
    obtain ⟨found, w₁, executed, rest⟩ := run_bind_ok_iff.mp ends
    obtain ⟨w₂, ran, found⟩ := execute_ok_iff.mp executed
    cases found with
    | unasked =>
        cases rest
        exact .inl (.plain ran)
    | unset asked =>
        cases rest
        exact .inr ⟨rfl, _, rfl, _, _, ran, asked⟩
    | @bound name w₃ v asked =>
        rw [run_always_bind, run_always_bind] at rest
        rcases shows : (Handle.repr ⟨v, cx.session, none⟩ cx).run (w₃.acquire cx.session v).2 with
          ⟨e | text, w₄⟩
        · rw [shows] at rest
          cases rest
        · rw [shows] at rest
          obtain ⟨t, shown, rfl⟩ := repr_ok_iff.mp shows
          cases congrArg Prod.fst rest
          exact .inl (.shown ran asked shown)
  · rintro (completes | ⟨rfl, name, asks, w₁, w₂, ran, unset⟩)
    · cases completes with
      | plain ran =>
          have executed := execute_ok_iff.mpr ⟨_, ran, .unasked⟩
          exact congrArg Prod.fst (run_bind_of_ok executed)
      | @shown _ _ _ _ _ v text ran bound shows =>
          have executed := execute_ok_iff.mpr ⟨_, ran, .bound bound⟩
          have shown : (Handle.repr ⟨v, cx.session, none⟩ cx).run _ = (.ok text.lossy, _) :=
            repr_ok_iff.mpr ⟨text, shows, rfl⟩
          refine (congrArg Prod.fst (run_bind_of_ok executed)).trans ?_
          rw [run_always_bind, run_always_bind, shown]
          rfl
    · cases asks
      have executed := execute_ok_iff.mpr ⟨_, ran, .unset unset⟩
      exact congrArg Prod.fst (run_bind_of_ok executed)

theorem Completes.run_eq {s : Script} {shown : Option String} (h : s.Completes cx w shown) :
    ((s.run cx).run w).1 = .ok shown :=
  run_ok_iff.mpr (.inl h)

theorem LeavesUnset.run_eq {s : Script} {name : String} (h : s.LeavesUnset cx w name) :
    ((s.run cx).run w).1 = .ok none :=
  run_ok_iff.mpr (.inr ⟨rfl, name, h⟩)

theorem Completes.result_eq_none {s : Script} (h : s.Completes cx w none) : s.result = none := by
  cases h
  rfl

/-! ### The job -/

/-- **The job does not panic**: the one handle that it works on is its own. -/
theorem run_settles (s : Script) : Settles (s.run (σ := σ) cx) := by
  have executes : Settles (σ := σ) (execute cx s.source s.result) := by
    refine (settles_compileScript s.source .statements).bind fun code => ?_
    refine Settles.bind ?_ fun _ => ?_
    · exact (settles_runCode code .statements).bind fun _ => .pure ()
    split
    · exact .pure none
    · refine (Settles.always _).bind fun rt => (Settles.perform _ _).bind fun v => ?_
      split
      · exact (Settles.always _).bind fun h => .pure (some h)
      · exact .pure none
  refine executes.bindGiven fun found w w' executed => ?_
  obtain ⟨source, result⟩ := s
  have own : ∀ h ∈ found, h.session = cx.session := by
    obtain ⟨w₁, ran, found⟩ := execute_ok_iff.mp executed
    cases found with
    | unasked | unset => exact fun h hh => absurd hh (Option.not_mem_none h)
    | bound asked => exact fun h hh => Option.some.inj hh ▸ rfl
  cases found with
  | none => exact .pure none
  | some h =>
      have shows : Settles (σ := σ) (h.repr cx) := by
        rw [repr_own (own h rfl)]
        exact (Settles.perform _ _).bind fun t => .pure _
      intro w₃ message panics
      rw [run_always_bind, run_always_bind] at panics
      rcases shown : (h.repr cx).run w₃ with ⟨e | text, w₄⟩ <;> rw [shown] at panics <;> cases panics
      exact shows w₃ message (congrArg Prod.fst shown)

/-- The handle on the result is released again. -/
theorem makes_run (s : Script) : Makes (σ := σ) cx (s.run cx) fun _ => [] := by
  refine (makes_execute s.source s.result).hold fun found own => ?_
  cases found with
  | none => exact Turns.ok none rfl
  | some h =>
      have shows : Turns (σ := σ) cx [h] (h.repr cx).run fun r => [h] ++ leaves (fun _ => []) [] r :=
        (quiet_repr h).frame [h]
      have releases := Turns.release (σ := σ) (own h List.mem_cons_self)
      refine (Turns.always shows).andThen fun r => ?_
      refine (Turns.always (releases.beside (leaves (fun _ => []) [] r))).andThen fun _ => ?_
      match r with
      | .ok text => exact Turns.ok _ rfl
      | .error (.failed e) => exact Turns.failed e rfl
      | .error (.panicked message) => exact Turns.panicked message

/-- **What a job that is carried out returns**, and what the guest writes meanwhile. -/
theorem carried (w : World σ) (s : SessionId) (script : Script) :
    ∃ r w' texts, (∀ sys : System σ Script ScriptEnd, sys.world = w →
        script.carryOut sys s = (.returned r, { sys with world := w' })) ∧
      ((script.run ⟨s⟩).run w).1 = r.mapError .failed ∧
      Writes NoSink w texts w' ∧ Steady ⟨s⟩ w w' := by
  have makes : Makes (σ := σ) ⟨s⟩ (script.run ⟨s⟩) fun _ => [] := makes_run script
  have moves := makes w []
  obtain ⟨texts, writes⟩ := moves.writes
  have settles (message : String) : ((script.run ⟨s⟩).run w).1 ≠ .error (.panicked message) :=
    run_settles script w message
  rcases ends : (script.run ⟨s⟩).run w with ⟨r, w₁⟩
  have settled : Writes NoSink w₁ _ (w₁.ask .settle).2 := .ask w₁ .settle rfl
  rw [ends] at moves writes settles
  have steady := moves.steady.trans (steady_ask w₁ .settle)
  match r with
  | .ok shown =>
      refine ⟨.ok shown, _, _, ?_, rfl, writes.trans settled, steady⟩
      rintro sys rfl
      simp only [carryOut, ends]
  | .error (.failed e) =>
      refine ⟨.error e, _, _, ?_, rfl, writes.trans settled, steady⟩
      rintro sys rfl
      simp only [carryOut, ends]
  | .error (.panicked message) => exact absurd rfl (settles message)

end Script

end GuestBridge.CommandLine
