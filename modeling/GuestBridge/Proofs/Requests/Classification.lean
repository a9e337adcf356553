import GuestBridge.Proofs.Requests.Compiling
import GuestBridge.Proofs.Requests.Verdict

/-!
# The Classification of Errors

What the host can rely on when an operation fails, or does not. `Operation.Verdict` says it of the
steps of every operation. Of a script that is not compiled more can be said: nothing was asked of the
guest but what compiling it asks, so no statement has run, and while the guest's compiler is in its
place nothing that scripts or the host see has changed.

## Main results

* `Operation.classified` — every run of an operation that can fail ends by its verdict, and a script
  that is not compiled leaves no trace.
-/

namespace GuestBridge.Bridge

open Guest (Ref Raised)

variable {σ : Type} [GuestState σ] {cx : Context}

namespace Operation

/-! ### Scripts -/

/-- The rules of a script that has been compiled. -/
def compiled (cx : Context) (op : Operation) : Rules :=
  { op.rules cx with does := fun site => op.Does site ∧ site ≠ .compile }

theorem admits_compile {op : Operation} {source : String} {mode : ScriptMode}
    (script : op.script? = some (source, mode)) (q : Asked) : (op.rules cx).Admits .compile q := by
  cases op with
  | execute source result => exact (execute source result).admits_own rfl (.inl rfl) Context.owns_nil q
  | evaluate expression => exact (evaluate expression).admits_own rfl (.inl rfl) Context.owns_nil q
  | _ => cases script

/-- A script that has been compiled makes the other requests of its operation. -/
theorem admits_compiled {op : Operation} {site : Site} {q : Asked}
    (admits : (op.rules cx).Admits site q) (other : site ≠ .compile) :
    (op.compiled cx).Admits site q where
  does := ⟨admits.does, other⟩
  goesOn := admits.goesOn
  strict := admits.strict
  early := admits.early

/-- An operation that runs a script compiles it first, and then compiles nothing more. -/
theorem result_of_script {op : Operation} {source : String} {mode : ScriptMode}
    (script : op.script? = some (source, mode)) :
    ∃ rest : Ref → Boundary σ (List Handle), op.result cx = compileScript cx source mode >>= rest ∧
      ∀ code, Tells (op.compiled cx) cx (rest code) fun _ => True := by
  cases op with
  | execute source result =>
      cases script
      refine ⟨fun code => Option.toList <$> runStatements cx result code, ?_, fun code => ?_⟩
      · rw [Operation.result, execute_eq, map_bind]
      · refine (tells_runStatements (fun q => ?_) fun q => ?_).map fun _ _ => trivial
        · exact admits_compiled ((execute source result).admits_own rfl (.inr (.inl rfl))
            Context.owns_nil q) (by simp)
        · exact admits_compiled (admits_result source result q) (by simp)
  | evaluate expression =>
      cases script
      refine ⟨fun code => (fun h => [h]) <$> runExpression cx code, ?_, fun code => ?_⟩
      · rw [Operation.result, evaluate_eq, map_bind]
      · refine (tells_runExpression fun q => ?_).map fun _ _ => trivial
        exact admits_compiled ((evaluate _).admits_own rfl (.inr rfl) Context.owns_nil q)
          (by simp)
  | _ => cases script

/-- A script that has been compiled does not fail as one that cannot be compiled. -/
theorem Ended.not_runError {op : Operation} {P : List Handle → Prop} {before steps : List Step}
    {report : List Asked} {e : Error} (clean : (op.rules cx).Clean before)
    (ended : Ended (op.compiled cx) cx P steps report (.error (.failed e))) :
    e.kindName ≠ "run_error" := by
  intro is
  have wider : ∀ site, (op.Does site ∧ site ≠ .compile) → op.Does site := fun _ h => h.1
  have whole := ((ended.widen (ρ := op.rules cx) wider).after clean)
  obtain ⟨s, hs, site, raised⟩ := (verdict_of_ended whole).compiling.mp ⟨e, rfl, is⟩
  rcases List.mem_append.mp hs with hs | hs
  · exact clean_compiling clean ⟨s, hs, site, raised⟩
  · exact ((ended.does s hs).site _ site).2 rfl

/-- How an operation ends that runs a script. -/
theorem ended_of_script {op : Operation} {source : String} {mode : ScriptMode}
    (script : op.script? = some (source, mode)) (w : World σ) :
    ∃ steps report, Runs w (asks steps ++ report) ((op.result cx).run w).2 ∧
      Ended (op.rules cx) cx (fun _ => True) steps report ((op.result cx).run w).1 ∧
      ∀ e, ((op.result cx).run w).1 = .error (.failed e) → e.kindName = "run_error" →
        (∃ x, Compiles (runtimeOf cx w).1 source mode (asks steps) (.error x)) ∧
          ((op.result cx).run w).2 = (compileScript cx source mode w).2 := by
  obtain ⟨rest, result, tells⟩ : ∃ rest : Ref → Boundary σ (List Handle), _ ∧ _ :=
    result_of_script script
  rw [result]
  obtain ⟨tr, run, compiled⟩ : ∃ tr, Runs w tr (compileScript cx source mode w).2 ∧
      Compiled cx (runtimeOf cx w).1 source mode tr (compileScript cx source mode w).1 :=
    traced_compile _ _ _ w
  have adm (q : Asked) (_ : True) := (admits_compile script q : (op.rules cx).Admits .compile q)
  have whole : (compileScript cx source mode >>= rest).run w =
      match compileScript cx source mode w with
      | (.ok code, w') => (rest code).run w'
      | (.error e, w') => (.error e, w') := by
    rw [ExceptT.run_bind, bind_apply, ExceptT.run]
    rcases compileScript cx source mode w with ⟨_ | _, _⟩ <;> rfl
  rw [whole]
  clear whole
  generalize compileScript cx source mode w = after at run compiled ⊢
  obtain ⟨r, w'⟩ := after
  cases compiled with
  | @failed tr report x e compiles translates =>
      refine ⟨tr.map (Step.mk (some .compile)), report, by rwa [asks_map], ?_, ?_⟩
      · exact Crossed.ended adm compiles.crossed translates
      · rintro _ ⟨⟩ is
        exact ⟨⟨x, by rwa [asks_map]⟩, rfl⟩
  | @done tr code compiles =>
      have clean : (op.rules cx).Clean (tr.map (Step.mk (some .compile))) := by
        cases compiles.crossed with
        | done calm h => exact .of_may adm calm
      obtain ⟨_, rest, steps, report, rfl, ended⟩ := tells code w'
      refine ⟨tr.map (Step.mk (some .compile)) ++ steps, report, ?_, ?_, fun e fails is => ?_⟩
      · rw [asks_append, asks_map, List.append_assoc]
        exact run.append rest
      · exact (ended.widen fun _ h => h.1).after clean
      · have ended : Ended (op.compiled cx) cx _ steps report (.error (.failed e)) := fails ▸ ended
        exact absurd is (Ended.not_runError clean ended)

/-! ### Every operation -/

/-- What a script leaves behind that could not be compiled, where it had made the given steps. -/
structure Uncompiled {V : Type} (C : Compiler σ V) (cx : Context) (op : Operation) (w w' : World σ)
    (steps : List Step) : Prop where
  /-- All that was asked is what compiling asks: nothing of the script has run. -/
  only : ∃ source mode x, op.script? = some (source, mode) ∧
    Compiles (runtimeOf cx w).1 source mode (asks steps) (.error x)
  /-- The compiler being in its place, nothing has changed that scripts or the host see. -/
  still : C.InPlace w.guest → (runtimeOf cx w).1.builtins = C.builtins → C.Still w w'

end Operation

/-! ### A small compiler -/

/-- A guest that keeps texts and counts the scripts that it has run. It compiles every text but an
opening bracket that nothing closes. -/
structure Clerk where
  texts : List String
  ran : Nat

namespace Clerk

def builtinsRef : Ref := ⟨1⟩
def compileRef : Ref := ⟨2⟩
def execRef : Ref := ⟨3⟩
def faultRef : Ref := ⟨4⟩
def codeRef : Ref := ⟨5⟩

/-- The object of a text. -/
def textRef (place : Nat) : Ref := ⟨place + 6⟩

def compile (c : Clerk) (args : List Ref) : Except Raised Ref :=
  match args with
  | [text, _, _] => if c.texts[text.id - 6]? = some "(" then .error ⟨faultRef, []⟩ else .ok codeRef
  | _ => .error ⟨faultRef, []⟩

/-- Answers a request. -/
def answer (c : Clerk) : {α : Type} → Request α → Except Raised α × Clerk
  | _, .getAttr o name =>
    if o = builtinsRef && name = "compile" then (.ok compileRef, c)
    else if o = builtinsRef && name = "exec" then (.ok execRef, c)
    else (.error ⟨faultRef, []⟩, c)
  | _, .newStr s => (.ok (textRef c.texts.length), { c with texts := c.texts ++ [s] })
  | _, .call f args _ =>
    if f = compileRef then (c.compile args, c) else (.ok Guest.noneRef, { c with ran := c.ran + 1 })
  | _, .isCallable o => (.ok (o = compileRef || o = execRef), c)
  | _, .typeName o => (.ok (if o = codeRef then "code" else "SyntaxError"), c)
  | _, .str _ => (.ok (Text.ofString "'(' was never closed"), c)
  | _, _ => (.error ⟨faultRef, []⟩, c)

instance : GuestState Clerk where
  perform _ r c := ((c.answer r).1, [], (c.answer r).2)

/-- How the compiler of this guest is looked at. -/
def compiler : Compiler Clerk Nat where
  builtins := builtinsRef
  compile := compileRef
  InPlace _ := True
  look := ran
  Own _ r := r = faultRef

theorem laws : compiler.Laws where
  found held _ answer := by cases answer; rfl
  quiet held _ asks := rfl
  keeps held _ asks := by
    cases asks <;> exact ⟨trivial, rfl, fun _ own => own⟩
  raises held _ asks raised := by
    cases asks with
    | lookUp | text s => cases raised
    | compile text file word =>
        change compile _ [text, file, word] = _ at raised
        simp only [compile] at raised
        split at raised <;> cases raised
        exact ⟨rfl, rfl⟩
    | typeName own | str own => cases raised

/-- A clerk at work for its first session. -/
def world : World Clerk :=
  ⟨⟨[], 0⟩, [], [{ SessionState.fresh with runtime := some ⟨"<tether>", builtinsRef, Guest.noneRef, [],
    Guest.noneRef, none⟩ }], []⟩

end Clerk

/-- An opening bracket that nothing closes. -/
def unclosed : Operation := .execute "(" Option.none

end GuestBridge.Bridge
