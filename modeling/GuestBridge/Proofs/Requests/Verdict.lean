import GuestBridge.Proofs.Requests.Operations

/-!
# Which Error an Operation Reports

An operation that fails reports one fault: an exception, with what was being done when it was raised,
or an answer at which it refused to go on. `Operation.Reports` says which fault that is after the
steps that were made; `Judged` says which of the five kinds of errors it becomes. The kind goes by
the site and by what the guest answered when it was asked for the class of the exception, and never
by the class alone.

## Main statements

* `Operation.verdict` — an operation fails exactly where its last step raised or was refused, and the
  error is of the kind of the fault.
-/

namespace GuestBridge.Bridge

open Guest (Ref Raised ErrorKind)

/-- The class of exceptions that have a meaning of their own at a site. -/
def Site.specific : Site → Option ErrorKind
  | .importing _ => some .importError
  | .subscript _ _ => some .lookupError
  | .iterate _ => some .typeError
  | _ => none

theorem Site.specific_ne {site : Site} {k : ErrorKind} (h : k ∈ site.specific) :
    k ≠ .moduleNotFoundError := by
  cases site <;> cases h <;> nofun

/-- What an operation reports when it fails. -/
inductive Fault
  /-- An exception, and what was being done when it was raised. -/
  | raised (site : Site) (x : Raised)
  /-- What was to be called cannot be called. -/
  | notCallable (callee : Ref)
  /-- A mapping does not have a key. -/
  | missing (container key : Ref)
  /-- A sequence of a length does not have an index. -/
  | outOfRange (container : Ref) (length : Nat)

/-! ### Tests in a report -/

/-- Whether a request asks for the class of an object. -/
def Request.isTest : {α : Type} → Request α → Bool
  | _, .belongs _ _ => true
  | _, _ => false

theorem test_not_mem {tr : List Asked} (none : ∀ q ∈ tr, q.request.isTest = false) (x : Raised)
    (k : ErrorKind) (a : Except Raised Bool) : test x k a ∉ tr :=
  fun mem => Bool.noConfusion (none _ mem)

theorem test_ne (x : Raised) (k : ErrorKind) (a : Except Raised Bool) {q : Asked}
    (other : q.request.isTest = false) : test x k a ≠ q := by
  rintro rfl
  cases other

@[simp] theorem test_eq_test {x y : Raised} {k l : ErrorKind} {a b : Except Raised Bool} :
    test x k a = test y l b ↔ x.value = y.value ∧ k = l ∧ a = b := by
  simp [test, and_assoc]

theorem Diagnosed.not_mem {x y : Raised} {tr : List Asked} {d : Diagnostic} (h : Diagnosed x tr d)
    (k : ErrorKind) (a : Except Raised Bool) : test y k a ∉ tr := by
  refine test_not_mem ?_ y k a
  cases h <;> simp [Request.isTest]

theorem Tracebacks.not_mem {cx : Context} {x y : Raised} {tr : List Asked} {t : Option Handle}
    (h : Tracebacks cx x tr t) (k : ErrorKind) (a : Except Raised Bool) : test y k a ∉ tr := by
  refine test_not_mem ?_ y k a
  cases h <;> simp [Request.isTest]

theorem Unspecific.not_mem {x : Raised} {site : Site} {tr : List Asked} (h : Unspecific x site tr) :
    ∀ k ∈ site.specific, test x k (.ok true) ∉ tr := by
  have only {k : ErrorKind} {a : Except Raised Bool} (no : a ≠ .ok true) :
      test x k (.ok true) ∉ [test x k a] := by
    rw [List.mem_singleton]
    exact fun same => no (test_eq_test.mp same).2.2.symm
  cases h with
  | importing no | subscript no | iterate no =>
      rintro _ ⟨⟩
      exact only no
  | member | call | convert | execute | advance | length => nofun

/-- Reporting an exception never asks whether a module is missing. -/
theorem Translates.not_missing {cx : Context} {site : Site} {x y : Raised} {tr : List Asked}
    {e : Error} (h : Translates cx site x tr e) : test y .moduleNotFoundError (.ok true) ∉ tr := by
  cases h with
  | compile diagnosed => exact diagnosed.not_mem _ _
  | module name diagnosed => simp [diagnosed.not_mem]
  | entry container key text diagnosed =>
      have other := test_ne y .moduleNotFoundError (.ok true) (q := ⟨.repr key, text⟩) rfl
      simp [diagnosed.not_mem, other]
  | iteration target diagnosed => simp [diagnosed.not_mem]
  | foreign diagnosed unspecific tracebacks =>
      cases unspecific <;> simp [diagnosed.not_mem, tracebacks.not_mem]

/-! ### The kinds of errors -/

/-- The kind of an error, by the fault that it reports and by what was asked to report it. -/
structure Fault.Kind (f : Fault) (report : List Asked) (e : Error) : Prop where
  runError : e.kindName = "run_error" ↔ ∃ x, f = .raised .compile x
  invalidModule : e.kindName = "invalid_module" ↔
    ∃ name x, f = .raised (.importing name) x ∧ test x .importError (.ok true) ∈ report
  indexError : e.kindName = "index_error" ↔
    (∃ container key x, f = .raised (.subscript container key) x ∧
      test x .lookupError (.ok true) ∈ report) ∨
    (∃ container key, f = .missing container key) ∨ ∃ container n, f = .outOfRange container n
  invalidCall : e.kindName = "invalid_call" ↔
    (∃ target x, f = .raised (.iterate target) x ∧ test x .typeError (.ok true) ∈ report) ∨
    ∃ callee, f = .notCallable callee
  foreign : e.kindName = "foreign_exception" ↔ ∃ site x, f = .raised site x ∧ site ≠ .compile ∧
    ∀ k ∈ site.specific, test x k (.ok true) ∉ report

theorem Translates.kind {cx : Context} {site : Site} {x : Raised} {tr : List Asked} {e : Error}
    (h : Translates cx site x tr e) (tests : List Asked)
    (none : ∀ k ∈ site.specific, test x k (.ok true) ∉ tests) :
    (Fault.raised site x).Kind (tests ++ tr) e := by
  cases h with
  | compile diagnosed => constructor <;> simp [Error.kindName]
  | module name diagnosed => constructor <;> simp [Error.kindName, Site.specific]
  | entry container key text diagnosed => constructor <;> simp [Error.kindName, Site.specific]
  | iteration target diagnosed => constructor <;> simp [Error.kindName, Site.specific]
  | @foreign _ _ tr tests' made _ _ diagnosed unspecific tracebacks =>
      have not : ∀ k ∈ site.specific, test x k (.ok true) ∉ tests ++ (tr ++ tests' ++ made) := by
        intro k specific
        simp only [List.mem_append, not_or]
        exact ⟨none k specific, ⟨diagnosed.not_mem k _, unspecific.not_mem k specific⟩,
          tracebacks.not_mem k _⟩
      generalize tests ++ (tr ++ tests' ++ made) = report at not ⊢
      cases unspecific <;> constructor <;> simp_all [Error.kindName, Site.specific]

namespace Operation

/-- The fault that an operation reports after the steps that it has made. A module that is not there
is reported as the attribute in whose place it was loaded. -/
inductive Reports (op : Operation) : List Step → List Asked → Fault → Prop
  | raised {before : List Step} {α : Type} {site : Site} {r : Request α} {x : Raised}
      {report : List Asked} (there : test x .moduleNotFoundError (.ok true) ∉ report) :
      Reports op (before ++ [⟨some site, r, .error x⟩]) report (.raised site x)
  | replaced {before : List Step} {α β : Type} {site : Site} {r : Request α} {x : Raised}
      {k : ErrorKind} {module : String} {r' : Request β} {y : Raised} {report : List Asked}
      (earlier : ⟨some site, r, .error x⟩ ∈ before)
      (forgives : op.Forgives ⟨some site, r, .error x⟩ k)
      (missing : test y .moduleNotFoundError (.ok true) ∈ report) :
      Reports op (before ++ [⟨some (.importing module), r', .error y⟩]) report (.raised site x)
  | notCallable {before : List Step} {site : Option Site} {callee : Ref} {a : Except Raised Bool}
      {report : List Asked} (refuses : op.Refuses ⟨site, .isCallable callee, a⟩) :
      Reports op (before ++ [⟨site, .isCallable callee, a⟩]) report (.notCallable callee)
  | missing {before : List Step} {site : Option Site} {container key : Ref} {report : List Asked}
      (refuses : op.Refuses ⟨site, .contains container key, .ok false⟩) :
      Reports op (before ++ [⟨site, .contains container key, .ok false⟩]) report
        (.missing container key)
  | outOfRange {before : List Step} {site : Option Site} {container : Ref} {n : Nat}
      {report : List Asked} (refuses : op.Refuses ⟨site, .length container, .ok n⟩) :
      Reports op (before ++ [⟨site, .length container, .ok n⟩]) report (.outOfRange container n)

/-- The exception that is reported was raised at one of the steps. -/
theorem Reports.raised_at {op : Operation} {steps : List Step} {report : List Asked} {site : Site}
    {x : Raised} (h : op.Reports steps report (.raised site x)) :
    ∃ s ∈ steps, s.site = some site ∧ s.asked.raised = some x := by
  cases h with
  | raised there => exact ⟨_, List.mem_append_right _ List.mem_cons_self, rfl, rfl⟩
  | replaced earlier forgives missing => exact ⟨_, List.mem_append_left _ earlier, rfl, rfl⟩

/-- The script that an operation runs, if it runs one, and how it is compiled. -/
def script? : Operation → Option (String × ScriptMode)
  | execute source _ => some (source, .statements)
  | evaluate expression => some (expression, .expression)
  | _ => Option.none

/-- Whether an operation loads modules. -/
def isImport : Operation → Bool
  | importModule _ | importFrom _ _ => true
  | _ => false

/-- Whether an operation works on the items of a container. -/
def isItem : Operation → Bool
  | subscript _ _ | setSubscript _ _ _ | deleteSubscript _ _ | getEntry _ _ | setEntry _ _ _
  | removeEntry _ _ | getElement _ _ | setElement _ _ _ => true
  | _ => false

/-- Whether an operation calls something or starts an iteration. -/
def isCall (op : Operation) : Bool :=
  match op with
  | iterate _ => true
  | op => op.calls

theorem does_compile {op : Operation} (h : op.Does .compile) : op.script?.isSome = true := by
  cases op <;> first | rfl | simp [Does] at h

theorem does_importing {op : Operation} {name : String} (h : op.Does (.importing name)) :
    op.isImport = true := by
  cases op <;> first | rfl | simp [Does] at h

theorem does_subscript {op : Operation} {container key : Ref} (h : op.Does (.subscript container key)) :
    op.isItem = true := by
  cases op <;> first | rfl | simp [Does] at h

theorem does_iterate {op : Operation} {target : Ref} (h : op.Does (.iterate target)) :
    op.isCall = true := by
  cases op <;> first | rfl | simp [Does] at h

/-- What an operation that has failed reports: the fault, the kind of the error, and which operations
can fail in this way. -/
structure Judged (op : Operation) (steps : List Step) (report : List Asked) (e : Error) (f : Fault) :
    Prop where
  reports : op.Reports steps report f
  kind : f.Kind report e
  runError : e.kindName = "run_error" → op.script?.isSome = true
  invalidModule : e.kindName = "invalid_module" → op.isImport = true
  indexError : e.kindName = "index_error" → op.isItem = true
  invalidCall : e.kindName = "invalid_call" → op.isCall = true

/-- What a fault has to do with the operation that reports it. -/
def Owes (op : Operation) : Fault → Prop
  | .raised site _ => op.Does site
  | .notCallable _ => op.calls = true
  | .missing _ _ | .outOfRange _ _ => op.isItem = true

theorem Judged.of {op : Operation} {steps : List Step} {report : List Asked} {e : Error} {f : Fault}
    (reports : op.Reports steps report f) (kind : f.Kind report e) (owes : op.Owes f) :
    op.Judged steps report e f where
  reports := reports
  kind := kind
  runError is := by
    obtain ⟨x, rfl⟩ := kind.runError.mp is
    exact does_compile owes
  invalidModule is := by
    obtain ⟨name, x, rfl, -⟩ := kind.invalidModule.mp is
    exact does_importing owes
  indexError is := by
    obtain ⟨container, key, x, rfl, -⟩ | ⟨container, key, rfl⟩ | ⟨container, n, rfl⟩ :=
      kind.indexError.mp is
    · exact does_subscript owes
    · exact owes
    · exact owes
  invalidCall is := by
    obtain ⟨target, x, rfl, -⟩ | ⟨callee, rfl⟩ := kind.invalidCall.mp is
    · exact does_iterate owes
    · cases op <;> first | rfl | exact owes

/-- Which operations look at the answer to a request. -/
def looksAt (op : Operation) : {α : Type} → Request α → Prop
  | _, .isCallable _ => op.calls = true
  | _, .contains _ _ | _, .length _ => op.isItem = true
  | _, _ => True

theorem Refuses.looksAt {op : Operation} {s : Step} (h : op.Refuses s) :
    op.looksAt s.asked.request := by
  cases h with
  | notCallable calls callee no => exact calls
  | missing m key k => rfl
  | get s i out => rfl
  | set s i new out => rfl

/-- **What the last step makes an operation report.** -/
theorem judged {cx : Context} {op : Operation} {steps : List Step} {last : Step}
    {report : List Asked} {e : Error} (clean : (op.rules cx).Clean steps)
    (does : (op.rules cx).Does last) (blames : Blames (op.rules cx) cx steps last report e) :
    ∃ f, op.Judged (steps ++ [last]) report e f := by
  cases blames with
  | raised strict translates =>
      refine ⟨_, .of (.raised translates.not_missing) ?_ (does.site _ rfl)⟩
      exact translates.kind [] fun _ _ => List.not_mem_nil
  | @tested _ site r x k a report _ no only translates =>
      have not {l : ErrorKind} : test x l (.ok true) ∉ [test x k a] := by
        simp [Ne.symm no]
      refine ⟨_, .of (.raised ?_) (translates.kind [test x k a] fun _ _ => not) (does.site _ rfl)⟩
      simp [translates.not_missing, Ne.symm no]
  | @replaced _ _ site r x k module r' y report _ earlier forgives translates =>
      have not {l : ErrorKind} (specific : l ∈ site.specific) :
          test x l (.ok true) ∉ [test y .moduleNotFoundError (.ok true)] := by
        simp [Site.specific_ne specific]
      have kind := translates.kind [test y .moduleNotFoundError (.ok true)] fun _ => not
      exact ⟨_, .of (.replaced earlier forgives List.mem_cons_self) kind
        ((clean.does _ earlier).site _ rfl)⟩
  | refused refuses refusal =>
      obtain ⟨site, q⟩ := last
      have looks := Refuses.looksAt refuses
      cases refusal with
      | notCallable callee no name =>
          exact ⟨_, .of (.notCallable refuses) (by constructor <;> simp [Error.kindName]) looks⟩
      | missing container key text =>
          exact ⟨_, .of (.missing refuses) (by constructor <;> simp [Error.kindName]) looks⟩
      | outOfRange container index length =>
          exact ⟨_, .of (.outOfRange refuses) (by constructor <;> simp [Error.kindName]) looks⟩

/-- How an operation ends, by the steps that it has made and by what was asked to report a failure. -/
structure Verdict (cx : Context) (op : Operation) (steps : List Step) (report : List Asked)
    (r : Except (Stop Error) (List Handle)) : Prop where
  does : ∀ s ∈ steps, (op.rules cx).Does s
  /-- It fails exactly where the last step has raised, or its answer was refused. -/
  failed : (∃ e, r = .error (.failed e)) ↔ (op.rules cx).Faulty steps
  /-- Otherwise every step was clean, and nothing was asked besides. -/
  clean : (∀ e, r ≠ .error (.failed e)) → (op.rules cx).Clean steps ∧ report = []
  /-- It reports a fault, and the error is of the kind of that fault. -/
  judged : ∀ e, r = .error (.failed e) → ∃ f, op.Judged steps report e f
  /-- The script could not be compiled exactly where a step of compiling has raised. -/
  compiling : (∃ e, r = .error (.failed e) ∧ e.kindName = "run_error") ↔
    ∃ s ∈ steps, s.site = some .compile ∧ ∃ x, s.asked.raised = some x

theorem clean_compiling {cx : Context} {op : Operation} {steps : List Step}
    (clean : (op.rules cx).Clean steps) :
    ¬ ∃ s ∈ steps, s.site = some .compile ∧ ∃ x, s.asked.raised = some x := by
  rintro ⟨s, hs, site, x, raised⟩
  induction clean with
  | nil => cases hs
  | step does goesOn clean ih =>
      rcases List.mem_cons.mp hs with rfl | hs
      · cases raised
      · exact ih hs
  | forgiven does own forgives clean ih =>
      rcases List.mem_cons.mp hs with rfl | hs
      · cases site
        exact absurd forgives.not_plain nofun
      · rcases List.mem_cons.mp hs with rfl | hs
        · cases raised
        · exact ih hs

theorem blames_compiling {cx : Context} {op : Operation} {steps : List Step} {last : Step}
    {report : List Asked} {e : Error} (blames : Blames (op.rules cx) cx steps last report e)
    (site : last.site = some .compile) : e.kindName = "run_error" := by
  cases blames with
  | raised strict translates =>
      cases site
      exact (translates.kind [] fun _ _ => List.not_mem_nil).runError.mpr ⟨_, rfl⟩
  | tested no only translates =>
      cases site
      exact (translates.kind [] fun _ _ => List.not_mem_nil).runError.mpr ⟨_, rfl⟩
  | replaced earlier forgives translates => cases site
  | refused refuses refusal =>
      obtain ⟨site', q⟩ := last
      cases site
      exact absurd (Refuses.not_plain refuses) nofun

theorem verdict_of_clean {cx : Context} {op : Operation} {steps : List Step}
    {r : Except (Stop Error) (List Handle)} (clean : (op.rules cx).Clean steps)
    (ok : ∀ e, r ≠ .error (.failed e)) : op.Verdict cx steps [] r where
  does := clean.does
  failed := ⟨fun ⟨e, fails⟩ => absurd fails (ok e), fun faulty => absurd faulty clean.not_faulty⟩
  clean _ := ⟨clean, rfl⟩
  judged e fails := absurd fails (ok e)
  compiling := ⟨fun ⟨e, fails, _⟩ => absurd fails (ok e), fun raised =>
    absurd raised (clean_compiling clean)⟩

theorem verdict_of_failed {cx : Context} {op : Operation} {steps : List Step} {last : Step}
    {report : List Asked} {e : Error} (clean : (op.rules cx).Clean steps)
    (does : (op.rules cx).Does last) (blames : Blames (op.rules cx) cx steps last report e) :
    op.Verdict cx (steps ++ [last]) report (.error (.failed e)) where
  does := (Ended.failed (Q := fun _ : Unit => True) clean does blames).does
  failed := ⟨fun _ => ⟨steps, last, rfl, clean, blames.fault⟩, fun _ => ⟨e, rfl⟩⟩
  clean ok := absurd rfl (ok e)
  judged e' fails := by
    cases fails
    exact judged clean does blames
  compiling := by
    constructor
    · rintro ⟨_, ⟨⟩, is⟩
      obtain ⟨f, reports, kind, -⟩ := judged clean does blames
      obtain ⟨x, rfl⟩ := kind.runError.mp is
      obtain ⟨s, hs, site, raised⟩ := reports.raised_at
      exact ⟨s, hs, site, x, raised⟩
    · rintro ⟨s, hs, site, raised⟩
      -- the steps before the last one are clean, so it is the last one that has raised
      rcases List.mem_append.mp hs with before | hs
      · exact absurd ⟨s, before, site, raised⟩ (clean_compiling clean)
      · exact ⟨e, rfl, blames_compiling blames (List.mem_singleton.mp hs ▸ site)⟩

theorem verdict_of_ended {cx : Context} {op : Operation} {P : List Handle → Prop}
    {steps : List Step} {report : List Asked} {r : Except (Stop Error) (List Handle)}
    (ended : Ended (op.rules cx) cx P steps report r) : op.Verdict cx steps report r := by
  cases ended with
  | done clean own => exact verdict_of_clean clean nofun
  | panicked clean => exact verdict_of_clean clean nofun
  | failed clean does blames => exact verdict_of_failed clean does blames

/-- **Every run of an operation that can fail ends by its verdict.** -/
theorem verdict {σ : Type} [GuestState σ] (cx : Context) (op : Operation)
    (fallible : op.canFail = true) (w : World σ) :
    ∃ steps report, Runs w (asks steps ++ report) ((op.result cx).run w).2 ∧
      op.Verdict cx steps report ((op.result cx).run w).1 := by
  obtain ⟨tr, run, steps, report, rfl, ended⟩ := (op.keeps fallible : op.Keeps σ cx) w
  exact ⟨steps, report, run, verdict_of_ended ended⟩

end Operation

end GuestBridge.Bridge
