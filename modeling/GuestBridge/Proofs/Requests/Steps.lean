import GuestBridge.Proofs.Requests.Faults

/-!
# The Steps of Operations

An operation of the bridge makes requests one after the other, each while it is doing something
particular. `Rules` says of an operation what it may be doing, which exceptions are ordinary answers
to it, and which answers make it refuse to go on. `Ended` says how such an operation can end: with a
value after nothing but clean steps, with a panic, or with the error of its last step.

`Tells` says this of every run of a computation. What an operation does is put together along its
definition (`Tells.bind`), one rule for each way to make a request.

## Main statements

* `Rules.Clean.not_faulty` — after clean steps there is nothing to report.
* `Tells.orError` — a crossing in an operation.
-/

namespace GuestBridge.Bridge

open Guest (Ref Raised ErrorKind)

/-- A request that an operation has made, and what it was doing; nothing where it only looked whether
it can go on. -/
structure Step where
  site : Option Site
  asked : Asked

/-- What an operation makes of the answers to its requests. -/
structure Rules where
  /-- What it may be doing. -/
  does : Site → Prop
  /-- Exceptions of these classes are ordinary answers at a step. -/
  forgives : Step → ErrorKind → Prop
  /-- Answers at which the operation refuses to go on. -/
  refuses : Step → Prop
  /-- All handles that the operation works on belong to the session. -/
  own : Prop
  /-- The steps that can be made before all these handles have been looked at. -/
  early : Step → Prop

namespace Rules

variable (ρ : Rules)

/-- An operation may make a step: what it was doing is among what it may be doing, and it makes only
early steps before it has looked at all its handles. -/
structure Does (s : Step) : Prop where
  site : ∀ site ∈ s.site, ρ.does site
  early : ρ.early s ∨ ρ.own

/-- Steps after which an operation goes on: the guest has answered, and the answer was not refused;
or it has raised an exception of a class that is an ordinary answer, and has said so. -/
inductive Clean : List Step → Prop
  | nil : Clean []
  | step {α : Type} {site : Option Site} {r : Request α} {a : α} {rest : List Step}
      (does : ρ.Does ⟨site, r, .ok a⟩) (goesOn : ¬ ρ.refuses ⟨site, r, .ok a⟩) (clean : Clean rest) :
      Clean (⟨site, r, .ok a⟩ :: rest)
  | forgiven {α : Type} {site : Option Site} {r : Request α} {x : Raised} {k : ErrorKind}
      {rest : List Step} (does : ρ.Does ⟨site, r, .error x⟩) (own : ρ.own)
      (forgives : ρ.forgives ⟨site, r, .error x⟩ k) (clean : Clean rest) :
      Clean (⟨site, r, .error x⟩ :: ⟨site, test x k (.ok true)⟩ :: rest)

/-- The last of the steps has raised, or its answer was refused. -/
def Faulty (steps : List Step) : Prop :=
  ∃ clean last, steps = clean ++ [last] ∧ ρ.Clean clean ∧
    ((∃ x, last.asked.raised = some x) ∨ ρ.refuses last)

variable {ρ} {steps steps' : List Step}

theorem Does.at_site {site : Site} {q : Asked} (does : ρ.does site)
    (early : ρ.early ⟨some site, q⟩ ∨ ρ.own) : ρ.Does ⟨some site, q⟩ where
  site := by
    rintro _ ⟨⟩
    exact does
  early := early

theorem Clean.append (first : ρ.Clean steps) (second : ρ.Clean steps') :
    ρ.Clean (steps ++ steps') := by
  induction first with
  | nil => exact second
  | step does goesOn clean ih => exact .step does goesOn ih
  | forgiven does own forgives clean ih => exact .forgiven does own forgives ih

theorem Clean.does (clean : ρ.Clean steps) : ∀ s ∈ steps, ρ.Does s := by
  induction clean with
  | nil => exact fun s hs => absurd hs List.not_mem_nil
  | step does goesOn clean ih => exact List.forall_mem_cons.mpr ⟨does, ih⟩
  | forgiven does own forgives clean ih =>
      exact List.forall_mem_cons.mpr ⟨does, List.forall_mem_cons.mpr ⟨⟨does.site, .inr own⟩, ih⟩⟩

/-- **After clean steps there is nothing to report.** -/
theorem Clean.not_faulty (clean : ρ.Clean steps) : ¬ ρ.Faulty steps := by
  rintro ⟨before, last, rfl, first, fault⟩
  -- a clean list has no clean part that ends before a fault
  induction first with
  | nil =>
      cases clean with
      | step does goesOn rest =>
          rcases fault with ⟨x, raised⟩ | refused
          · cases raised
          · exact goesOn refused
  | step does goesOn rest ih =>
      cases clean with
      | step does' goesOn' rest' => exact ih rest'
  | forgiven does own forgives rest ih =>
      cases clean with
      | forgiven does' own' forgives' rest' => exact ih rest'

/-- A question that is asked for its answer alone, by an operation that may be doing this. -/
structure Admits (ρ : Rules) (site : Site) (q : Asked) : Prop where
  does : ρ.does site
  goesOn : ¬ ρ.refuses ⟨some site, q⟩
  strict : ∀ k, ¬ ρ.forgives ⟨some site, q⟩ k
  early : ρ.early ⟨some site, q⟩ ∨ ρ.own

theorem Admits.doesStep {site : Site} {q : Asked} (adm : ρ.Admits site q) :
    ρ.Does ⟨some site, q⟩ :=
  .at_site adm.does adm.early

/-- Answers that are not refused. -/
theorem Clean.of_calm {site : Site} {tr : List Asked}
    (calm : ∀ q ∈ tr, (ρ.Does ⟨some site, q⟩ ∧ ¬ ρ.refuses ⟨some site, q⟩) ∧ q.raised = none) :
    ρ.Clean (tr.map (Step.mk (some site))) := by
  induction tr with
  | nil => exact .nil
  | cons q tr ih =>
      obtain ⟨r, a⟩ := q
      have ⟨⟨does, goesOn⟩, answered⟩ := calm _ List.mem_cons_self
      cases a with
      | ok a => exact .step does goesOn (ih fun q hq => calm q (.tail _ hq))
      | error x => cases answered

/-- Questions that are asked for their answers alone, and that are answered. -/
theorem Clean.of_may {site : Site} {may : Asked → Prop} (adm : ∀ q, may q → ρ.Admits site q)
    {tr : List Asked} (calm : ∀ q ∈ tr, may q ∧ q.raised = none) :
    ρ.Clean (tr.map (Step.mk (some site))) :=
  .of_calm fun q hq =>
    have ⟨here, answered⟩ := calm q hq
    ⟨⟨(adm q here).doesStep, (adm q here).goesOn⟩, answered⟩

/-- A request to which an exception of one class is an ordinary answer. -/
structure Excuses (ρ : Rules) (site : Site) {α : Type} (r : Request α) (k : ErrorKind) : Prop where
  does : ρ.does site
  goesOn : ∀ a, ¬ ρ.refuses ⟨some site, r, a⟩
  forgives : ∀ x, ρ.forgives ⟨some site, r, .error x⟩ k
  only : ∀ x k', ρ.forgives ⟨some site, r, .error x⟩ k' → k' = k
  own : ρ.own

theorem Excuses.doesStep {site : Site} {α : Type} {r : Request α} {k : ErrorKind}
    (exc : ρ.Excuses site r k) (a : Except Raised α) : ρ.Does ⟨some site, r, a⟩ :=
  .at_site exc.does (.inr exc.own)

end Rules

/-! ### Ends -/

/-- Why the last step ends an operation: what is asked then, and the error. -/
inductive Blames (ρ : Rules) (cx : Context) (steps : List Step) : Step → List Asked → Error → Prop
  /-- It has raised, and no exception is an ordinary answer to it. -/
  | raised {α : Type} {site : Site} {r : Request α} {x : Raised} {report : List Asked} {e : Error}
      (strict : ∀ k, ¬ ρ.forgives ⟨some site, r, .error x⟩ k)
      (translates : Translates cx site x report e) :
      Blames ρ cx steps ⟨some site, r, .error x⟩ report e
  /-- It has raised, and the exception is not one of the classes that were asked for. -/
  | tested {α : Type} {site : Site} {r : Request α} {x : Raised} {k : ErrorKind}
      {a : Except Raised Bool} {report : List Asked} {e : Error} (no : a ≠ .ok true)
      (only : ∀ k', ρ.forgives ⟨some site, r, .error x⟩ k' → k' = k)
      (translates : Translates cx site x report e) :
      Blames ρ cx steps ⟨some site, r, .error x⟩ (test x k a :: report) e
  /-- A module that was loaded in place of an earlier answer does not exist; the earlier exception
  is what is reported. -/
  | replaced {α β : Type} {site : Site} {r : Request α} {x : Raised} {k : ErrorKind} {module : String}
      {r' : Request β} {y : Raised} {report : List Asked} {e : Error}
      (earlier : ⟨some site, r, .error x⟩ ∈ steps) (forgives : ρ.forgives ⟨some site, r, .error x⟩ k)
      (translates : Translates cx site x report e) :
      Blames ρ cx steps ⟨some (.importing module), r', .error y⟩
        (test y .moduleNotFoundError (.ok true) :: report) e
  | refused {last : Step} {report : List Asked} {e : Error} (refuses : ρ.refuses last)
      (refusal : Refusal cx last.asked report e) : Blames ρ cx steps last report e

/-- How an operation ends: the steps that it has made, what was asked to report a failure, and the
result. -/
inductive Ended (ρ : Rules) (cx : Context) {α : Type} (Q : α → Prop) :
    List Step → List Asked → Except (Stop Error) α → Prop
  | done {steps : List Step} {a : α} (clean : ρ.Clean steps) (h : Q a) : Ended ρ cx Q steps [] (.ok a)
  | panicked {steps : List Step} (clean : ρ.Clean steps) :
      Ended ρ cx Q steps [] (.error (.panicked strangerMessage))
  | failed {steps : List Step} {last : Step} {report : List Asked} {e : Error}
      (clean : ρ.Clean steps) (does : ρ.Does last) (blames : Blames ρ cx steps last report e) :
      Ended ρ cx Q (steps ++ [last]) report (.error (.failed e))

/-- What ends an operation is an exception or a refused answer. -/
theorem Blames.fault {ρ : Rules} {cx : Context} {steps : List Step} {last : Step}
    {report : List Asked} {e : Error} (h : Blames ρ cx steps last report e) :
    (∃ x, last.asked.raised = some x) ∨ ρ.refuses last := by
  cases h with
  | raised strict translates => exact .inl ⟨_, rfl⟩
  | tested no only translates => exact .inl ⟨_, rfl⟩
  | replaced earlier forgives translates => exact .inl ⟨_, rfl⟩
  | refused refuses refusal => exact .inr refuses

theorem Blames.weaken {ρ : Rules} {cx : Context} {steps : List Step} {last : Step}
    {report : List Asked} {e : Error} (before : List Step) (h : Blames ρ cx steps last report e) :
    Blames ρ cx (before ++ steps) last report e := by
  cases h with
  | raised strict translates => exact .raised strict translates
  | tested no only translates => exact .tested no only translates
  | replaced earlier forgives translates =>
      exact .replaced (List.mem_append_right before earlier) forgives translates
  | refused refuses refusal => exact .refused refuses refusal

theorem Ended.does {ρ : Rules} {cx : Context} {α : Type} {Q : α → Prop} {steps : List Step}
    {report : List Asked} {r : Except (Stop Error) α} (h : Ended ρ cx Q steps report r) :
    ∀ s ∈ steps, ρ.Does s := by
  cases h with
  | done clean h => exact clean.does
  | panicked clean => exact clean.does
  | failed clean does blames =>
      exact fun s hs => (List.mem_append.mp hs).elim (clean.does s) fun hs =>
        List.mem_singleton.mp hs ▸ does

/-- Clean steps before. -/
theorem Ended.after {ρ : Rules} {cx : Context} {α : Type} {Q : α → Prop} {before steps : List Step}
    {report : List Asked} {r : Except (Stop Error) α} (clean : ρ.Clean before)
    (h : Ended ρ cx Q steps report r) : Ended ρ cx Q (before ++ steps) report r := by
  cases h with
  | done rest h => exact .done (clean.append rest) h
  | panicked rest => exact .panicked (clean.append rest)
  | failed rest does blames =>
      rw [← List.append_assoc]
      exact .failed (clean.append rest) does (blames.weaken before)

/-! #### What may be done -/

section

variable {ρ : Rules} {d : Site → Prop} (wider : ∀ site, d site → ρ.does site)
include wider

theorem Rules.Does.widen {s : Step} (h : ({ ρ with does := d } : Rules).Does s) : ρ.Does s :=
  ⟨fun site hs => wider site (h.site site hs), h.early⟩

theorem Rules.Clean.widen {steps : List Step} (h : ({ ρ with does := d } : Rules).Clean steps) :
    ρ.Clean steps := by
  induction h with
  | nil => exact .nil
  | step does goesOn clean ih => exact .step (does.widen wider) goesOn ih
  | forgiven does own forgives clean ih => exact .forgiven (does.widen wider) own forgives ih

omit wider in
theorem Blames.widen {cx : Context} {steps : List Step} {last : Step} {report : List Asked}
    {e : Error} (h : Blames { ρ with does := d } cx steps last report e) :
    Blames ρ cx steps last report e := by
  cases h with
  | raised strict translates => exact .raised strict translates
  | tested no only translates => exact .tested no only translates
  | replaced earlier forgives translates => exact .replaced earlier forgives translates
  | refused refuses refusal => exact .refused refuses refusal

/-- An operation that does less. -/
theorem Ended.widen {cx : Context} {α : Type} {Q : α → Prop} {steps : List Step}
    {report : List Asked} {r : Except (Stop Error) α}
    (h : Ended { ρ with does := d } cx Q steps report r) : Ended ρ cx Q steps report r := by
  cases h with
  | done clean h => exact .done (clean.widen wider) h
  | panicked clean => exact .panicked (clean.widen wider)
  | failed clean does blames =>
      exact .failed (clean.widen wider) (does.widen wider) blames.widen

end

/-- What steps have asked. -/
def asks (steps : List Step) : List Asked := steps.map Step.asked

@[simp] theorem asks_nil : asks [] = [] := rfl

@[simp] theorem asks_cons (s : Step) (steps : List Step) : asks (s :: steps) = s.asked :: asks steps :=
  rfl

@[simp] theorem asks_append (steps steps' : List Step) :
    asks (steps ++ steps') = asks steps ++ asks steps' :=
  List.map_append

@[simp] theorem asks_map (site : Option Site) (tr : List Asked) :
    asks (tr.map (Step.mk site)) = tr := by
  rw [asks, List.map_map]
  exact List.map_id tr

/-- How an operation that has asked something ends. -/
def Ends (ρ : Rules) (cx : Context) {α : Type} (Q : α → Prop) (tr : List Asked)
    (r : Except (Stop Error) α) : Prop :=
  ∃ steps report, tr = asks steps ++ report ∧ Ended ρ cx Q steps report r

namespace Ends

variable {ρ : Rules} {cx : Context} {α : Type} {Q : α → Prop} {tr : List Asked}
  {r : Except (Stop Error) α} {steps : List Step}

theorem done {a : α} (h : Q a) : Ends ρ cx Q [] (.ok a) := ⟨[], [], rfl, .done .nil h⟩

theorem panicked : Ends ρ cx Q [] (.error (.panicked strangerMessage)) :=
  ⟨[], [], rfl, .panicked .nil⟩

/-- The last step ends the operation. -/
theorem failed (last : Step) {report : List Asked} {e : Error} (does : ρ.Does last)
    (blames : Blames ρ cx [] last report e) :
    Ends ρ cx Q (last.asked :: report) (.error (.failed e)) :=
  ⟨[last], report, rfl, .failed .nil does blames⟩

theorem after (clean : ρ.Clean steps) (h : Ends ρ cx Q tr r) :
    Ends ρ cx Q (asks steps ++ tr) r := by
  obtain ⟨steps', report, rfl, ended⟩ := h
  exact ⟨steps ++ steps', report, by rw [asks_append, List.append_assoc], ended.after clean⟩

/-- A step before. -/
theorem step {β : Type} (site : Option Site) {q : Request β} {b : β}
    (does : ρ.Does ⟨site, q, .ok b⟩) (goesOn : ¬ ρ.refuses ⟨site, q, .ok b⟩) (h : Ends ρ cx Q tr r) :
    Ends ρ cx Q (⟨q, .ok b⟩ :: tr) r :=
  h.after (.step does goesOn .nil)

/-- An exception that was an ordinary answer before. -/
theorem forgiven {β : Type} {site : Option Site} {q : Request β} {x : Raised} {k : ErrorKind}
    (does : ρ.Does ⟨site, q, .error x⟩) (own : ρ.own) (forgives : ρ.forgives ⟨site, q, .error x⟩ k)
    (h : Ends ρ cx Q tr r) : Ends ρ cx Q (⟨q, .error x⟩ :: test x k (.ok true) :: tr) r :=
  h.after (.forgiven does own forgives .nil)

theorem value {a : α} (h : Ends ρ cx Q tr (.ok a)) : Q a := by
  obtain ⟨steps, report, rfl, ended⟩ := h
  cases ended with
  | done clean h => exact h

/-- A part that gave a value, and what follows it. -/
theorem andThen {β : Type} {Q' : β → Prop} {a : α} {tr' : List Asked} {r : Except (Stop Error) β}
    (first : Ends ρ cx Q tr (.ok a)) (second : Ends ρ cx Q' tr' r) : Ends ρ cx Q' (tr ++ tr') r := by
  obtain ⟨steps, report, rfl, ended⟩ := first
  cases ended with
  | done clean h =>
      rw [List.append_nil]
      exact second.after clean

/-- A part that stopped early. -/
theorem stopped {β : Type} {Q' : β → Prop} {e : Stop Error} (h : Ends ρ cx Q tr (.error e)) :
    Ends ρ cx Q' tr (.error e) := by
  obtain ⟨steps, report, rfl, ended⟩ := h
  refine ⟨steps, report, rfl, ?_⟩
  cases ended with
  | panicked clean => exact .panicked clean
  | failed clean does blames => exact .failed clean does blames

theorem mono {Q' : α → Prop} (h : Ends ρ cx Q tr r) (hQ : ∀ a, Q a → Q' a) : Ends ρ cx Q' tr r := by
  obtain ⟨steps, report, rfl, ended⟩ := h
  refine ⟨steps, report, rfl, ?_⟩
  cases ended with
  | done clean h => exact .done clean (hQ _ h)
  | panicked clean => exact .panicked clean
  | failed clean does blames => exact .failed clean does blames

end Ends

variable {σ : Type} [GuestState σ]

/-- Each run of an operation ends as the rules say. -/
def Tells (ρ : Rules) (cx : Context) {α : Type} (x : Boundary σ α) (Q : α → Prop) : Prop :=
  Traced x.run (Ends ρ cx Q)

/-! ### Crossings -/

/-- How a crossing ends that asks only some questions: what it asked, and the result. -/
inductive Crossed (may : Asked → Prop) {α : Type} (Q : α → Prop) :
    List Asked → Except (Stop Raised) α → Prop
  | done {tr : List Asked} {a : α} (calm : ∀ q ∈ tr, may q ∧ q.raised = none) (h : Q a) :
      Crossed may Q tr (.ok a)
  | panicked {tr : List Asked} (calm : ∀ q ∈ tr, may q ∧ q.raised = none) :
      Crossed may Q tr (.error (.panicked strangerMessage))
  | raised {β : Type} {tr : List Asked} {r : Request β} {x : Raised}
      (calm : ∀ q ∈ tr, may q ∧ q.raised = none) (last : may ⟨r, .error x⟩) :
      Crossed may Q (tr ++ [⟨r, .error x⟩]) (.error (.failed x))

theorem Crossed.first {may : Asked → Prop} {α β : Type} {Q : α → Prop} {r : Request β} {x : Raised}
    (last : may ⟨r, .error x⟩) : Crossed may Q [⟨r, .error x⟩] (.error (.failed x)) :=
  have nothing : ∀ q ∈ ([] : List Asked), may q ∧ q.raised = none :=
    fun _ hq => absurd hq List.not_mem_nil
  .raised nothing last

/-- Each run of a crossing ends with the first exception that is raised, if there is one. -/
def Crosses (may : Asked → Prop) {α : Type} (x : Crossing σ α) (Q : α → Prop) : Prop :=
  Traced x.run (Crossed may Q)

namespace Crosses

variable {may : Asked → Prop} {α β : Type} {x : Crossing σ α} {f : α → Crossing σ β}
  {P : α → Prop} {Q : β → Prop}

theorem pure {a : α} (h : P a) : Crosses may (Pure.pure a : Crossing σ α) P :=
  Traced.pure (.done (fun _ hq => absurd hq List.not_mem_nil) h)

theorem panic : Crosses may (panicWith strangerMessage : Crossing σ α) P :=
  Traced.pure (.panicked fun _ hq => absurd hq List.not_mem_nil)

theorem bind (hx : Crosses may x P) (hf : ∀ a, P a → Crosses may (f a) Q) :
    Crosses may (x >>= f) Q := by
  refine Traced.bindExcept hx (fun tr a crossed => ?_) fun tr e crossed => ?_
  · cases crossed with
    | done calm h =>
        refine (hf a h).mono fun tr' b second => ?_
        have both {tr'' : List Asked} (calm' : ∀ q ∈ tr'', may q ∧ q.raised = none) :
            ∀ q ∈ tr ++ tr'', may q ∧ q.raised = none :=
          fun q hq => (List.mem_append.mp hq).elim (calm q) (calm' q)
        cases second with
        | done calm' h' => exact .done (both calm') h'
        | panicked calm' => exact .panicked (both calm')
        | raised calm' last =>
            rw [← List.append_assoc]
            exact .raised (both calm') last
  · cases crossed with
    | panicked calm => exact .panicked calm
    | raised calm last => exact .raised calm last

theorem mono {P' : α → Prop} (hx : Crosses may x P) (h : ∀ a, P a → P' a) : Crosses may x P' := by
  refine Traced.mono hx fun tr r crossed => ?_
  cases crossed with
  | done calm hP => exact .done calm (h _ hP)
  | panicked calm => exact .panicked calm
  | raised calm last => exact .raised calm last

theorem request (r : Request α) (hr : ∀ a, may ⟨r, a⟩) (h : ∀ a, P a) :
    Crosses (σ := σ) may (Bridge.request r) P :=
  traced_request r (fun a => .done (by simp [Asked.raised, hr]) (h a))
    fun e => .first (hr _)

/-- Looking at the bridge's own side. -/
theorem look {y : StateM (World σ) α} {f : α → Crossing σ β} (same : ∀ w, (y w).2 = w)
    (hf : ∀ a, Crosses may (f a) Q) : Crosses may (always y >>= f) Q :=
  Traced.afterwards (fun w => congrArg World.guest (same w)) hf

/-- A handle is looked at: it belongs to the session, or all is over. -/
theorem handle {h : Handle} {cx : Context} :
    Crosses (σ := σ) may (h.bind cx) fun _ => h.session = cx.session := by
  unfold Handle.bind
  split
  · rename_i own
    exact pure own
  · exact panic

end Crosses

/-! ### Operations -/

/-- First something that cannot stop early. -/
theorem Traced.always {ε α β : Type} {y : StateM (World σ) α}
    {f : α → ExceptT (Stop ε) (StateM (World σ)) β} {P : List Asked → α → Prop}
    {Q : List Asked → Except (Stop ε) β → Prop} (hy : Traced y P)
    (hf : ∀ tr a, P tr a → Traced (f a).run fun tr' b => Q (tr ++ tr') b) :
    Traced (always y >>= f).run Q :=
  Traced.bind hy hf

/-- A question, and what follows. -/
theorem traced_askThen {ε α β : Type} (r : Request α)
    {f : Except Raised α → ExceptT (Stop ε) (StateM (World σ)) β}
    {Q : List Asked → Except (Stop ε) β → Prop}
    (h : ∀ a, Traced (f a).run fun tr b => Q (⟨r, a⟩ :: tr) b) :
    Traced (always (ask? r) >>= f).run Q := by
  refine (Traced.ask r (Q := fun tr a => tr = [⟨r, a⟩]) fun _ => rfl).always fun tr a told => ?_
  subst told
  exact h a

/-- Whether an exception belongs to a class, and what follows. -/
theorem traced_testThen {ε β : Type} (x : Raised) (k : ErrorKind)
    {f : Bool → ExceptT (Stop ε) (StateM (World σ)) β} {Q : List Asked → Except (Stop ε) β → Prop}
    (yes : Traced (f true).run fun tr b => Q (test x k (.ok true) :: tr) b)
    (no : ∀ a, a ≠ .ok true → Traced (f false).run fun tr b => Q (test x k a :: tr) b) :
    Traced (always (isRaised x k) >>= f).run Q := by
  refine Traced.askFirst (.belongs x.value (.error k)) id false fun a => ?_
  by_cases found : a = .ok true
  · subst found
    exact yes
  · rw [answered_no found]
    exact no a found

/-- The error that an exception becomes. -/
theorem traced_failWith {cx : Context} {α : Type} (site : Site) (x : Raised)
    {Q : List Asked → Except (Stop Error) α → Prop}
    (h : ∀ report e, Translates cx site x report e → Q report (.error (.failed e))) :
    Traced (failWith (σ := σ) cx site x : Boundary σ α).run Q := by
  refine (traced_failure site x).always fun tr e translates => .pure ?_
  rw [List.append_nil]
  exact h tr e translates

/-- A crossing in an operation: an exception is reported as the error that it becomes. -/
theorem Traced.orError {cx : Context} {site : Site} {α : Type} {x : Crossing σ α}
    {P : List Asked → Except (Stop Raised) α → Prop} {Q : List Asked → Except (Stop Error) α → Prop}
    (hx : Traced x.run P) (ok : ∀ tr a, P tr (.ok a) → Q tr (.ok a))
    (panicked : ∀ tr message, P tr (.error (.panicked message)) → Q tr (.error (.panicked message)))
    (failed : ∀ tr x report e, P tr (.error (.failed x)) → Translates cx site x report e →
      Q (tr ++ report) (.error (.failed e))) : Traced (x.orError cx site).run Q := by
  intro w
  obtain ⟨tr, run, result⟩ := hx w
  change ∃ tr, Runs w tr (Crossing.orError x cx site w).2 ∧ Q tr (Crossing.orError x cx site w).1
  rw [Crossing.orError]
  change Runs w tr (x w).2 at run
  change P tr (x w).1 at result
  generalize x w = after at run result ⊢
  obtain ⟨(e | message) | a, w'⟩ := after
  · have fails : Traced (failWith cx site e : Boundary σ α).run fun report r => Q (tr ++ report) r :=
      traced_failWith site e fun report error translates => failed tr e report error result translates
    obtain ⟨report, reported, told⟩ := fails w'
    exact ⟨tr ++ report, run.append reported, told⟩
  · exact ⟨tr, run, panicked tr message result⟩
  · exact ⟨tr, run, ok tr a result⟩

/-- How a request goes that is made in an operation. -/
inductive Performed (cx : Context) (site : Site) {α : Type} (r : Request α) :
    List Asked → Except (Stop Error) α → Prop
  | done (a : α) : Performed cx site r [⟨r, .ok a⟩] (.ok a)
  | failed (x : Raised) (report : List Asked) (e : Error) (translates : Translates cx site x report e) :
      Performed cx site r (⟨r, .error x⟩ :: report) (.error (.failed e))

theorem traced_perform {cx : Context} {α : Type} (site : Site) (r : Request α) :
    Traced (perform cx site r : Boundary σ α).run (Performed cx site r) := by
  have asked : Traced (σ := σ) (request r).run fun tr b =>
      ∃ a, tr = [⟨r, a⟩] ∧ b = a.mapError Stop.failed :=
    traced_request r (fun a => ⟨.ok a, rfl, rfl⟩) fun x => ⟨.error x, rfl, rfl⟩
  refine asked.orError (fun tr a told => ?_) (fun tr message told => ?_)
    fun tr x report e told translates => ?_
  · obtain ⟨_ | _, rfl, ⟨⟩⟩ := told
    exact .done a
  · obtain ⟨_ | _, _, ⟨⟩⟩ := told
  · obtain ⟨_ | _, rfl, ⟨⟩⟩ := told
    exact .failed x report e translates

/-- A request in an operation, and what follows. -/
theorem traced_performThen {cx : Context} {α β : Type} {site : Site} {r : Request α}
    {f : α → Boundary σ β} {Q : List Asked → Except (Stop Error) β → Prop}
    (ok : ∀ a, Traced (f a).run fun tr b => Q (⟨r, .ok a⟩ :: tr) b)
    (failed : ∀ x report e, Translates cx site x report e →
      Q (⟨r, .error x⟩ :: report) (.error (.failed e))) :
    Traced (perform cx site r >>= f).run Q := by
  refine (traced_perform site r).bindExcept (fun tr a performed => ?_) fun tr e performed => ?_
  · cases performed with
    | done a => exact ok a
  · cases performed with
    | failed x report e translates => exact failed x report e translates

/-- A crossing that an exception ends, in an operation that makes its requests for the answers
alone. -/
theorem Crossed.ended {ρ : Rules} {cx : Context} {may : Asked → Prop} {α β : Type} {P : α → Prop}
    {Q : β → Prop} {site : Site} (adm : ∀ q, may q → ρ.Admits site q) {tr : List Asked} {x : Raised}
    {report : List Asked} {e : Error} (crossed : Crossed may P tr (.error (.failed x)))
    (translates : Translates cx site x report e) :
    Ended ρ cx Q (tr.map (Step.mk (some site))) report (.error (.failed e)) := by
  cases crossed with
  | raised calm last =>
      have here := adm _ last
      rw [List.map_append]
      exact .failed (.of_may adm calm) here.doesStep (.raised here.strict translates)

/-- A crossing in an operation. -/
theorem Crosses.orError {ρ : Rules} {cx : Context} {may : Asked → Prop} {α : Type} {P : α → Prop}
    {x : Crossing σ α} (hx : Crosses may x P) {site : Site} (adm : ∀ q, may q → ρ.Admits site q) :
    Tells ρ cx (x.orError cx site) P := by
  refine Traced.orError hx (fun tr a crossed => ?_) (fun tr message crossed => ?_)
    fun tr x report e crossed translates => ⟨_, report, by simp, crossed.ended adm translates⟩
  · cases crossed with
    | done calm h => exact ⟨_, [], by simp, .done (.of_may adm calm) h⟩
  · cases crossed with
    | panicked calm => exact ⟨_, [], by simp, .panicked (.of_may adm calm)⟩

namespace Tells

variable {ρ : Rules} {cx : Context} {α β : Type} {x : Boundary σ α} {f : α → Boundary σ β}
  {P : α → Prop} {Q : β → Prop}

theorem pure {a : α} (h : P a) : Tells ρ cx (Pure.pure a : Boundary σ α) P :=
  Traced.pure (.done h)

theorem panic : Tells ρ cx (panicWith strangerMessage : Boundary σ α) P :=
  Traced.pure .panicked

/-- A first part and what follows it; where the first part stops early all is over. -/
theorem bind (hx : Tells ρ cx x P) (hf : ∀ a, P a → Tells ρ cx (f a) Q) :
    Tells ρ cx (x >>= f) Q := by
  refine Traced.bindExcept hx (fun tr a ends => ?_) fun tr e ends => ends.stopped
  exact (hf a ends.value).mono fun tr' r second => ends.andThen second

theorem mono {Q' : α → Prop} (hx : Tells ρ cx x P) (h : ∀ a, P a → Q' a) : Tells ρ cx x Q' :=
  Traced.mono hx fun _ _ ends => ends.mono h

theorem map {g : α → β} (hx : Tells ρ cx x P) (h : ∀ a, P a → Q (g a)) : Tells ρ cx (g <$> x) Q := by
  rw [map_eq_pure_bind]
  exact hx.bind fun a hP => pure (h a hP)

/-- Something that only the bridge's own side sees, and what follows. -/
theorem after {y : StateM (World σ) α} (same : ∀ w, (y w).2.guest = w.guest)
    (hf : ∀ a, Tells ρ cx (f a) Q) : Tells ρ cx (always y >>= f) Q :=
  Traced.afterwards same hf

/-- A handle is looked at: it belongs to the session, or all is over. -/
theorem handle {h : Handle} {f : Ref → Boundary σ β}
    (hf : h.session = cx.session → Tells ρ cx (f h.object) Q) :
    Tells ρ cx (h.bind cx >>= f) Q := by
  unfold Handle.bind
  split
  · rename_i own
    exact hf own
  · exact panic

/-- Something that only the bridge's own side sees. -/
theorem quiet {y : StateM (World σ) α} (same : ∀ w, (y w).2.guest = w.guest) (h : ∀ a, P a) :
    Tells ρ cx (always y : Boundary σ α) P :=
  Traced.map (P := fun tr _ => tr = []) (Traced.quiet same fun _ => rfl) fun _ a none =>
    none ▸ .done (h a)

/-- A new handle. -/
theorem acquire {r : Ref} {P : Handle → Prop} (h : ∀ g, P g) :
    Tells ρ cx (always (Bridge.acquire cx r) : Boundary σ Handle) P :=
  quiet (fun _ => rfl) h

/-- A request in an operation. -/
theorem perform {site : Site} {r : Request α} (adm : ∀ a, ρ.Admits site ⟨r, a⟩) (h : ∀ a, P a) :
    Tells (σ := σ) ρ cx (Bridge.perform cx site r) P := by
  have asks : Crosses (σ := σ) (fun q => ∃ a, q = ⟨r, a⟩) (Bridge.request r) P :=
    .request r (fun a => ⟨a, rfl⟩) h
  exact asks.orError fun _ ⟨a, hq⟩ => hq ▸ adm a

/-- A request in an operation whose answer is looked at before the operation goes on. -/
theorem checked {site : Site} {r : Request α} (does : ∀ q, ρ.Does ⟨some site, q⟩)
    (strict : ∀ x k, ¬ ρ.forgives ⟨some site, r, .error x⟩ k)
    (ok : ∀ a, Traced (f a).run fun tr b => Ends ρ cx Q (⟨r, .ok a⟩ :: tr) b) :
    Tells ρ cx (Bridge.perform cx site r >>= f) Q :=
  traced_performThen ok fun x _ _ translates =>
    Ends.failed ⟨some site, r, .error x⟩ (does _) (.raised (strict x) translates)

end Tells

end GuestBridge.Bridge
