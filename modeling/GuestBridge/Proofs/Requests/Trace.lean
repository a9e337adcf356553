import GuestBridge.Bridge.Startup

/-!
# What the Guest is Asked

A computation of the bridge reaches the guest by requests alone. `Runs w tr w'` says that the world
goes from `w` to `w'` while the guest is asked what the list `tr` says, in this order and with these
answers, and nothing else; what the bridge does on its own side in between is left open.

`Traced x Q` says of a computation that each of its runs asks the guest a list of requests and comes
to a result that satisfy `Q`. The postcondition is put together along the steps of the computation
(`Traced.bind`, and `Traced.bindExcept` where they can stop early), so what an operation asks is
read off its definition.

## Main statements

* `Runs.append`, `Runs.split` — traces are put together as runs are, and taken apart.
* `Runs.guest_of_nil` — a guest that is not asked stays as it is.
-/

namespace GuestBridge.Bridge

open Guest (Ref Raised)

/-- A request that was made, with its answer. -/
structure Asked where
  {α : Type}
  request : Request α
  answer : Except Raised α

/-- The exception that a request raised. -/
def Asked.raised (a : Asked) : Option Raised :=
  match a.answer with
  | .ok _ => none
  | .error e => some e

variable {σ : Type} [GuestState σ]

/-- The world goes from one to another while the guest is asked what the list says, in order. -/
inductive Runs : World σ → List Asked → World σ → Prop
  | stay {w w' : World σ} (same : w'.guest = w.guest) : Runs w [] w'
  | ask {α : Type} {w w₁ w' : World σ} {tr : List Asked} (r : Request α) (same : w₁.guest = w.guest)
      (rest : Runs (w₁.ask r).2 tr w') : Runs w (⟨r, (w₁.ask r).1⟩ :: tr) w'

namespace Runs

variable {w w₁ w' : World σ} {tr tr' : List Asked}

theorem refl (w : World σ) : Runs w [] w := .stay rfl

/-- A request of its own. -/
theorem single {α : Type} (w : World σ) (r : Request α) : Runs w [⟨r, (w.ask r).1⟩] (w.ask r).2 :=
  .ask r rfl (.refl _)

/-- What comes before does not touch the guest. -/
theorem after (same : w₁.guest = w.guest) (rest : Runs w₁ tr w') : Runs w tr w' := by
  cases rest with
  | stay kept => exact .stay (kept.trans same)
  | ask r kept rest => exact .ask r (kept.trans same) rest

theorem append (first : Runs w tr w₁) (second : Runs w₁ tr' w') : Runs w (tr ++ tr') w' := by
  induction first with
  | stay same => exact second.after same
  | ask r same rest ih => exact .ask r same (ih second)

/-- A run that asks for two lists of requests comes by a world between them. -/
theorem split (run : Runs w (tr ++ tr') w') : ∃ v, Runs w tr v ∧ Runs v tr' w' := by
  induction tr generalizing w with
  | nil => exact ⟨w, .refl w, run⟩
  | cons q tr ih =>
      cases run with
      | ask r same rest =>
          obtain ⟨v, first, second⟩ := ih rest
          exact ⟨v, .ask r same first, second⟩

/-- A run that asks for something comes by the world after its first request. -/
theorem uncons {q : Asked} (run : Runs w (q :: tr) w') : ∃ v, Runs w [q] v ∧ Runs v tr w' :=
  split (List.singleton_append ▸ run)

/-- A guest that is not asked stays as it is. -/
theorem guest_of_nil (run : Runs w [] w') : w'.guest = w.guest := by
  cases run with
  | stay same => exact same

end Runs

/-! ### Computations -/

/-- Each run of a computation asks the guest a list of requests and comes to a result that satisfy
`Q`. -/
def Traced {α : Type} (x : StateM (World σ) α) (Q : List Asked → α → Prop) : Prop :=
  ∀ w, ∃ tr, Runs w tr (x w).2 ∧ Q tr (x w).1

namespace Traced

variable {α β : Type} {x : StateM (World σ) α} {f : α → StateM (World σ) β}
  {P Q : List Asked → α → Prop} {Q' : List Asked → β → Prop}

theorem mono (hx : Traced x P) (h : ∀ tr a, P tr a → Q tr a) : Traced x Q := fun w =>
  let ⟨tr, run, result⟩ := hx w
  ⟨tr, run, h tr _ result⟩

theorem pure {a : α} (h : Q [] a) : Traced (Pure.pure a : StateM (World σ) α) Q :=
  fun w => ⟨[], .refl w, h⟩

/-- What only the bridge's own side sees. -/
theorem quiet (same : ∀ w, (x w).2.guest = w.guest) (h : ∀ a, Q [] a) : Traced x Q :=
  fun w => ⟨[], .stay (same w), h _⟩

theorem bind (hx : Traced x P) (hf : ∀ tr a, P tr a → Traced (f a) fun tr' b => Q' (tr ++ tr') b) :
    Traced (x >>= f) Q' := by
  intro w
  obtain ⟨tr, first, result⟩ := hx w
  obtain ⟨tr', second, result'⟩ := hf tr _ result (x w).2
  exact ⟨tr ++ tr', first.append second, result'⟩

theorem map {g : α → β} (hx : Traced x P) (h : ∀ tr a, P tr a → Q' tr (g a)) : Traced (g <$> x) Q' :=
  hx.bind fun tr a hP => .pure ((List.append_nil tr).symm ▸ h tr a hP)

/-- First something that only the bridge's own side sees. -/
theorem after (same : ∀ w, (x w).2.guest = w.guest) (hf : ∀ a, Traced (f a) Q') :
    Traced (x >>= f) Q' :=
  bind (P := fun tr _ => tr = []) (quiet same fun _ => rfl) fun _ a none => none ▸ hf a

theorem ask {α : Type} (r : Request α) {Q : List Asked → Except Raised α → Prop}
    (h : ∀ a, Q [⟨r, a⟩] a) : Traced (σ := σ) (ask? r) Q :=
  fun w => ⟨_, .single w r, h _⟩

/-- A request for what is made of its answer: only what it asks is told. -/
theorem askOr {α β : Type} (r : Request α) (f : α → β) (otherwise : β)
    {Q : List Asked → β → Prop} (h : ∀ a b, Q [⟨r, a⟩] b) :
    Traced (σ := σ) (Bridge.askOr r f otherwise) Q := by
  refine (ask r (Q := fun tr a => tr = [⟨r, a⟩]) fun _ => rfl).bind fun tr a told => ?_
  subst told
  cases a <;> exact pure (h _ _)

end Traced

/-! ### Computations that can stop early -/

section

variable {ε α β : Type} {x : ExceptT (Stop ε) (StateM (World σ)) α}
  {f : α → ExceptT (Stop ε) (StateM (World σ)) β}
  {P : List Asked → Except (Stop ε) α → Prop} {Q : List Asked → Except (Stop ε) β → Prop}

/-- A first part and what follows it; where the first part stops early all is over. -/
theorem Traced.bindExcept (hx : Traced x.run P)
    (hf : ∀ tr a, P tr (.ok a) → Traced (f a).run fun tr' b => Q (tr ++ tr') b)
    (he : ∀ tr e, P tr (.error e) → Q tr (.error e)) : Traced (x >>= f).run Q := by
  rw [ExceptT.run_bind]
  refine hx.bind fun tr r result => ?_
  cases r with
  | ok a => exact hf tr a result
  | error e => exact .pure ((List.append_nil tr).symm ▸ he tr e result)

/-- First something that cannot stop early and that the guest does not see. -/
theorem Traced.afterwards {γ : Type} {y : StateM (World σ) γ}
    {f : γ → ExceptT (Stop ε) (StateM (World σ)) β} (same : ∀ w, (y w).2.guest = w.guest)
    (hf : ∀ a, Traced (f a).run Q) : Traced (always y >>= f).run Q := by
  intro w
  obtain ⟨tr, run, result⟩ := hf (y w).1 (y w).2
  exact ⟨tr, run.after (same w), result⟩

end

/-- A request that fails the computation if it raises. -/
theorem traced_request {α : Type} (r : Request α) {Q : List Asked → Except (Stop Raised) α → Prop}
    (ok : ∀ a, Q [⟨r, .ok a⟩] (.ok a)) (failed : ∀ e, Q [⟨r, .error e⟩] (.error (.failed e))) :
    Traced (σ := σ) (request r).run Q := by
  intro w
  have single := Runs.single w r
  obtain ⟨answer, w', asked⟩ : ∃ answer w', w.ask r = (answer, w') := ⟨_, _, rfl⟩
  cases answer with
  | ok a =>
      have result : (request r).run w = (.ok a, w') := by simp [request, ExceptT.run, asked]
      rw [asked] at single
      rw [result]
      exact ⟨_, single, ok a⟩
  | error e =>
      have result : (request r).run w = (.error (.failed e), w') := by
        simp [request, ExceptT.run, asked]
      rw [asked] at single
      rw [result]
      exact ⟨_, single, failed e⟩

/-- A request, and what follows it if it does not raise. -/
theorem traced_requestThen {α β : Type} (r : Request α) {f : α → Crossing σ β}
    {Q : List Asked → Except (Stop Raised) β → Prop}
    (ok : ∀ a, Traced (f a).run fun tr b => Q (⟨r, .ok a⟩ :: tr) b)
    (failed : ∀ e, Q [⟨r, .error e⟩] (.error (.failed e))) :
    Traced (request r >>= f).run Q := by
  refine (traced_request r (Q := fun tr result => match result with
    | .ok a => tr = [⟨r, .ok a⟩]
    | .error s => Q tr (.error s)) (fun a => rfl) failed).bindExcept (fun tr a told => ?_)
    fun tr e told => told
  cases told
  exact ok a

end GuestBridge.Bridge
