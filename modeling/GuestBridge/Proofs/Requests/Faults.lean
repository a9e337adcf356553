import GuestBridge.Proofs.Handles.Stay
import GuestBridge.Proofs.Requests.Trace

/-!
# Exceptions and the Errors They Become

An exception becomes an error by where it was raised and by what the guest says of its class.
`Translates` lists the ways, with the questions that are asked; `Refusal` lists what the bridge
refuses by itself, with the answer that made it do so.

## Main statements

* `traced_failure` — what an exception becomes.
* `Translates.kind` — which of the five kinds that is.
-/

namespace GuestBridge.Bridge

open Guest (Ref Raised ErrorKind)

/-- A handle of the session on an object, as it is made. -/
def Context.handle (cx : Context) (r : Ref) : Handle := ⟨r, cx.session, none⟩

/-- What is made of an answer; after an exception that is `otherwise`. -/
def answered {α β : Type} (f : α → β) (otherwise : β) : Except Raised α → β
  | .ok a => f a
  | .error _ => otherwise

theorem answered_no {a : Except Raised Bool} (no : a ≠ .ok true) : answered id false a = false := by
  rcases a with e | _ | _
  · rfl
  · rfl
  · exact absurd rfl no

/-- The question whether an exception belongs to a class, with its answer. -/
def test (x : Raised) (k : ErrorKind) (a : Except Raised Bool) : Asked :=
  ⟨.belongs x.value (.error k), a⟩

/-! ### Handles of other sessions -/

/-- What is said where a handle of another session is used. -/
def strangerMessage : String := "handle used with a context of a different session"

section

variable {σ ε α : Type} {cx : Context} {h : Handle} {f : Ref → ExceptT (Stop ε) (StateM (World σ)) α}

theorem Handle.bind_own (own : h.session = cx.session) : h.bind cx >>= f = f h.object := by
  rw [Handle.bind, if_pos own]
  rfl

theorem Handle.bind_stranger (other : h.session ≠ cx.session) :
    h.bind cx >>= f = panicWith strangerMessage := by
  rw [Handle.bind, if_neg other]
  rfl

end

/-! ### What is kept of an exception -/

/-- What is asked about an exception, and what is kept of it as text. -/
inductive Diagnosed (x : Raised) : List Asked → Diagnostic → Prop
  | plain (bare : x.trace = []) (name : Except Raised String) (message : Except Raised Text) :
      Diagnosed x [⟨.typeName x.value, name⟩, ⟨.str x.value, message⟩]
        ⟨answered id "BaseException" name, answered Text.lossy "" message, none⟩
  | traced (passed : x.trace ≠ []) (name : Except Raised String) (message text : Except Raised Text) :
      Diagnosed x [⟨.typeName x.value, name⟩, ⟨.str x.value, message⟩, ⟨.tracebackText x.trace, text⟩]
        ⟨answered id "BaseException" name, answered Text.lossy "" message,
          answered Text.toString? none text⟩

/-- What is asked for the traceback of an exception, and the handle on it. -/
inductive Tracebacks (cx : Context) (x : Raised) : List Asked → Option Handle → Prop
  | bare (bare : x.trace = []) : Tracebacks cx x [] none
  | made (passed : x.trace ≠ []) (t : Except Raised Ref) :
      Tracebacks cx x [⟨.newTraceback x.trace, t⟩] (answered (some ∘ cx.handle) none t)

/-! ### What an exception becomes -/

/-- The tests by which an exception is found to have no more specific meaning where it was raised. -/
inductive Unspecific (x : Raised) : Site → List Asked → Prop
  | importing {module : String} {a : Except Raised Bool} (no : a ≠ .ok true) :
      Unspecific x (.importing module) [test x .importError a]
  | subscript {container key : Ref} {a : Except Raised Bool} (no : a ≠ .ok true) :
      Unspecific x (.subscript container key) [test x .lookupError a]
  | iterate {target : Ref} {a : Except Raised Bool} (no : a ≠ .ok true) :
      Unspecific x (.iterate target) [test x .typeError a]
  | member : Unspecific x .member []
  | call : Unspecific x .call []
  | convert : Unspecific x .convert []
  | execute : Unspecific x .execute []
  | advance : Unspecific x .advance []
  | length : Unspecific x .length []

/-- What is asked about an exception that was raised at a site, and the error that it becomes. -/
inductive Translates (cx : Context) : Site → Raised → List Asked → Error → Prop
  | compile {x : Raised} {tr : List Asked} {d : Diagnostic} (diagnosed : Diagnosed x tr d) :
      Translates cx .compile x tr (.runError (cx.handle x.value) d)
  | module {x : Raised} {tr : List Asked} {d : Diagnostic} (name : String)
      (diagnosed : Diagnosed x tr d) :
      Translates cx (.importing name) x (tr ++ [test x .importError (.ok true)])
        (.invalidModule name d)
  | entry {x : Raised} {tr : List Asked} {d : Diagnostic} (container key : Ref)
      (text : Except Raised Text) (diagnosed : Diagnosed x tr d) :
      Translates cx (.subscript container key) x
        (tr ++ [test x .lookupError (.ok true), ⟨.repr key, text⟩])
        (.indexError (cx.handle container) (answered Text.lossy "<unrepresentable>" text) d)
  | iteration {x : Raised} {tr : List Asked} {d : Diagnostic} (target : Ref)
      (diagnosed : Diagnosed x tr d) :
      Translates cx (.iterate target) x (tr ++ [test x .typeError (.ok true)])
        (.invalidCall (cx.handle target) d.message)
  | foreign {site : Site} {x : Raised} {tr tests made : List Asked} {d : Diagnostic}
      {t : Option Handle} (diagnosed : Diagnosed x tr d) (unspecific : Unspecific x site tests)
      (tracebacks : Tracebacks cx x made t) :
      Translates cx site x (tr ++ tests ++ made) (.foreignException (cx.handle x.value) t d)

/-- What the bridge refuses by itself, after an answer: the questions that it asks then, and the
error. -/
inductive Refusal (cx : Context) : Asked → List Asked → Error → Prop
  | notCallable (callee : Ref) {a : Except Raised Bool} (no : a ≠ .ok true)
      (name : Except Raised String) :
      Refusal cx ⟨.isCallable callee, a⟩ [⟨.typeName callee, name⟩]
        (.invalidCall { cx.handle callee with typeTag := some (answered id "<unknown>" name) }
          ("'" ++ answered id "<unknown>" name ++ "' object is not callable"))
  | missing (container key : Ref) (text : Except Raised Text) :
      Refusal cx ⟨.contains container key, .ok false⟩ [⟨.repr key, text⟩]
        (.indexError (cx.handle container) (answered Text.lossy "<unrepresentable>" text)
          ⟨"KeyError", answered Text.lossy "<unrepresentable>" text, none⟩)
  | outOfRange (container : Ref) (index : Int) (length : Nat) :
      Refusal cx ⟨.length container, .ok length⟩ []
        (.indexError (cx.handle container) (toString index) ⟨"IndexError",
          "index " ++ toString index ++ " out of range for length " ++ toString length, none⟩)

/-! ### Computations -/

variable {σ : Type} [GuestState σ] {cx : Context}

namespace Traced

variable {α β γ : Type}

/-- A request for what is made of its answer, and what follows. -/
theorem askThen (r : Request α) (f : α → β) (otherwise : β) {g : β → StateM (World σ) γ}
    {Q : List Asked → γ → Prop}
    (h : ∀ a, Traced (g (answered f otherwise a)) fun tr c => Q (⟨r, a⟩ :: tr) c) :
    Traced (Bridge.askOr r f otherwise >>= g) Q := by
  intro w
  have single := Runs.single w r
  have value : Bridge.askOr r f otherwise w = (answered f otherwise (w.ask r).1, (w.ask r).2) := by
    change (match (w.ask r).1 with | .ok a => _ | .error _ => _ : StateM (World σ) β) _ = _
    cases (w.ask r).1 <;> rfl
  obtain ⟨tr, run, result⟩ := h (w.ask r).1 (w.ask r).2
  have whole : (Bridge.askOr r f otherwise >>= g) w =
      g (answered f otherwise (w.ask r).1) (w.ask r).2 := by
    rw [bind_apply, value]
  rw [whole]
  exact ⟨_, single.append run, result⟩

/-- A handle is made, and what follows. -/
theorem acquireThen (r : Ref) {g : Handle → StateM (World σ) γ} {Q : List Asked → γ → Prop}
    (h : Traced (g (cx.handle r)) Q) : Traced (acquire cx r >>= g) Q := by
  intro w
  obtain ⟨tr, run, result⟩ := h (w.acquire cx.session r).2
  have same : (w.acquire cx.session r).2.guest = w.guest := rfl
  exact ⟨tr, run.after same, result⟩

variable {ε : Type} {Q : List Asked → Except (Stop ε) γ → Prop}

/-- A request for what is made of its answer, and what follows and can stop early. -/
theorem askFirst (r : Request α) (f : α → β) (otherwise : β)
    {g : β → ExceptT (Stop ε) (StateM (World σ)) γ}
    (h : ∀ a, Traced (g (answered f otherwise a)).run fun tr c => Q (⟨r, a⟩ :: tr) c) :
    Traced (always (Bridge.askOr r f otherwise) >>= g).run Q :=
  askThen (g := fun b => (g b).run) r f otherwise h

/-- A handle is made, and what follows and can stop early. -/
theorem acquireFirst (r : Ref) {g : Handle → ExceptT (Stop ε) (StateM (World σ)) γ}
    (h : Traced (g (cx.handle r)).run Q) : Traced (always (acquire cx r) >>= g).run Q :=
  acquireThen (g := fun b => (g b).run) r h

end Traced

theorem traced_diagnose (x : Raised) : Traced (σ := σ) (diagnose x) (Diagnosed x) := by
  refine Traced.askThen _ _ _ fun name => Traced.askThen _ _ _ fun message => ?_
  unfold tracebackOf
  cases passed : x.trace with
  | nil => exact .pure (.plain passed name message)
  | cons e es =>
      rw [← passed, if_neg (by simp [passed])]
      exact Traced.askThen _ _ _ fun text => .pure (.traced (by simp [passed]) name message text)

theorem traced_acquireTraceback (x : Raised) :
    Traced (σ := σ) (acquireTraceback cx x) (Tracebacks cx x) := by
  unfold acquireTraceback
  cases passed : x.trace with
  | nil => exact .pure (.bare passed)
  | cons e es =>
      rw [← passed, if_neg (by simp [passed])]
      refine (Traced.ask (.newTraceback x.trace)
        (Q := fun tr a => tr = [⟨.newTraceback x.trace, a⟩]) fun _ => rfl).bind fun tr a told => ?_
      subst told
      have made : Tracebacks cx x _ _ := .made (by simp [passed]) a
      cases a with
      | ok t =>
          change Traced (acquire cx t >>= fun h => pure (some h)) _
          exact Traced.acquireThen t (.pure made)
      | error e => exact .pure made

/-- An exception that has no more specific meaning. -/
theorem traced_foreignError {site : Site} {x : Raised} {tr tests : List Asked} {d : Diagnostic}
    (diagnosed : Diagnosed x tr d) (unspecific : Unspecific x site tests) :
    Traced (σ := σ) (foreignError cx x d)
      fun tr' e => Translates cx site x (tr ++ tests ++ tr') e := by
  refine Traced.acquireThen x.value ((traced_acquireTraceback x).bind fun made t tracebacks => ?_)
  exact .pure ((List.append_nil made).symm ▸ .foreign diagnosed unspecific tracebacks)

/-- An exception that has a more specific meaning if it belongs to a class. -/
theorem traced_tested {site : Site} {x : Raised} {k : ErrorKind} {tr : List Asked}
    {d : Diagnostic} {specific : StateM (World σ) Error} (diagnosed : Diagnosed x tr d)
    (yes : Traced specific fun tr' e => Translates cx site x (tr ++ test x k (.ok true) :: tr') e)
    (no : ∀ a, a ≠ .ok true → Unspecific x site [test x k a]) :
    Traced (σ := σ) (isRaised x k >>= fun found => if found then specific else foreignError cx x d)
      fun tr' e => Translates cx site x (tr ++ tr') e := by
  refine Traced.askThen _ _ _ fun a => ?_
  by_cases found : a = .ok true
  · subst found
    exact yes
  · rw [answered_no found]
    refine (traced_foreignError diagnosed (no a found)).mono fun tr' e h => ?_
    rwa [List.append_assoc] at h

theorem traced_classify (site : Site) {x : Raised} {tr : List Asked} {d : Diagnostic}
    (diagnosed : Diagnosed x tr d) :
    Traced (σ := σ) (classify cx site x d) fun tr' e => Translates cx site x (tr ++ tr') e := by
  have plain {site : Site} (unspecific : Unspecific x site []) :
      Traced (σ := σ) (foreignError cx x d) fun tr' e => Translates cx site x (tr ++ tr') e := by
    refine (traced_foreignError diagnosed unspecific).mono fun tr' e h => ?_
    rwa [List.append_nil] at h
  cases site with
  | compile =>
      exact Traced.acquireThen x.value (.pure ((List.append_nil tr).symm ▸ .compile diagnosed))
  | importing name => exact traced_tested diagnosed (.pure (.module name diagnosed)) fun _ => .importing
  | subscript container key =>
      refine traced_tested diagnosed (Traced.acquireThen container ?_) fun _ => .subscript
      exact Traced.askThen _ _ _ fun text => .pure (.entry container key text diagnosed)
  | iterate target =>
      refine traced_tested diagnosed (Traced.acquireThen target ?_) fun _ => .iterate
      exact .pure (.iteration target diagnosed)
  | member => exact plain .member
  | call => exact plain .call
  | convert => exact plain .convert
  | execute => exact plain .execute
  | advance => exact plain .advance
  | length => exact plain .length

/-- **What an exception becomes**, by where it was raised. -/
theorem traced_failure (site : Site) (x : Raised) :
    Traced (σ := σ) (failure cx site x) (Translates cx site x) := by
  refine (traced_diagnose x).bind fun tr d diagnosed => ?_
  refine (traced_classify site diagnosed).bind fun tr' e translates => ?_
  refine Traced.after (fun _ => rfl) fun () => .pure ?_
  rwa [List.append_nil]

/-! ### Refusals -/

section

variable {α : Type} {Q : List Asked → Except (Stop Error) α → Prop}

theorem traced_notCallable (callee : Ref) {a : Except Raised Bool} (no : a ≠ .ok true)
    (h : ∀ tr e, Refusal cx ⟨.isCallable callee, a⟩ tr e → Q tr (.error (.failed e))) :
    Traced (σ := σ) (notCallable cx callee).run Q := by
  refine Traced.acquireFirst callee (Traced.askFirst (.typeName callee) id "<unknown>" fun name => ?_)
  exact Traced.afterwards (fun _ => rfl) fun () => .pure (h _ _ (.notCallable callee no name))

theorem traced_missingEntry (container key : Ref)
    (h : ∀ tr e, Refusal cx ⟨.contains container key, .ok false⟩ tr e →
      Q tr (.error (.failed e))) :
    Traced (σ := σ) (missingEntry cx container key).run Q := by
  refine Traced.askFirst (.repr key) Text.lossy "<unrepresentable>" fun text => ?_
  refine Traced.afterwards (fun _ => rfl) fun () => ?_
  exact Traced.acquireFirst container (.pure (h _ _ (.missing container key text)))

theorem traced_indexOutOfRange (container : Ref) (index : Int) (length : Nat)
    (h : ∀ tr e, Refusal cx ⟨.length container, .ok length⟩ tr e → Q tr (.error (.failed e))) :
    Traced (σ := σ) (indexOutOfRange cx container index length).run Q := by
  refine Traced.afterwards (fun _ => rfl) fun () => ?_
  exact Traced.acquireFirst container (.pure (h _ _ (.outOfRange container index length)))

end

end GuestBridge.Bridge
