import GuestBridge.Proofs.Handles.Moves

/-!
# The Handles of Failures

How an exception becomes an error, and what the bridge refuses by itself: each leaves exactly the
handles of the error, `Error.handles`. A crossing leaves none.
-/

namespace GuestBridge.Bridge
open Guest (Ref Raised ErrorKind)
variable {σ : Type} [GuestState σ] {cx : Context}

/-! ### Running crossings -/

theorem run_request {α : Type} (r : Request α) (w : World σ) :
    (request r).run w = ((w.ask r).1.mapError Stop.failed, (w.ask r).2) := by
  change request r w = _
  rw [request]
  rcases w.ask r with ⟨_ | _, _⟩ <;> rfl

theorem run_request_of_ok {α : Type} {r : Request α} {w w₁ : World σ} {a : α} (asked : w.ask r = (.ok a, w₁)) :
    (request r).run w = (.ok a, w₁) := by
  rw [run_request, asked]
  rfl

/-- What does not stop as a crossing does not stop as an operation. -/
theorem run_orError_of_ok {α : Type} {x : Crossing σ α} {w w₁ : World σ} {a : α}
    (given : x.run w = (.ok a, w₁)) (cx : Context) (site : Site) :
    (x.orError cx site).run w = (.ok a, w₁) := by
  change Crossing.orError x cx site w = _
  rw [Crossing.orError]
  change x w = _ at given
  rw [given]

theorem run_perform_of_ok {α : Type} {r : Request α} {w w₁ : World σ} {a : α} (asked : w.ask r = (.ok a, w₁))
    (site : Site) : (perform cx site r).run w = (.ok a, w₁) :=
  run_orError_of_ok (run_request_of_ok asked) cx site

/-- What raises an exception as a crossing fails with its error as an operation. -/
theorem run_orError_of_failed {α : Type} {x : Crossing σ α} {w w₁ : World σ} {e : Raised}
    (raised : x.run w = (.error (.failed e), w₁)) (cx : Context) (site : Site) :
    (x.orError cx site).run w =
      (.error (.failed (failure cx site e w₁).1), (failure cx site e w₁).2) := by
  change Crossing.orError x cx site w = _
  rw [Crossing.orError]
  change x w = _ at raised
  rw [raised]
  rfl

/-! ### Exceptions as errors -/

theorem turns_tracebackOf (e : Raised) :
    Turns (σ := σ) cx [] (tracebackOf e) fun _ => [] := by
  unfold tracebackOf
  split
  · exact Turns.pure _ rfl
  · exact Turns.askOr _ _ _ (by rfl)

theorem turns_diagnose (e : Raised) : Turns (σ := σ) cx [] (diagnose e) fun _ => [] := by
  refine (Turns.askOr _ _ _ (by rfl)).bind' fun typeName => ?_
  refine (Turns.askOr _ _ _ (by rfl)).bind' fun message => ?_
  exact (turns_tracebackOf e).bind' fun traceback => Turns.pure _ rfl

theorem turns_acquireTraceback (e : Raised) :
    Turns (σ := σ) cx [] (acquireTraceback cx e) Option.toList := by
  unfold acquireTraceback
  split
  · exact Turns.pure _ rfl
  · refine (Turns.ask _ (fun _ => []) (fun _ => rfl) (by rfl)).bind' fun r => ?_
    cases r with
    | ok t => exact (Turns.acquire t).map fun _ => rfl
    | error _ => exact Turns.pure _ rfl

theorem turns_foreignError (e : Raised) (d : Diagnostic) :
    Turns (σ := σ) cx [] (foreignError cx e d) Error.handles := by
  refine (Turns.acquire e.value).bind fun exception => ?_
  refine ((turns_acquireTraceback e).frame [exception]).bind fun traceback => ?_
  exact Turns.pure _ rfl

theorem turns_classify (site : Site) (e : Raised) (d : Diagnostic) :
    Turns (σ := σ) cx [] (classify cx site e d) Error.handles := by
  unfold classify
  cases site with
  | compile => exact (Turns.acquire e.value).bind fun failure => Turns.pure _ rfl
  | importing module =>
      refine (Turns.askOr _ _ _ (by rfl)).bind' fun isImport => ?_
      cases isImport with
      | true => exact Turns.pure _ rfl
      | false => exact turns_foreignError e d
  | subscript container key =>
      refine (Turns.askOr _ _ _ (by rfl)).bind' fun isLookup => ?_
      cases isLookup with
      | true =>
          refine (Turns.acquire container).bind fun c => ?_
          exact ((Turns.askOr _ _ _ (by rfl)).frame [c]).bind fun text => Turns.pure _ rfl
      | false => exact turns_foreignError e d
  | iterate target =>
      refine (Turns.askOr _ _ _ (by rfl)).bind' fun isType => ?_
      cases isType with
      | true => exact (Turns.acquire target).bind fun callee => Turns.pure _ rfl
      | false => exact turns_foreignError e d
  | member | call | convert | execute | advance | length => exact turns_foreignError e d

/-- **An exception leaves the handles of the error that it becomes**, and no other. -/
theorem turns_failure (site : Site) (e : Raised) :
    Turns (σ := σ) cx [] (failure cx site e) Error.handles := by
  refine (turns_diagnose e).bind' fun d => ?_
  refine (turns_classify site e d).bind fun error => ?_
  have noted : Turns (σ := σ) cx [] (note .debug "translated foreign failure"
      [("kind", error.kindName)]) fun _ => [] :=
    Turns.note _ _ _ rfl
  exact (noted.beside error.handles).bind fun _ => Turns.pure _ rfl

theorem makes_failWith {α : Type} {made : α → List Handle} (site : Site) (e : Raised) :
    Makes (σ := σ) cx (failWith cx site e) made :=
  Makes.hold (Makes.always (turns_failure site e)) fun error _ => Turns.failed error rfl

/-- A crossing in an operation: an exception becomes an error, with the error's handles. -/
theorem Quiet.orError {α : Type} {x : Crossing σ α} (hx : Quiet cx x) (site : Site) :
    Quiet cx (x.orError cx site) := by
  intro w hs
  have m := hx w hs
  change Moves cx w _ (Crossing.orError x cx site w).2
    (leaves _ _ (Crossing.orError x cx site w).1 ++ hs)
  rw [Crossing.orError]
  rcases hr : x.run w with ⟨r, w'⟩
  rw [show x w = (r, w') from hr]
  rw [hr] at m
  match r with
  | .ok a => exact m
  | .error (.panicked message) => exact m
  | .error (.failed e) =>
      have failed : Makes (σ := σ) cx (failWith cx site e) fun _ : α => [] := makes_failWith site e
      exact m.trans (failed w' hs)

theorem quiet_request {α : Type} (r : Request α) (plain : r.sinkOf? = none) :
    Quiet (σ := σ) cx (request r) := by
  intro w hs
  have m : Moves cx w hs (w.ask r).2 hs := Moves.ask w hs r plain
  change Moves cx w hs (request r w).2 (leaves _ _ (request r w).1 ++ hs)
  rw [request]
  rcases hr : w.ask r with ⟨a, w'⟩
  rw [hr] at m
  cases a <;> exact m

theorem quiet_perform {α : Type} (site : Site) (r : Request α)
    (plain : r.sinkOf? = none) : Quiet (σ := σ) cx (perform cx site r) :=
  (quiet_request r plain).orError site

/-! ### Handles in operations -/

section

variable {ε : Type} [HasHandles ε]

theorem quiet_bind (h : Handle) :
    Quiet cx (h.bind cx : ExceptT (Stop ε) (StateM (World σ)) Ref) := by
  unfold Handle.bind
  split
  · exact Makes.pure _ rfl
  · exact Makes.panicked _

section

variable {α : Type} {used : List Handle} {made : α → List Handle} {h : Handle}
  {f : Ref → ExceptT (Stop ε) (StateM (World σ)) α}

omit [HasHandles ε] in
/-- A handle of the session is never refused. -/
theorem Turns.bindOwn {into : Except (Stop ε) α → List Handle} (own : h.session = cx.session)
    (hf : Turns cx used (f h.object).run into) : Turns cx used (h.bind cx >>= f).run into := by
  unfold Handle.bind
  rw [if_pos own]
  exact hf

/-- Handles that are held while another one is looked at stay where they are when it is refused. -/
theorem Turns.bindHandle
    (hf : h.session = cx.session → Turns cx used (f h.object).run (leaves made used)) :
    Turns cx used (h.bind cx >>= f).run (leaves made used) := by
  by_cases own : h.session = cx.session
  · exact Turns.bindOwn own (hf own)
  · unfold Handle.bind
    rw [if_neg own]
    exact Turns.panicked _

end

/-- A second handle to an object is one handle more. -/
theorem makes_clone (h : Handle) :
    Makes cx (h.clone cx : ExceptT (Stop ε) (StateM (World σ)) Handle) fun g => [g] := by
  refine (quiet_bind h).bind fun r => ?_
  refine Makes.hold (Makes.always (Turns.acquire r)) fun g _ => ?_
  intro w hs
  exact Moves.tag w g hs h.typeTag

end

/-! ### Refusals of the bridge itself -/

theorem makes_notCallable {α : Type} {made : α → List Handle} (callee : Ref) :
    Makes (σ := σ) cx (notCallable cx callee) made := by
  refine Makes.hold (Makes.always (Turns.acquire callee)) fun h _ => ?_
  refine Turns.meanwhile (Turns.askOr _ _ _ (by rfl)) fun name => ?_
  refine Turns.meanwhile (Turns.note .debug "rejected call before crossing"
    [("kind", "invalid_call")] rfl) fun _ => ?_
  intro w hs
  exact Moves.tag w h hs (some name)

theorem makes_missingEntry {α : Type} {made : α → List Handle} (container key : Ref) :
    Makes (σ := σ) cx (missingEntry cx container key) made := by
  refine Turns.meanwhile (Turns.askOr _ _ _ (by rfl)) fun text => ?_
  refine Turns.meanwhile (Turns.note .debug "mapping key absent"
    [("kind", "index_error"), ("key", text)] rfl) fun _ => ?_
  exact Makes.hold (Makes.always (Turns.acquire container)) fun c _ => Turns.failed _ rfl

theorem makes_indexOutOfRange {α : Type} {made : α → List Handle} (container : Ref) (index : Int)
    (length : Nat) : Makes (σ := σ) cx (indexOutOfRange cx container index length) made := by
  refine Turns.meanwhile (Turns.note .debug "sequence index out of range"
    [("kind", "index_error"), ("index", toString index), ("len", toString length)] rfl) fun _ => ?_
  exact Makes.hold (Makes.always (Turns.acquire container)) fun c _ => Turns.failed _ rfl

end GuestBridge.Bridge
