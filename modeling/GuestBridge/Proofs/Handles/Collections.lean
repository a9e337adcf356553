import GuestBridge.Proofs.Handles.Access
import GuestBridge.Proofs.Handles.Stay

/-!
# The Handles of Views, Mappings and Sequences

A view holds the handle on its iterator. Asking it for an element turns that handle into the same
handle and one on the element, or into nothing once the iterator has ended. What is listed of a
mapping goes through a view; the view, the listing object and, after an error, the elements so far
are given back inside the operation.
-/

namespace GuestBridge.Bridge

open Guest (Ref Raised)

variable {σ : Type} [GuestState σ] {cx : Context}

/-! ### Views -/

/-- The handles in what an iterator gave. -/
def View.Next.handles : View.Next → List Handle
  | element h => [h]
  | ended => []
  | failed e => e.handles

instance : HasHandles View := ⟨View.handles⟩

instance : HasHandles Cursor := ⟨fun c => c.view.handles⟩

theorem turns_pull (iterator : Ref) :
    Turns (σ := σ) cx [] (View.pull cx iterator) View.Next.handles := by
  have step : Quiet (σ := σ) cx (do
      let next ← request (.getAttr iterator "__next__")
      request (.call next [] [])) :=
    (quiet_request _ (by rfl)).bind fun next => quiet_request _ (by rfl)
  refine Turns.bind step fun r => ?_
  match r with
  | .ok v => exact (Turns.acquire v).bind fun h => Turns.pure _ rfl
  | .error (.failed e) =>
      refine (Turns.askOr _ _ _ (by rfl)).bind' fun isEnd => ?_
      cases isEnd with
      | true => exact Turns.pure _ rfl
      | false => exact (turns_failure .advance e).bind fun error => Turns.pure _ rfl
  | .error (.panicked _) => exact Turns.pure _ rfl

section

variable {ε : Type} [HasHandles ε]

/-- The handles of a view's next element and of the view after it. -/
def View.advanced (p : View.Next × View) : List Handle := p.1.handles ++ p.2.handles

/-- The handles of a cursor's next element and of the cursor after it. -/
def Cursor.advanced (p : View.Next × Cursor) : List Handle := p.1.handles ++ p.2.view.handles

theorem turns_step {it : Handle} (own : it.session = cx.session) (r : Ref) :
    Turns (σ := σ) cx [it] (View.step cx it r) View.advanced := by
  refine ((turns_pull r).beside [it]).bind fun n => ?_
  cases n with
  | ended => exact (Turns.release own).bind fun _ => Turns.pure _ rfl
  | element h => exact Turns.pure _ rfl
  | failed e => exact Turns.pure _ rfl

/-- **Asking a view for an element** turns its handle into that of the element and its own, into
those of an error and its own, or into none. -/
theorem turns_advance (v : View) :
    Turns cx v.handles (v.advance cx : ExceptT (Stop ε) (StateM (World σ)) _).run
      (leaves View.advanced v.handles) := by
  obtain ⟨_ | it⟩ := v
  · exact Turns.ok _ rfl
  · exact Turns.bindHandle fun own => Turns.always (turns_step own it.object)

theorem turns_next (c : Cursor) :
    Turns cx c.view.handles (c.next cx : ExceptT (Stop ε) (StateM (World σ)) _).run
      (leaves Cursor.advanced c.view.handles) := by
  unfold Cursor.next
  split
  · exact Turns.ok _ rfl
  · refine (turns_advance c.view).andThen fun (n, v) => ?_
    cases n <;> exact Turns.ok _ rfl

end

theorem makes_iterate (h : Handle) : Makes (σ := σ) cx (h.iterate cx) View.handles := by
  refine (quiet_bind h).bind fun target => ?_
  refine (quiet_perform _ _ (by rfl)).bind fun it => ?_
  exact Makes.hold (Makes.always (Turns.acquire it)) fun g _ => Turns.ok _ rfl

theorem turns_releaseAllIn {hs : List Handle} (own : ∀ h ∈ hs, h.session = cx.session) :
    Turns (σ := σ) cx hs (releaseAllIn cx hs) fun _ => [] :=
  Turns.releaseAll own

namespace View

/-- One step of a collection: another element, and `again` for the rest, or its end. -/
def collectNext (cx : Context) (again : View → List Handle → Boundary σ (List Handle)) (v : View)
    (hs : List Handle) : Boundary σ (List Handle) := do
  match ← v.advance cx with
  | (.element h, v) => again v (h :: hs)
  | (.ended, v) => collected cx v hs
  | (.failed e, v) =>
    always (releaseAllIn cx (v.handles ++ hs))
    throw (.failed e)

/-- A step of the loop goes on where `collectNext` does, and ends with the same result where that ends. -/
theorem step_cases (cx : Context) (v : View) (hs : List Handle) (w : World σ) :
    (∃ v' hs' w₁, (Gathering.going v hs).step cx w = (.going v' hs', w₁) ∧
      ∀ again, (collectNext cx again v hs).run w = (again v' hs').run w₁) ∨
    ∃ result w₁, (Gathering.going v hs).step cx w = (.finished result, w₁) ∧
      ∀ again, (collectNext cx again v hs).run w = (result, w₁) := by
  simp only [Gathering.step, collectNext, ExceptT.run_bind, bind_apply]
  generalize (v.advance cx : Boundary σ _).run w = advanced
  rcases advanced with ⟨stop | ⟨h | _ | e, v'⟩, w₁⟩
  case ok.element => exact .inl ⟨v', h :: hs, w₁, rfl, fun _ => rfl⟩
  all_goals exact .inr ⟨_, _, rfl, fun _ => rfl⟩

/-- A collection of at most so many elements. -/
def collectWithin (cx : Context) : Nat → View → List Handle → Boundary σ (List Handle)
  | 0 => collected cx
  | n + 1 => collectNext cx (collectWithin cx n)

/-- A loop that ends does so within some number of elements. -/
theorem exists_collectWithin {p q : Gathering × World σ}
    (leads : LoopsTo Gathering.isFinished (Gathering.step cx) p q) {v : View} {hs : List Handle} {w w' : World σ}
    {result : Except (Stop Error) (List Handle)} (start : p = (.going v hs, w)) (ends : q = (.finished result, w')) :
    ∃ n, (collectWithin cx n v hs).run w = (result, w') := by
  induction leads generalizing v hs w with
  | here ended =>
      subst start
      cases ends
  | next ongoing rest ih =>
      subst start
      obtain ⟨v', hs', w₁, step, next⟩ | ⟨result', w₁, step, next⟩ := step_cases cx v hs w
      · obtain ⟨n, within⟩ := ih step ends
        exact ⟨n + 1, (next _).trans within⟩
      · rw [step] at rest
        cases rest with
        | here ended =>
            cases ends
            exact ⟨1, next _⟩
        | next ongoing rest => cases ongoing

/-- Every collection is one of at most so many elements, for some number. -/
theorem collect_within (cx : Context) (v : View) (hs : List Handle) (w : World σ) :
    ∃ n, (collect cx v hs).run w = (collectWithin cx n v hs).run w := by
  change ∃ n, collect cx v hs w = _
  rw [collect]
  split
  · rename_i given
    obtain ⟨n, within⟩ := exists_collectWithin (repeatUntil_eq_some_iff.mp given) rfl rfl
    exact ⟨n, within.symm⟩
  · exact ⟨0, rfl⟩

/-- What holds where a collection ends, and of a step if it holds of the rest, holds of collections. -/
theorem collect_induct
    {P : View → List Handle → World σ → Except (Stop Error) (List Handle) × World σ → Prop}
    (ended : ∀ v hs w, P v hs w ((collected cx v hs).run w))
    (next : ∀ again : View → List Handle → Boundary σ (List Handle),
      (∀ v hs w, P v hs w ((again v hs).run w)) → ∀ v hs w, P v hs w ((collectNext cx again v hs).run w))
    (v : View) (hs : List Handle) (w : World σ) : P v hs w ((collect cx v hs).run w) := by
  have within (n : Nat) : ∀ v hs w, P v hs w ((collectWithin cx n v hs).run w) := by
    induction n with
    | zero => exact ended
    | succ n ih => exact next _ ih
  obtain ⟨n, same⟩ := collect_within cx v hs w
  exact same ▸ within n v hs w

end View

/-- Collecting what a view still has leaves the handles collected, or those of the error. The view
and the handles so far are of the session, so nothing is refused on the way. -/
theorem turns_collect (kept : List Handle) (v : View) (hs : List Handle)
    (own : ∀ h ∈ v.handles ++ hs, h.session = cx.session) :
    Turns (σ := σ) cx (v.handles ++ hs) (View.collect cx v hs).run (leaves id kept) := by
  have listed (v : View) (hs : List Handle) (own : ∀ h ∈ v.handles ++ hs, h.session = cx.session) :
      Turns (σ := σ) cx (v.handles ++ hs) (View.collected cx v hs).run (leaves id kept) := by
    have released := turns_releaseAllIn (σ := σ) fun h hh => own h (List.mem_append_left _ hh)
    refine (Turns.always (released.beside hs)).andThen fun _ => ?_
    exact fun w fs => .perm w ((List.reverse_perm hs).symm.append_right fs)
  refine fun w => View.collect_induct (P := fun v hs w r => (∀ h ∈ v.handles ++ hs, h.session = cx.session) →
    ∀ fs, Moves cx w (v.handles ++ hs ++ fs) r.2 (leaves id kept r.1 ++ fs))
    (fun v hs w own => listed v hs own w) (fun again ih v hs w own => ?_) v hs w own
  have again (v : View) (hs : List Handle) (own : ∀ h ∈ v.handles ++ hs, h.session = cx.session) :
      Turns (σ := σ) cx (v.handles ++ hs) (again v hs).run (leaves id kept) := fun w => ih v hs w own
  refine (?_ : Turns (σ := σ) cx (v.handles ++ hs) (View.collectNext cx _ v hs).run (leaves id kept)) w
  obtain ⟨_ | it⟩ := v
  · exact listed ⟨none⟩ hs own
  · have ownIt : it.session = cx.session := own it List.mem_cons_self
    refine Turns.holdThen (Turns.bindOwn ownIt
      (Turns.always ((turns_step ownIt it.object).beside hs))) own fun (n, v) own => ?_
    cases n with
    | element h =>
        have order : (h :: v.handles ++ hs).Perm (v.handles ++ h :: hs) :=
          List.perm_middle.symm
        have rest := again v (h :: hs) fun g hg => own g (order.mem_iff.mpr hg)
        exact fun w fs => (Moves.perm w (order.append_right fs)).trans (rest w fs)
    | ended => exact listed v hs own
    | failed e =>
        rw [View.advanced, List.append_assoc] at own ⊢
        have released := turns_releaseAllIn (σ := σ) fun h hh =>
          own h (List.mem_append_right _ hh)
        refine (Turns.always (released.frame e.handles)).andThen fun _ => ?_
        exact Turns.failed e (List.append_nil _).symm

/-! ### Mappings -/

namespace Mapping

theorem makes_empty : Makes (σ := σ) cx (empty cx) fun m => [m.handle] := by
  refine (quiet_perform _ _ (by rfl)).bind fun d => ?_
  exact Makes.hold (Makes.always (Turns.acquire d)) fun h _ => Turns.ok _ rfl

theorem quiet_containsKey (m : Mapping) (key : HostValue) :
    Quiet (σ := σ) cx (m.containsKey cx key) := by
  refine (key.quiet_send.orError .convert).bind fun k => ?_
  exact (quiet_bind m.handle).bind fun _ => quiet_perform _ _ (by rfl)

theorem makes_get (m : Mapping) (key : HostValue) :
    Makes (σ := σ) cx (m.get cx key) fun v => [v] := by
  refine (quiet_bind m.handle).bind fun container => ?_
  refine (key.quiet_send.orError .convert).bind fun k => ?_
  refine (quiet_perform _ _ (by rfl)).bind fun found => ?_
  cases found with
  | true => exact (quiet_perform _ _ (by rfl)).bind fun v => Makes.always (Turns.acquire v)
  | false => exact makes_missingEntry container k

theorem quiet_set (m : Mapping) (key new : HostValue) : Quiet (σ := σ) cx (m.set cx key new) :=
  quiet_setSubscript m.handle key new

theorem quiet_remove (m : Mapping) (key : HostValue) : Quiet (σ := σ) cx (m.remove cx key) :=
  quiet_deleteSubscript m.handle key

/-- **Listing the keys** leaves the handles on the keys; the handle on what lists them is given back
even where the listing fails. -/
theorem makes_keys (m : Mapping) : Makes (σ := σ) cx (m.keys cx) id := by
  refine (makes_callMethod m.handle "keys" [] []).hold fun keys own => ?_
  have ownKeys : keys.session = cx.session := own keys List.mem_cons_self
  have collected : Makes (σ := σ) cx (do View.collect cx (← keys.iterate cx) []) id := by
    refine (makes_iterate keys).hold fun v own => ?_
    have rest := turns_collect (σ := σ) [] v [] (by simpa using own)
    rwa [List.append_nil] at rest
  refine Turns.andThen (Turns.always (collected.frame [keys])) fun listed => ?_
  refine Turns.andThen (Turns.always ((Turns.release ownKeys).beside _)) fun _ => ?_
  match listed with
  | .ok hs => exact Turns.ok hs rfl
  | .error (.failed e) => exact Turns.failed e rfl
  | .error (.panicked message) => exact Turns.panicked message

theorem quiet_length (m : Mapping) : Quiet (σ := σ) cx (m.length cx) :=
  (quiet_bind m.handle).bind fun _ => quiet_perform _ _ (by rfl)

theorem quiet_isEmpty (m : Mapping) : Quiet (σ := σ) cx (m.isEmpty cx) :=
  m.quiet_length.bind fun _ => Makes.pure _ rfl

end Mapping

/-! ### Sequences -/

namespace Sequence

theorem quiet_length (s : Sequence) : Quiet (σ := σ) cx (s.length cx) :=
  (quiet_bind s.handle).bind fun _ => quiet_perform _ _ (by rfl)

theorem quiet_isEmpty (s : Sequence) : Quiet (σ := σ) cx (s.isEmpty cx) :=
  s.quiet_length.bind fun _ => Makes.pure _ rfl

theorem quiet_checkIndex (s : Sequence) (i : Index) : Quiet (σ := σ) cx (s.checkIndex cx i) := by
  refine s.quiet_length.bind fun n => ?_
  split
  · exact Makes.pure _ rfl
  · exact (quiet_bind s.handle).bind fun r => makes_indexOutOfRange r i.val n

theorem makes_get (s : Sequence) (i : Index) : Makes (σ := σ) cx (s.get cx i) fun v => [v] :=
  (s.quiet_checkIndex i).bind fun _ => makes_subscript s.handle _

theorem quiet_set (s : Sequence) (i : Index) (new : HostValue) :
    Quiet (σ := σ) cx (s.set cx i new) :=
  (s.quiet_checkIndex i).bind fun _ => quiet_setSubscript s.handle _ new

/-- Adding an element gives the handle on what the guest's method gave back at once. -/
theorem quiet_push (s : Sequence) (new : HostValue) : Quiet (σ := σ) cx (s.push cx new) := by
  refine (makes_callMethod s.handle "append" [new] []).hold fun h own => ?_
  exact Turns.always (Turns.release (own h List.mem_cons_self))

end Sequence

end GuestBridge.Bridge
