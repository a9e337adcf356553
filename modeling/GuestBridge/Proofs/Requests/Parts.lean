import GuestBridge.Proofs.Requests.Compiling
import GuestBridge.Proofs.Requests.Outcome

/-!
# How the Parts of Operations End

Operations of the bridge are put together from a few parts: sending a value, looking for an
attribute, calling, items, asking a view for its next element, loading a module, compiling and
running a script. For each part it is said here how it ends under rules that allow what the part
does, and of which handles it is known afterwards that they belong to the session.

## Main statements

* `crosses_send` — a value is sent without a call, and then has handles of the session alone.
* `traced_pull` — the end of an iteration is an ordinary answer.
* `tells_importFrom` — a missing attribute is replaced by a module inside, or reported.
-/

namespace GuestBridge.Bridge

open Guest (Ref Raised ErrorKind)

/-- Handles that all belong to the session. -/
def Context.Owns (cx : Context) (hs : List Handle) : Prop := ∀ h ∈ hs, h.session = cx.session

namespace Context

variable {cx : Context} {h : Handle} {hs hs' : List Handle}

@[simp] theorem owns_nil : cx.Owns [] := fun _ hh => absurd hh List.not_mem_nil

@[simp] theorem owns_cons : cx.Owns (h :: hs) ↔ h.session = cx.session ∧ cx.Owns hs :=
  List.forall_mem_cons

@[simp] theorem owns_append : cx.Owns (hs ++ hs') ↔ cx.Owns hs ∧ cx.Owns hs' :=
  List.forall_mem_append

@[simp] theorem owns_flatMap {α : Type} {f : α → List Handle} {xs : List α} :
    cx.Owns (xs.flatMap f) ↔ ∀ x ∈ xs, cx.Owns (f x) := by
  simp only [Owns, List.mem_flatMap]
  exact ⟨fun own x hx h hh => own h ⟨x, hx, hh⟩, fun own h ⟨x, hx, hh⟩ => own x hx h hh⟩

end Context

/-- The handles in a value. -/
def HostValue.handles (v : HostValue) : List Handle := v.type.handles v.value

variable {σ : Type} [GuestState σ] {cx : Context}

/-! ### Sending values -/

/-- The object that a request calls. -/
def Request.callee? : {α : Type} → Request α → Option Ref
  | _, .call f _ _ => some f
  | _, _ => none

section

variable {may : Asked → Prop}

theorem crosses_request {α : Type} (r : Request α) (hr : ∀ a, may ⟨r, a⟩) {P : Prop} (h : P) :
    Crosses (σ := σ) may (request r) fun _ => P :=
  .request r hr fun _ => h

/-- A request that is made for its answer alone. -/
theorem crosses_asked {α : Type} (r : Request α) :
    Crosses (σ := σ) (fun _ => True) (request r) fun _ => True :=
  crosses_request r (fun _ => trivial) trivial

theorem crosses_sendAll {α : Type} {send : α → Crossing σ Ref} {P : α → Prop}
    (hs : ∀ x, Crosses may (send x) fun _ => P x) (xs : List α) :
    Crosses may (sendAll send xs) fun _ => ∀ x ∈ xs, P x := by
  induction xs with
  | nil => exact .pure fun _ hx => absurd hx List.not_mem_nil
  | cons x xs ih =>
      refine (hs x).bind fun r hx => ih.bind fun rs hxs => .pure ?_
      exact List.forall_mem_cons.mpr ⟨hx, hxs⟩

variable (calm : ∀ q : Asked, q.request.callee? = none → may q)
include calm

theorem crosses_sendEntries {α β : Type} {sendKey : α → Crossing σ Ref}
    {sendValue : β → Crossing σ Ref} {P : α → Prop} {R : β → Prop}
    (hk : ∀ x, Crosses may (sendKey x) fun _ => P x)
    (hv : ∀ y, Crosses may (sendValue y) fun _ => R y) (dict : Ref) (es : List (α × β)) :
    Crosses may (sendEntries sendKey sendValue dict es) fun _ => ∀ e ∈ es, P e.1 ∧ R e.2 := by
  induction es with
  | nil => exact .pure fun _ he => absurd he List.not_mem_nil
  | cons e es ih =>
      obtain ⟨x, y⟩ := e
      refine (hk x).bind fun k hx => (hv y).bind fun v hy => ?_
      refine (crosses_request _ (fun _ => calm _ rfl) trivial).bind fun _ _ => ih.mono fun _ hes => ?_
      exact List.forall_mem_cons.mpr ⟨⟨hx, hy⟩, hes⟩

/-- A value is sent without a call, and when it has been sent it has handles of the session alone. -/
theorem crosses_send (t : HostType) : ∀ v : t.Value,
    Crosses (σ := σ) may (send cx t v) fun _ => cx.Owns (t.handles v) := by
  have made {r : Request Ref} (free : r.callee? = none) {hs : List Handle} (own : cx.Owns hs) :
      Crosses (σ := σ) may (request r) fun _ => cx.Owns hs :=
    crosses_request r (fun _ => calm _ free) own
  induction t with
  | unit | bool => exact fun _ => .pure Context.owns_nil
  | int | bigInt | float32 | float64 | string | char | bytes => exact fun _ => made rfl Context.owns_nil
  | option t ih =>
      intro v
      cases v with
      | none => exact .pure Context.owns_nil
      | some x => exact ih x
  | list t ih =>
      intro xs
      refine (crosses_sendAll (P := fun x => cx.Owns (t.handles x)) ih xs).bind fun rs own => ?_
      exact made rfl (Context.owns_flatMap.mpr own)
  | pair a b iha ihb =>
      intro ⟨x, y⟩
      refine (iha x).bind fun r hx => (ihb y).bind fun s hy => ?_
      exact made rfl (Context.owns_append.mpr ⟨hx, hy⟩)
  | triple a b c iha ihb ihc =>
      intro ⟨x, y, z⟩
      refine (iha x).bind fun r hx => (ihb y).bind fun s hy => (ihc z).bind fun u hz => ?_
      exact made rfl (Context.owns_append.mpr ⟨Context.owns_append.mpr ⟨hx, hy⟩, hz⟩)
  | map kind k v ihk ihv =>
      intro es
      refine (made rfl Context.owns_nil).bind fun d _ => ?_
      refine (crosses_sendEntries calm (P := fun x => cx.Owns (k.handles x))
        (R := fun y => cx.Owns (v.handles y)) ihk ihv d es).bind fun _ own => .pure ?_
      exact Context.owns_flatMap.mpr fun e he => Context.owns_append.mpr (own e he)
  | range =>
      intro ⟨a, b⟩
      refine (made rfl Context.owns_nil).bind fun start _ => ?_
      refine (made rfl Context.owns_nil).bind fun stop _ => ?_
      exact (made rfl Context.owns_nil).bind fun step _ => made rfl Context.owns_nil
  | handle =>
      intro h
      refine Crosses.handle.mono fun _ own => ?_
      exact Context.owns_cons.mpr ⟨own, Context.owns_nil⟩

/-- Values are sent in order without a call. -/
theorem crosses_sendValues (args : List HostValue) :
    Crosses (σ := σ) may (sendAll (HostValue.send cx) args) fun _ => ∀ v ∈ args, cx.Owns v.handles :=
  crosses_sendAll (P := fun v => cx.Owns v.handles) (fun v => crosses_send calm v.type v.value) args

end

theorem crosses_sendKeywords (keywords : List (String × HostValue)) (ks : Handle.Keywords) :
    Crosses (σ := σ) (fun _ => True) (Handle.sendKeywords cx keywords ks) fun _ =>
      ∀ e ∈ keywords, cx.Owns e.2.handles := by
  induction keywords generalizing ks with
  | nil => exact .pure fun _ he => absurd he List.not_mem_nil
  | cons e rest ih =>
      obtain ⟨name, v⟩ := e
      refine (crosses_send (fun _ _ => trivial) v.type v.value).bind fun r own => ?_
      have both {x : Crossing σ Handle.Keywords}
          (hx : Crosses (fun _ => True) x fun _ => ∀ e ∈ rest, cx.Owns e.2.handles) :
          Crosses (fun _ => True) x fun _ => ∀ e ∈ (name, v) :: rest, cx.Owns e.2.handles :=
        hx.mono fun _ h => List.forall_mem_cons.mpr ⟨own, h⟩
      split
      · exact both (ih _)
      · exact both (ih _)

/-! ### Parts of operations -/

section

variable {ρ : Rules}

/-- A crossing that makes requests for their answers alone. -/
theorem crossing {α : Type} {x : Crossing σ α} {site : Site}
    (hx : Crosses (fun _ => True) x fun _ => True) (adm : ∀ q, ρ.Admits site q) :
    Tells ρ cx (x.orError cx site) fun _ => True :=
  hx.orError fun q _ => adm q

theorem tells_convert (v : HostValue) (convert : ∀ q, ρ.Admits .convert q) :
    Tells (σ := σ) ρ cx ((v.send cx).orError cx .convert) fun _ => cx.Owns v.handles :=
  (crosses_send (fun _ _ => trivial) v.type v.value).orError fun q _ => convert q

/-- The exception for a missing attribute is an ordinary answer. -/
theorem tells_hasAttr {site : Site} {r : Ref} {name : String}
    (exc : ρ.Excuses site (.getAttr r name) .attributeError) :
    Tells (σ := σ) ρ cx (Handle.hasAttr cx site r name) fun _ => True := by
  refine traced_askThen _ fun a => ?_
  cases a with
  | ok v => exact .pure ((Ends.done trivial).step _ (exc.doesStep _) (exc.goesOn _))
  | error x =>
      refine traced_testThen x .attributeError (.pure ?_) fun a no => ?_
      · exact (Ends.done trivial).forgiven (exc.doesStep _) exc.own (exc.forgives x)
      · refine traced_failWith site x fun report e translates => ?_
        exact Ends.failed ⟨some site, .getAttr r name, .error x⟩ (exc.doesStep _)
          (.tested no (exc.only x) translates)

/-- The handles in the arguments of a call. -/
def passed (args : List HostValue) (keywords : List (String × HostValue)) : List Handle :=
  args.flatMap HostValue.handles ++ keywords.flatMap fun e => e.2.handles

/-- What has to hold for calls: only what can be called is called, and anything else is refused. -/
structure Rules.Calls (ρ : Rules) (cx : Context) (args : List HostValue)
    (keywords : List (String × HostValue)) : Prop where
  goesOn : ∀ callee, ¬ ρ.refuses ⟨none, .isCallable callee, .ok true⟩
  refuses : ∀ callee a, a ≠ .ok true → ρ.refuses ⟨none, .isCallable callee, a⟩
  does : ∀ callee a, ρ.Does ⟨none, .isCallable callee, a⟩
  convert : ∀ q, ρ.Admits .convert q
  call : cx.Owns (passed args keywords) → ∀ q, ρ.Admits .call q

variable {args : List HostValue} {keywords : List (String × HostValue)}

theorem tells_invoke (calls : ρ.Calls cx args keywords) (callee : Ref) :
    Tells (σ := σ) ρ cx (Handle.invoke cx callee args keywords) fun _ =>
      cx.Owns (passed args keywords) := by
  have sends : Crosses (σ := σ) (fun _ => True) (sendAll (HostValue.send cx) args) fun _ =>
      ∀ v ∈ args, cx.Owns v.handles := crosses_sendValues (fun _ _ => trivial) args
  refine (sends.orError fun q _ => calls.convert q).bind fun positional ownArgs => ?_
  refine ((crosses_sendKeywords keywords ⟨[], []⟩).orError fun q _ => calls.convert q).bind
    fun ks ownKeywords => ?_
  have own : cx.Owns (passed args keywords) := Context.owns_append.mpr
    ⟨Context.owns_flatMap.mpr ownArgs, Context.owns_flatMap.mpr ownKeywords⟩
  refine (crossing ?_ (calls.call own)).bind fun v _ => Tells.acquire fun _ => own
  split
  · exact crosses_asked _
  · refine Crosses.look (y := get) (fun _ => rfl) fun _ => ?_
    refine (crosses_asked (.newTuple positional)).bind fun t _ => ?_
    refine (crosses_asked (.newDict ks.first)).bind fun d _ => ?_
    refine (crosses_asked (.newDict ks.repeated)).bind fun extra _ => ?_
    exact crosses_asked _

theorem tells_callObject (calls : ρ.Calls cx args keywords) (callee : Ref) :
    Tells (σ := σ) ρ cx (Handle.callObject cx callee args keywords) fun _ =>
      cx.Owns (passed args keywords) := by
  refine traced_askThen _ fun a => ?_
  have refused (no : a ≠ .ok true) : Traced (σ := σ) (notCallable cx callee).run fun tr r =>
      Ends ρ cx (fun _ : Handle => cx.Owns (passed args keywords))
        (⟨.isCallable callee, a⟩ :: tr) r := by
    refine traced_notCallable callee no fun tr e refusal => ?_
    exact Ends.failed ⟨none, .isCallable callee, a⟩ (calls.does callee a)
      (.refused (calls.refuses callee a no) refusal)
  match a with
  | .ok true =>
      refine Traced.mono (tells_invoke calls callee) fun tr r ends => ?_
      exact ends.step none (calls.does callee _) (calls.goesOn callee)
  | .ok false | .error _ => exact refused nofun

theorem tells_callMethod {h : Handle} {name : String}
    (look : h.session = cx.session → ∀ q, ρ.Admits .member q)
    (calls : h.session = cx.session → ρ.Calls cx args keywords) :
    Tells (σ := σ) ρ cx (h.callMethod cx name args keywords) fun _ =>
      cx.Owns (h :: passed args keywords) := by
  refine Tells.handle fun own => ?_
  refine (Tells.perform (P := fun _ => True) (fun a => look own _) fun _ => trivial).bind
    fun method _ => ?_
  exact (tells_callObject (calls own) method).mono fun _ owns => Context.owns_cons.mpr ⟨own, owns⟩

/-! ### Items -/

variable {h : Handle} {key : HostValue}

theorem tells_subscript (convert : h.session = cx.session → ∀ q, ρ.Admits .convert q)
    (item : cx.Owns (h :: key.handles) → ∀ k q, ρ.Admits (.subscript h.object k) q) :
    Tells (σ := σ) ρ cx (h.subscript cx key) fun _ => cx.Owns (h :: key.handles) := by
  refine Tells.handle fun own => (tells_convert key (convert own)).bind fun k ownKey => ?_
  have all := Context.owns_cons.mpr ⟨own, ownKey⟩
  refine (Tells.perform (P := fun _ => True) (fun a => item all k _) fun _ => trivial).bind
    fun v _ => ?_
  exact Tells.acquire fun _ => all

theorem tells_setSubscript {new : HostValue}
    (convert : h.session = cx.session → ∀ q, ρ.Admits .convert q)
    (item : cx.Owns (h :: (key.handles ++ new.handles)) →
      ∀ k q, ρ.Admits (.subscript h.object k) q) :
    Tells (σ := σ) ρ cx (h.setSubscript cx key new) fun _ =>
      cx.Owns (h :: (key.handles ++ new.handles)) := by
  refine Tells.handle fun own => (tells_convert key (convert own)).bind fun k ownKey => ?_
  refine (tells_convert new (convert own)).bind fun v ownNew => ?_
  have all := Context.owns_cons.mpr ⟨own, Context.owns_append.mpr ⟨ownKey, ownNew⟩⟩
  exact Tells.perform (fun a => item all k _) fun _ => all

theorem tells_deleteSubscript (convert : h.session = cx.session → ∀ q, ρ.Admits .convert q)
    (item : cx.Owns (h :: key.handles) → ∀ k q, ρ.Admits (.subscript h.object k) q) :
    Tells (σ := σ) ρ cx (h.deleteSubscript cx key) fun _ => cx.Owns (h :: key.handles) := by
  refine Tells.handle fun own => (tells_convert key (convert own)).bind fun k ownKey => ?_
  have all := Context.owns_cons.mpr ⟨own, ownKey⟩
  exact Tells.perform (fun a => item all k _) fun _ => all

/-- An index out of range is refused. -/
theorem tells_checkIndex {s : Sequence} {i : Sequence.Index}
    (does : s.handle.session = cx.session → ∀ q, ρ.Does ⟨some .length, q⟩)
    (strict : ∀ q k, ¬ ρ.forgives ⟨some .length, q⟩ k)
    (goesOn : ∀ n, Sequence.inRange i.val n = true →
      ¬ ρ.refuses ⟨some .length, .length s.handle.object, .ok n⟩)
    (refuses : ∀ n, Sequence.inRange i.val n = false →
      ρ.refuses ⟨some .length, .length s.handle.object, .ok n⟩) :
    Tells (σ := σ) ρ cx (s.checkIndex cx i) fun _ => s.handle.session = cx.session := by
  unfold Sequence.checkIndex Sequence.length
  rw [bind_assoc]
  refine Tells.handle fun own => Tells.checked (does own) (fun x k => strict _ k) fun n => ?_
  cases range : Sequence.inRange i.val n with
  | true => exact .pure (Ends.step _ (does own _) (goesOn n range) (.done own))
  | false =>
      rw [if_neg (by simp), Handle.bind_own own]
      refine traced_indexOutOfRange _ _ _ fun tr e refusal => ?_
      exact Ends.failed ⟨some .length, .length s.handle.object, .ok n⟩ (does own _)
        (.refused (refuses n range) refusal)

/-! ### Views -/

/-- What asking for the next element comes to: a handle, nothing, or an error. -/
@[simp] def View.Next.result : View.Next → Except (Stop Error) (Option Handle)
  | element h => .ok (some h)
  | ended => .ok none
  | failed e => .error (.failed e)

variable (exc : ∀ {α : Type} (r : Request α), ρ.Excuses .advance r .stopIteration)
include exc

/-- The exception at the end of an iteration is an ordinary answer. -/
theorem traced_pull (iterator : Ref) : Traced (σ := σ) (View.pull cx iterator) fun tr n =>
    Ends ρ cx (fun _ => True) tr n.result := by
  have stepped : Crosses (σ := σ) (fun _ => True) (do
      let next ← request (.getAttr iterator "__next__")
      request (.call next [] [])) fun _ => True :=
    (crosses_asked _).bind fun _ _ => crosses_asked _
  have clean {tr : List Asked} (calm : ∀ q ∈ tr, True ∧ q.raised = none) :
      ρ.Clean (tr.map (Step.mk (some .advance))) :=
    .of_calm fun q hq =>
      ⟨⟨(exc q.request).doesStep q.answer, (exc q.request).goesOn q.answer⟩, (calm q hq).2⟩
  refine Traced.bind stepped fun tr r crossed => ?_
  cases crossed with
  | done calm h =>
      refine Traced.acquireThen _ (.pure ?_)
      simpa using Ends.after (clean calm) (.done (a := some _) trivial)
  | panicked calm =>
      refine .pure ?_
      simpa using Ends.after (clean calm) (.done (a := none) trivial)
  | @raised _ tr r x calm last =>
      have does := (exc r).doesStep (.error x)
      have before {report : List Asked} {result : Except (Stop Error) (Option Handle)}
          (ends : Ends ρ cx (fun _ => True) (⟨r, .error x⟩ :: report) result) :
          Ends ρ cx (fun _ => True) (tr ++ [⟨r, .error x⟩] ++ report) result := by
        simpa using ends.after (clean calm)
      refine Traced.askThen _ _ _ fun a => ?_
      by_cases yes : a = .ok true
      · subst yes
        exact .pure (before ((Ends.done trivial).forgiven does (exc r).own ((exc r).forgives x)))
      · rw [answered_no yes]
        refine (traced_failure .advance x).bind fun report e translates => .pure ?_
        rw [List.append_nil]
        have blames : Blames ρ cx [] ⟨some .advance, r, .error x⟩
            (test x .stopIteration a :: report) e := .tested yes ((exc r).only x) translates
        exact before (.failed _ does blames)

theorem traced_step (it : Handle) (r : Ref) : Traced (σ := σ) (View.step cx it r) fun tr p =>
    Ends ρ cx (fun _ => True) tr p.1.result := by
  refine (traced_pull exc r).bind fun tr n ends => ?_
  cases n with
  | ended =>
      refine Traced.after (fun w => w.guest_release _ _) fun () => .pure ?_
      rwa [List.append_nil]
  | element h => exact .pure ((List.append_nil tr).symm ▸ ends)
  | failed e => exact .pure ((List.append_nil tr).symm ▸ ends)

omit exc

variable {β : Type} {Q : β → Prop}

/-- Asking a view for its next element, and what follows. -/
theorem tells_advance {v : View} {f : View.Next × View → Boundary σ β}
    (exc : cx.Owns v.handles → ∀ {α : Type} (r : Request α), ρ.Excuses .advance r .stopIteration)
    (hf : cx.Owns v.handles → ∀ tr p, Ends ρ cx (fun _ => True) tr p.1.result →
      Traced (f p).run fun tr' b => Ends ρ cx Q (tr ++ tr') b) :
    Tells ρ cx (v.advance cx >>= f) Q := by
  obtain ⟨_ | it⟩ := v
  · exact hf Context.owns_nil [] (.ended, ⟨none⟩) (Ends.done trivial)
  · unfold View.advance
    rw [bind_assoc]
    refine Tells.handle fun own => ?_
    have owns : cx.Owns (View.handles ⟨some it⟩) := Context.owns_cons.mpr ⟨own, Context.owns_nil⟩
    exact (traced_step (exc owns) it it.object).always (hf owns)

theorem traced_orFail {V : Type} {tr : List Asked} {p : View.Next × V}
    {handles : View.Next × V → List Handle} {P : Prop} (h : P)
    (ends : Ends ρ cx (fun _ => True) tr p.1.result) :
    Traced (σ := σ) (View.Next.orFail handles p).run fun tr' b =>
      Ends ρ cx (fun _ => P) (tr ++ tr') b := by
  obtain ⟨n, v⟩ := p
  cases n with
  | failed e => exact .pure ((List.append_nil tr).symm ▸ ends.stopped)
  | element g => exact .pure (ends.andThen (.done h))
  | ended => exact .pure (ends.andThen (.done h))

/-- Asking a cursor for its next element, and what follows. A cursor that has failed asks nothing. -/
theorem tells_cursor {c : Cursor} {f : View.Next × Cursor → Boundary σ β} {hs : List Handle}
    (looked : hs = if c.failed then [] else c.view.handles)
    (exc : cx.Owns hs → ∀ {α : Type} (r : Request α), ρ.Excuses .advance r .stopIteration)
    (hf : cx.Owns hs → ∀ tr p, Ends ρ cx (fun _ => True) tr p.1.result →
      Traced (f p).run fun tr' b => Ends ρ cx Q (tr ++ tr') b) :
    Tells ρ cx (c.next cx >>= f) Q := by
  subst looked
  unfold Cursor.next
  split
  · rename_i failed
    exact hf (by simp [failed]) [] (.ended, c) (Ends.done trivial)
  · rename_i goesOn
    rw [bind_assoc]
    rw [if_neg goesOn] at exc hf
    refine tells_advance exc fun own tr (n, v) ends => ?_
    cases n with
    | failed e => exact hf own tr (.failed e, ⟨v, true⟩) ends
    | element g => exact hf own tr (.element g, ⟨v, false⟩) ends
    | ended => exact hf own tr (.ended, ⟨v, false⟩) ends

/-- Listing what a view still has. -/
theorem tells_collect {P : Prop} (h : P)
    (exc : ∀ {α : Type} (r : Request α), ρ.Excuses .advance r .stopIteration) (v : View) (hs : List Handle) :
    Tells (σ := σ) ρ cx (View.collect cx v hs) fun _ => P := by
  have listed (v : View) (hs : List Handle) : Tells (σ := σ) ρ cx (View.collected cx v hs) fun _ => P :=
    Tells.after (fun w => w.guest_releaseAll _ _) fun () => .pure h
  refine fun w => View.collect_induct (P := fun _ _ w r => ∃ tr, Runs w tr r.2 ∧ Ends ρ cx (fun _ => P) tr r.1)
    (fun v hs w => listed v hs w) (fun again ih v hs w => ?_) v hs w
  have again (v : View) (hs : List Handle) : Tells (σ := σ) ρ cx (again v hs) fun _ => P := fun w => ih v hs w
  refine (?_ : Tells (σ := σ) ρ cx (View.collectNext cx _ v hs) fun _ => P) w
  refine tells_advance (fun _ => exc) fun _ tr (n, v) ends => ?_
  cases n with
  | element g => exact Traced.mono (again v (g :: hs)) fun _ _ rest => ends.andThen rest
  | ended => exact Traced.mono (listed v hs) fun _ _ rest => ends.andThen rest
  | failed e =>
      refine Traced.afterwards (fun w => w.guest_releaseAll _ _) fun () => .pure ?_
      exact (List.append_nil tr).symm ▸ ends.stopped

theorem tells_iterate {h : Handle}
    (adm : h.session = cx.session → ∀ q, ρ.Admits (.iterate h.object) q) :
    Tells (σ := σ) ρ cx (h.iterate cx) fun _ => h.session = cx.session := by
  refine Tells.handle fun own => ?_
  refine (Tells.perform (P := fun _ => True) (fun a => adm own _) fun _ => trivial).bind fun r _ => ?_
  exact (Tells.acquire (P := fun _ => True) fun _ => trivial).bind fun _ _ => .pure own

theorem tells_keys {m : Mapping} (look : m.handle.session = cx.session → ∀ q, ρ.Admits .member q)
    (calls : m.handle.session = cx.session → ρ.Calls cx [] [])
    (iterates : m.handle.session = cx.session → ∀ target q, ρ.Admits (.iterate target) q)
    (exc : m.handle.session = cx.session → ∀ {α : Type} (r : Request α),
      ρ.Excuses .advance r .stopIteration) :
    Tells (σ := σ) ρ cx (m.keys cx) fun _ => m.handle.session = cx.session := by
  refine (tells_callMethod look calls).bind fun keys owns => ?_
  have own := (Context.owns_cons.mp owns).1
  have collected : Tells (σ := σ) ρ cx (do View.collect cx (← keys.iterate cx) [])
      fun _ => m.handle.session = cx.session :=
    (tells_iterate fun _ => iterates own keys.object).bind fun v _ =>
      tells_collect own (exc own) v []
  refine Traced.always collected fun tr r ends => ?_
  refine Traced.afterwards (fun w => w.guest_release _ _) fun () => ?_
  cases r with
  | ok hs => exact .pure ((List.append_nil tr).symm ▸ ends)
  | error e => exact .pure ((List.append_nil tr).symm ▸ ends)

/-! ### Modules -/

theorem crosses_importNow (name : String) :
    Crosses (σ := σ) (fun _ => True) (importNow name) fun _ => True :=
  (crosses_asked _).bind fun _ _ => (crosses_asked _).bind fun _ _ =>
    .pure trivial

omit [GuestState σ] in
theorem guest_rememberModule (cx : Context) (name : String) (m : Ref) (w : World σ) :
    (rememberModule cx name m w).2.guest = w.guest := by
  simp only [rememberModule]
  split
  · rfl
  · rename_i rt _
    cases rt.modules.lookup name <;> rfl

theorem tells_loadModule {name : String} (adm : ∀ q, ρ.Admits (.importing name) q) :
    Tells (σ := σ) ρ cx (loadModule cx name) fun _ => True := by
  refine Tells.after (fun _ => rfl) fun rt => ?_
  split
  · exact Tells.after (fun _ => rfl) fun () => .pure trivial
  · refine ((crosses_importNow name).orError fun q _ => adm q).bind fun m _ => ?_
    refine Tells.after (fun _ => rfl) fun () => ?_
    exact Tells.after (guest_rememberModule cx name m) fun () => .pure trivial

/-- The exception for a missing attribute is replaced by the module inside, or by the exception that
loading it raises, or is reported. -/
theorem tells_importFrom {module symbol : String}
    (load : ∀ q, ρ.Admits (.importing module) q)
    (exc : ∀ parent, ρ.Excuses .member (.getAttr parent symbol) .attributeError)
    (inside : ∀ q, ρ.Admits (.importing (module ++ "." ++ symbol)) q) :
    Tells (σ := σ) ρ cx (importFrom cx module symbol) fun _ => True := by
  refine (tells_loadModule load).bind fun parent _ => traced_askThen _ fun a => ?_
  have exc := exc parent
  cases a with
  | ok v =>
      refine Traced.mono (Tells.acquire (ρ := ρ) (P := fun _ => True) fun _ => trivial)
        fun tr r ends => ?_
      exact ends.step _ (exc.doesStep _) (exc.goesOn _)
  | error missing =>
      refine traced_testThen missing .attributeError ?_ fun a no => ?_
      · have forgiven : ρ.Clean [⟨some .member, .getAttr parent symbol, .error missing⟩,
            ⟨some .member, test missing .attributeError (.ok true)⟩] :=
          .forgiven (exc.doesStep _) exc.own (exc.forgives missing) .nil
        refine (crosses_importNow (module ++ "." ++ symbol)).always fun tr r crossed => ?_
        have clean {tr : List Asked} (calm : ∀ q ∈ tr, True ∧ q.raised = none) :
            ρ.Clean (_ ++ tr.map (Step.mk (some (.importing (module ++ "." ++ symbol))))) :=
          forgiven.append (.of_may (fun q _ => inside q) calm)
        cases crossed with
        | done calm h =>
            refine Traced.afterwards (fun _ => rfl) fun () => ?_
            refine Traced.afterwards (guest_rememberModule cx _ _) fun () => ?_
            refine Traced.mono (Tells.acquire (ρ := ρ) (P := fun _ => True) fun _ => trivial)
              fun tr' r ends => ?_
            simpa using ends.after (clean calm)
        | panicked calm =>
            refine .pure ?_
            simpa using Ends.after (Q := fun _ : Handle => True) (clean calm) .panicked
        | @raised _ tr r e calm last =>
            have failed {report : List Asked} {error : Error}
                (blames : Blames ρ cx (_ ++ tr.map (Step.mk (some _))) ⟨some _, r, .error e⟩ report
                  error) :
                Ends ρ cx (fun _ : Handle => True) _ (.error (.failed error)) :=
              ⟨_, report, rfl, .failed (clean calm) (inside _).doesStep blames⟩
            refine traced_testThen e .moduleNotFoundError ?_ fun a no => ?_
            · refine traced_failWith .member missing fun report error translates => ?_
              have ends := failed (.replaced List.mem_cons_self (exc.forgives missing) translates)
              simpa using ends
            · refine traced_failWith _ e fun report error translates => ?_
              have only : ∀ k', ρ.forgives ⟨some _, r, .error e⟩ k' → k' = .moduleNotFoundError :=
                fun k' forgives => absurd forgives ((inside _).strict k')
              have ends := failed (.tested no only translates)
              simpa using ends
      · refine traced_failWith .member missing fun report e translates => ?_
        exact Ends.failed ⟨some .member, .getAttr parent symbol, .error missing⟩
          (exc.doesStep _) (.tested no (exc.only missing) translates)

/-! ### Scripts -/

theorem tells_compileScript {source : String} {mode : ScriptMode}
    (adm : ∀ q, ρ.Admits .compile q) :
    Tells (σ := σ) ρ cx (compileScript cx source mode) fun _ => True :=
  Tells.after (fun _ => rfl) fun rt =>
    (traced_compile rt source mode).mono fun _ _ compiled => compiled.ends adm

theorem tells_runCode {code : Ref} {mode : ScriptMode} (adm : ∀ q, ρ.Admits .execute q) :
    Tells (σ := σ) ρ cx (runCode cx code mode) fun _ => True := by
  refine Tells.after (fun _ => rfl) fun rt => crossing ?_ adm
  exact (crosses_asked _).bind fun run _ => crosses_asked _

/-- What follows the compilation of statements. -/
def runStatements (cx : Context) (result : Option String) (code : Ref) :
    Boundary σ (Option Handle) := do
  discard <| runCode cx code .statements
  match result with
  | none => return none
  | some name =>
    let rt ← always (runtimeOf cx)
    match ← perform cx .member (.getName rt.globals name) with
    | some v => some <$> always (acquire cx v)
    | none => return none

/-- What follows the compilation of an expression. -/
def runExpression (cx : Context) (code : Ref) : Boundary σ Handle := do
  let v ← runCode cx code .expression
  always (acquire cx v)

theorem execute_eq (source : String) (result : Option String) : execute (σ := σ) cx source result =
    compileScript cx source .statements >>= runStatements cx result := rfl

theorem evaluate_eq (expression : String) : evaluate (σ := σ) cx expression =
    compileScript cx expression .expression >>= runExpression cx := rfl

theorem tells_runStatements {result : Option String} {code : Ref} (run : ∀ q, ρ.Admits .execute q)
    (look : ∀ q, ρ.Admits .member q) :
    Tells (σ := σ) ρ cx (runStatements cx result code) fun _ => True := by
  refine ((tells_runCode run).map (Q := fun _ => True) fun _ _ => trivial).bind fun _ _ => ?_
  cases result with
  | none => exact .pure trivial
  | some name =>
      refine Tells.after (fun _ => rfl) fun rt => ?_
      refine (Tells.perform (P := fun _ => True) (fun a => look _) fun _ => trivial).bind
        fun found _ => ?_
      cases found with
      | none => exact .pure trivial
      | some v => exact (Tells.acquire (P := fun _ => True) fun _ => trivial).map fun _ _ => trivial

theorem tells_runExpression {code : Ref} (run : ∀ q, ρ.Admits .execute q) :
    Tells (σ := σ) ρ cx (runExpression cx code) fun _ => True :=
  (tells_runCode run).bind fun _ _ => Tells.acquire fun _ => trivial

end

end GuestBridge.Bridge
