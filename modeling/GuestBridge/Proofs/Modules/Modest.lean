import GuestBridge.Proofs.Requests.Verdict

/-!
# What Sessions Live On, in Operations

A session lives on what its start has made for it and on the modules that its jobs have loaded. Among
the operations of the bridge only those that load modules change any of this: whatever the guest does
when it is asked, what a session lives on is kept on the bridge's own side.

`Modest x` says so of a computation, for all sessions at once. It is put together along the steps
of the computation, as the handles of its outcome are.

## Main statements

* `Operation.modest_run` — an operation that loads no module leaves what every session lives on.
-/

namespace GuestBridge.Bridge

open Guest (Ref Raised)

variable {σ : Type}

/-- A computation that leaves what every session lives on. -/
def Modest {α : Type} (x : StateM (World σ) α) : Prop :=
  ∀ w u, ((x w).2.session u).runtime = (w.session u).runtime

namespace Modest

variable {α β ε : Type}

theorem pure (a : α) : Modest (Pure.pure a : StateM (World σ) α) := fun _ _ => rfl

theorem bind {x : StateM (World σ) α} {f : α → StateM (World σ) β} (hx : Modest x)
    (hf : ∀ a, Modest (f a)) : Modest (x >>= f) :=
  fun w u => (hf (x w).1 (x w).2 u).trans (hx w u)

theorem map {x : StateM (World σ) α} {f : α → β} (hx : Modest x) : Modest (f <$> x) :=
  hx.bind fun a => pure (f a)

/-- A first part that may stop early, and what follows it. -/
theorem andThen {x : ExceptT (Stop ε) (StateM (World σ)) α}
    {f : α → ExceptT (Stop ε) (StateM (World σ)) β} (hx : Modest x.run)
    (hf : ∀ a, Modest (f a).run) : Modest (x >>= f).run := by
  rw [ExceptT.run_bind]
  refine hx.bind fun r => ?_
  cases r with
  | ok a => exact hf a
  | error e => exact pure _

/-- A first part that cannot stop early. -/
theorem alwaysThen {x : StateM (World σ) α} {f : α → ExceptT (Stop ε) (StateM (World σ)) β}
    (hx : Modest x) (hf : ∀ a, Modest (f a).run) :
    Modest (Bridge.always x >>= f).run :=
  hx.bind hf

theorem always {x : StateM (World σ) α} (hx : Modest x) :
    Modest (Bridge.always x : ExceptT (Stop ε) (StateM (World σ)) α).run :=
  hx.map

theorem acquire {cx : Context} (r : Ref) : Modest (σ := σ) (Bridge.acquire cx r) :=
  fun w u => World.runtime_modifySession (w.hold r) cx.session u fun _ => rfl

theorem note (level : Level) (message : String) (fields : List (String × String)) :
    Modest (σ := σ) (Bridge.note level message fields) :=
  fun _ _ => rfl

theorem releaseAll (cx : Context) (hs : List Handle) :
    Modest (σ := σ) (releaseAllIn cx hs) := by
  intro w u
  change ((w.releaseAll _ hs).session u).runtime = _
  induction hs generalizing w with
  | nil => rfl
  | cons h hs ih => exact (ih _).trans (w.runtime_release _ h u)

/-- Looking for an object that a handle is on. -/
theorem handle {cx : Context} (h : Handle) :
    Modest (h.bind cx : ExceptT (Stop ε) (StateM (World σ)) Ref).run := by
  unfold Handle.bind
  split <;> exact pure _

variable [GuestState σ]

theorem ask (r : Request α) : Modest (σ := σ) (ask? r) :=
  fun w u => congrArg (·.2.2) (World.books_session (w.books_ask r) u)

theorem askOr (r : Request α) (f : α → β) (otherwise : β) :
    Modest (σ := σ) (Bridge.askOr r f otherwise) :=
  (ask r).bind fun a => by cases a <;> exact pure _

theorem request (r : Request α) : Modest (σ := σ) (Bridge.request r).run := by
  intro w u
  rw [run_request]
  exact ask r w u

end Modest

variable [GuestState σ] {cx : Context}

/-! ### Failures -/

theorem modest_acquireTraceback (e : Raised) : Modest (σ := σ) (acquireTraceback cx e) := by
  unfold acquireTraceback
  split
  · exact .pure _
  · refine (Modest.ask _).bind fun made => ?_
    cases made with
    | ok t => exact (Modest.acquire t).map
    | error _ => exact .pure _

theorem modest_foreignError (e : Raised) (d : Diagnostic) : Modest (σ := σ) (foreignError cx e d) :=
  (Modest.acquire e.value).bind fun _ => (modest_acquireTraceback e).bind fun _ => .pure _

theorem modest_diagnose (e : Raised) : Modest (σ := σ) (diagnose e) := by
  refine (Modest.askOr _ _ _).bind fun typeName => ?_
  refine (Modest.askOr _ _ _).bind fun message => Modest.bind ?_ fun _ => .pure _
  unfold tracebackOf
  split
  · exact .pure _
  · exact .askOr _ _ _

theorem modest_classify (site : Site) (e : Raised) (d : Diagnostic) :
    Modest (σ := σ) (classify cx site e d) := by
  cases site with
  | compile => exact (Modest.acquire e.value).bind fun _ => .pure _
  | importing module =>
      refine (Modest.askOr _ _ _).bind fun isImport => ?_
      cases isImport with
      | true => exact .pure _
      | false => exact modest_foreignError e d
  | subscript container key =>
      refine (Modest.askOr _ _ _).bind fun isLookup => ?_
      cases isLookup with
      | true =>
          refine (Modest.acquire container).bind fun c => ?_
          exact (Modest.askOr _ _ _).bind fun _ => .pure _
      | false => exact modest_foreignError e d
  | iterate target =>
      refine (Modest.askOr _ _ _).bind fun isType => ?_
      cases isType with
      | true => exact (Modest.acquire target).bind fun _ => .pure _
      | false => exact modest_foreignError e d
  | member | call | convert | execute | advance | length => exact modest_foreignError e d

theorem modest_failure (site : Site) (e : Raised) : Modest (σ := σ) (failure cx site e) :=
  (modest_diagnose e).bind fun d => (modest_classify site e d).bind fun _ =>
    (Modest.note _ _ _).bind fun _ => .pure _

theorem modest_failWith {α : Type} (site : Site) (e : Raised) :
    Modest (σ := σ) (failWith cx site e : Boundary σ α).run :=
  (modest_failure site e).alwaysThen fun _ => .pure _

theorem Modest.orError {α : Type} {x : Crossing σ α} (hx : Modest x.run) (site : Site) :
    Modest (x.orError cx site).run := by
  intro w u
  have kept := hx w u
  change ((Crossing.orError x cx site w).2.session u).runtime = _
  rw [Crossing.orError]
  rcases hr : x.run w with ⟨r, w'⟩
  rw [show x w = (r, w') from hr]
  rw [hr] at kept
  rcases r with (e | message) | a
  · exact (modest_failWith (α := α) site e w' u).trans kept
  · exact kept
  · exact kept

theorem Modest.perform {α : Type} (site : Site) (r : Request α) :
    Modest (σ := σ) (Bridge.perform cx site r).run :=
  (Modest.request r).orError site

/-- A request, and a handle on what it gives. -/
theorem modest_wrapped (site : Site) (r : Request Ref) :
    Modest (σ := σ) (do
      let v ← perform cx site r
      always (acquire cx v)).run :=
  (Modest.perform site r).andThen fun v => (Modest.acquire v).always

theorem modest_missingEntry {α : Type} (container key : Ref) :
    Modest (σ := σ) (missingEntry cx container key : Boundary σ α).run := by
  refine (Modest.askOr _ _ _).alwaysThen fun text => ?_
  refine (Modest.note _ _ _).alwaysThen fun _ => ?_
  exact (Modest.acquire container).alwaysThen fun _ => .pure _

omit [GuestState σ] in
theorem modest_indexOutOfRange {α : Type} (container : Ref) (index : Int) (length : Nat) :
    Modest (σ := σ) (indexOutOfRange cx container index length : Boundary σ α).run := by
  refine (Modest.note _ _ _).alwaysThen fun _ => ?_
  exact (Modest.acquire container).alwaysThen fun _ => .pure _

/-! ### Sending -/

omit [GuestState σ] in
theorem modest_sendAll {α : Type} {send : α → Crossing σ Ref} (hs : ∀ x, Modest (send x).run)
    (xs : List α) : Modest (sendAll send xs).run := by
  induction xs with
  | nil => exact .pure _
  | cons x xs ih => exact (hs x).andThen fun r => ih.andThen fun rs => .pure _

theorem modest_sendEntries {α β : Type} {sendKey : α → Crossing σ Ref} {sendValue : β → Crossing σ Ref}
    (hk : ∀ x, Modest (sendKey x).run) (hv : ∀ y, Modest (sendValue y).run) (dict : Ref)
    (es : List (α × β)) : Modest (sendEntries sendKey sendValue dict es).run := by
  induction es with
  | nil => exact .pure _
  | cons e es ih =>
      refine (hk e.1).andThen fun k => (hv e.2).andThen fun v => ?_
      exact (Modest.request _).andThen fun _ => ih

theorem modest_send (t : HostType) : ∀ v : t.Value, Modest (σ := σ) (send cx t v).run := by
  induction t with
  | unit | bool => exact fun _ => .pure _
  | int | bigInt | float32 | float64 | string | char | bytes => exact fun _ => .request _
  | option t ih =>
      intro v
      match v with
      | some x => exact ih x
      | none => exact .pure _
  | list t ih => exact fun xs => (modest_sendAll ih xs).andThen fun rs => .request _
  | pair a b iha ihb =>
      exact fun (x, y) => (iha x).andThen fun r => (ihb y).andThen fun s => .request _
  | triple a b c iha ihb ihc =>
      intro (x, y, z)
      refine (iha x).andThen fun r => (ihb y).andThen fun s => ?_
      exact (ihc z).andThen fun u => .request _
  | map kind k v ihk ihv =>
      intro es
      refine (Modest.request _).andThen fun d => ?_
      exact (modest_sendEntries ihk ihv d es).andThen fun _ => .pure _
  | range =>
      intro (a, b)
      refine (Modest.request _).andThen fun start => ?_
      refine (Modest.request _).andThen fun stop => ?_
      exact (Modest.request _).andThen fun step => .request _
  | handle => exact fun h => .handle h

theorem HostValue.modest_send (v : HostValue) : Modest (σ := σ) (v.send cx).run :=
  Bridge.modest_send v.type v.value

/-- Sending in an operation. -/
theorem HostValue.modest_convert (v : HostValue) :
    Modest (σ := σ) ((v.send cx).orError cx .convert).run :=
  v.modest_send.orError .convert

/-! ### Reading -/

theorem modest_shapeOf (r : Ref) : Modest (σ := σ) (shapeOf r) := .askOr _ _ _

theorem modest_readFloat64 (r : Ref) : Modest (σ := σ) (readFloat64 r) := by
  refine (modest_shapeOf r).bind fun s => ?_
  cases s with
  | int n =>
      refine (Modest.ask _).bind fun bits => ?_
      cases bits with
      | error _ => exact .pure _
      | ok bits =>
          refine (Modest.ask _).bind fun f => ?_
          cases f with
          | error _ => exact .pure _
          | ok f =>
              refine (Modest.ask _).bind fun same => ?_
              match same with
              | .ok true | .ok false | .error _ => exact .pure _
  | _ => exact .pure _

theorem modest_readFloat32 (r : Ref) : Modest (σ := σ) (readFloat32 r) := by
  refine (modest_readFloat64 r).bind fun bits => ?_
  cases bits with
  | none => exact .pure _
  | some bits =>
      refine (modest_shapeOf r).bind fun s => ?_
      cases s <;> exact .pure _

theorem modest_readRange (r : Ref) : Modest (σ := σ) (readRange r) := by
  refine (modest_shapeOf r).bind fun s => ?_
  cases s with
  | range start stop step =>
      dsimp only
      split <;> exact .pure _
  | slice start stop step =>
      have single : Modest (σ := σ) (isSingle step) := by
        unfold isSingle
        split
        · exact .pure _
        · exact (Modest.askOr _ _ _).bind fun _ => .pure _
      have first : Modest (σ := σ) (readStart start) := by
        unfold readStart
        split
        · exact .pure _
        · exact .askOr _ _ _
      refine single.bind fun single => ?_
      cases single with
      | false => exact .pure _
      | true =>
          refine first.bind fun a => ?_
          cases a with
          | none => exact .pure _
          | some a => exact (Modest.askOr _ _ _).bind fun b => .pure _
  | _ => exact .pure _

section

variable {α β : Type}

omit [GuestState σ]

theorem modest_fits {x : StateM (World σ) (Option α)} (hx : Modest x) :
    Modest (fits x).run := by
  refine hx.alwaysThen fun a => ?_
  cases a <;> exact .pure _

/-- Where reading stops early, what was read before is discarded. -/
theorem modest_discarding {d : StateM (World σ) Unit} {x : Reading σ α} (hd : Modest d)
    (hx : Modest x.run) : Modest (discarding d x).run := by
  rw [run_discarding]
  refine hx.bind fun r => ?_
  cases r with
  | ok a => exact .pure _
  | error e => exact hd.alwaysThen fun _ => .pure _

theorem modest_readAll {read : Ref → Reading σ α} {discard : α → StateM (World σ) Unit}
    (hr : ∀ r, Modest (read r).run) (hd : ∀ x, Modest (discard x)) (rs : List Ref) :
    Modest (readAll read discard rs).run := by
  induction rs with
  | nil => exact .pure _
  | cons r rs ih => exact (hr r).andThen fun x => (modest_discarding (hd x) ih).andThen fun _ => .pure _

theorem modest_discardValue (t : HostType) (v : t.Value) :
    Modest (σ := σ) (discardValue cx t v) :=
  .releaseAll cx (t.handles v)

end

theorem modest_readEntries {α β : Type} {readKey : Ref → Reading σ α} {readValue : Ref → Reading σ β}
    {discardKey : α → StateM (World σ) Unit} {discardVal : β → StateM (World σ) Unit}
    (hk : ∀ r, Modest (readKey r).run) (hv : ∀ r, Modest (readValue r).run)
    (hdk : ∀ x, Modest (discardKey x)) (hdv : ∀ y, Modest (discardVal y)) (dict : Ref)
    (size left : Nat) (last : Option Nat) :
    Modest (readEntries readKey readValue discardKey discardVal dict size left last).run := by
  have listed : Modest (σ := σ) (entriesNow dict) := by
    refine (modest_shapeOf dict).bind fun s => ?_
    cases s <;> exact .pure _
  induction left generalizing last with
  | zero =>
      unfold readEntries
      refine listed.alwaysThen fun es => ?_
      split <;> exact .pure _
  | succ left ih =>
      unfold readEntries
      refine listed.alwaysThen fun es => ?_
      split
      · exact .pure _
      · rcases es.find? _ with _ | ⟨place, k, v⟩
        · exact .pure _
        · refine (hk k).andThen fun x => (modest_discarding (hdk x) (hv v)).andThen fun y => ?_
          refine (modest_discarding ?_ (ih (some place))).andThen fun _ => .pure _
          exact (hdk x).bind fun _ => hdv y

theorem modest_receive (t : HostType) (r : Ref) : Modest (σ := σ) (receive cx t r).run := by
  induction t generalizing r with
  | unit =>
      rw [receive]
      generalize (r == Guest.noneRef) = isNone
      cases isNone <;> exact .pure _
  | bool | bigInt | bytes =>
      refine (modest_shapeOf r).alwaysThen fun s => ?_
      cases s <;> exact .pure _
  | int k =>
      refine (modest_shapeOf r).alwaysThen fun s => ?_
      cases s with
      | int n => exact modest_fits (.pure (fitting k n))
      | _ => exact .pure _
  | string =>
      refine (modest_shapeOf r).alwaysThen fun s => ?_
      cases s with
      | text t => exact modest_fits (.pure t.toString?)
      | _ => exact .pure _
  | float32 => exact modest_fits (modest_readFloat32 r)
  | float64 => exact modest_fits ((modest_readFloat64 r).bind fun _ => .pure _)
  | char =>
      refine (modest_shapeOf r).alwaysThen fun s => ?_
      cases s with
      | text t =>
          dsimp only
          rcases t.toString?.map String.toList with _ | _ | ⟨c, _ | ⟨_, _⟩⟩ <;> exact .pure _
      | _ => exact .pure _
  | option t ih =>
      rw [receive]
      generalize (r == Guest.noneRef) = isNone
      cases isNone with
      | true => exact .pure _
      | false => exact (ih r).andThen fun _ => .pure _
  | list t ih =>
      refine (modest_shapeOf r).alwaysThen fun s => ?_
      cases s with
      | sequence items => exact modest_readAll ih (modest_discardValue t) items
      | _ => exact .pure _
  | pair a b iha ihb =>
      refine (modest_shapeOf r).alwaysThen fun s => ?_
      cases s with
      | sequence items =>
          rcases items with _ | ⟨x, _ | ⟨y, _ | ⟨_, _⟩⟩⟩
          case cons.cons.nil =>
            refine (iha x).andThen fun u => ?_
            exact (modest_discarding (modest_discardValue a u) (ihb y)).andThen fun _ => .pure _
          all_goals exact .pure _
      | _ => exact .pure _
  | triple a b c iha ihb ihc =>
      refine (modest_shapeOf r).alwaysThen fun s => ?_
      cases s with
      | sequence items =>
          rcases items with _ | ⟨x, _ | ⟨y, _ | ⟨z, _ | ⟨_, _⟩⟩⟩⟩
          case cons.cons.cons.nil =>
            refine (iha x).andThen fun u => ?_
            refine (modest_discarding (modest_discardValue a u) ?_).andThen fun _ => .pure _
            refine (ihb y).andThen fun v => ?_
            exact (modest_discarding (modest_discardValue b v) (ihc z)).andThen fun _ => .pure _
          all_goals exact .pure _
      | _ => exact .pure _
  | map kind k v ihk ihv =>
      refine (modest_shapeOf r).alwaysThen fun s => ?_
      cases s with
      | dict es =>
          refine (modest_readEntries ihk ihv (modest_discardValue k) (modest_discardValue v) r _ _
            none).andThen fun read => Modest.always fun w u => ?_
          exact Modest.releaseAll cx _ w u
      | _ => exact .pure _
  | range => exact modest_fits (modest_readRange r)
  | handle => exact (Modest.acquire r).always

/-! ### Attributes and calls -/

theorem modest_hasAttr (site : Site) (r : Ref) (name : String) :
    Modest (σ := σ) (Handle.hasAttr cx site r name).run := by
  refine (Modest.ask _).alwaysThen fun found => ?_
  cases found with
  | ok _ => exact .pure _
  | error e =>
      refine (Modest.askOr _ _ _).alwaysThen fun isMissing => ?_
      cases isMissing with
      | true => exact .pure _
      | false => exact modest_failWith site e

theorem modest_sendKeywords (args : List (String × HostValue)) (ks : Handle.Keywords) :
    Modest (σ := σ) (Handle.sendKeywords cx args ks).run := by
  induction args generalizing ks with
  | nil => exact .pure _
  | cons arg args ih =>
      refine arg.2.modest_send.andThen fun r => ?_
      split <;> exact ih _

theorem modest_invoke (callee : Ref) (args : List HostValue) (keywords : List (String × HostValue)) :
    Modest (σ := σ) (Handle.invoke cx callee args keywords).run := by
  refine ((modest_sendAll HostValue.modest_send args).orError .convert).andThen fun positional => ?_
  refine ((modest_sendKeywords keywords ⟨[], []⟩).orError .convert).andThen fun ks => ?_
  refine (Modest.orError ?_ .call).andThen fun v => (Modest.acquire v).always
  cases ks.repeated.isEmpty with
  | true => exact .request _
  | false =>
      refine Modest.alwaysThen (x := get) (fun _ _ => rfl) fun _ => ?_
      refine (Modest.request (.newTuple positional)).andThen fun t => ?_
      refine (Modest.request (.newDict ks.first)).andThen fun d => ?_
      exact (Modest.request (.newDict ks.repeated)).andThen fun extra => .request _

theorem modest_callObject (callee : Ref) (args : List HostValue)
    (keywords : List (String × HostValue)) :
    Modest (σ := σ) (Handle.callObject cx callee args keywords).run := by
  have refused : Modest (σ := σ) (notCallable cx callee : Boundary σ Handle).run := by
    refine (Modest.acquire callee).alwaysThen fun h => ?_
    refine (Modest.askOr _ _ _).alwaysThen fun name => ?_
    exact (Modest.note _ _ _).alwaysThen fun _ => .pure _
  refine (Modest.ask _).alwaysThen fun callable => ?_
  match callable with
  | .ok true => exact modest_invoke callee args keywords
  | .ok false | .error _ => exact refused

theorem modest_callMethod (h : Handle) (name : String) (args : List HostValue)
    (keywords : List (String × HostValue)) :
    Modest (σ := σ) (h.callMethod cx name args keywords).run := by
  refine (Modest.handle h).andThen fun r => ?_
  exact (Modest.perform _ _).andThen fun method => modest_callObject method args keywords

/-! ### Items -/

theorem modest_subscript (h : Handle) (key : HostValue) :
    Modest (σ := σ) (h.subscript cx key).run :=
  (Modest.handle h).andThen fun _ => key.modest_convert.andThen fun _ => modest_wrapped _ _

theorem modest_setSubscript (h : Handle) (key new : HostValue) :
    Modest (σ := σ) (h.setSubscript cx key new).run := by
  refine (Modest.handle h).andThen fun container => ?_
  exact key.modest_convert.andThen fun k => new.modest_convert.andThen fun v => .perform _ _

theorem modest_deleteSubscript (h : Handle) (key : HostValue) :
    Modest (σ := σ) (h.deleteSubscript cx key).run :=
  (Modest.handle h).andThen fun _ => key.modest_convert.andThen fun _ => .perform _ _

/-! ### Views, mappings and sequences -/

theorem modest_advance {ε : Type} (v : View) :
    Modest (σ := σ) (v.advance cx : ExceptT (Stop ε) (StateM (World σ)) _).run := by
  obtain ⟨_ | it⟩ := v
  · exact .pure _
  refine (Modest.handle it).andThen fun r => Modest.always (Modest.bind ?_ fun n => ?_)
  · have step : Modest (σ := σ) (do
        let next ← request (.getAttr r "__next__")
        request (.call next [] [])).run :=
      (Modest.request _).andThen fun next => .request _
    refine step.bind fun r => ?_
    match r with
    | .ok v => exact (Modest.acquire v).bind fun h => .pure _
    | .error (.failed e) =>
        refine (Modest.askOr _ _ _).bind fun isEnd => ?_
        cases isEnd with
        | true => exact .pure _
        | false => exact (modest_failure .advance e).bind fun error => .pure _
    | .error (.panicked _) => exact .pure _
  · cases n with
    | ended => exact Modest.bind (fun w u => w.runtime_release _ it u) fun _ => .pure _
    | element h => exact .pure _
    | failed e => exact .pure _

theorem modest_next {ε : Type} (c : Cursor) :
    Modest (σ := σ) (c.next cx : ExceptT (Stop ε) (StateM (World σ)) _).run := by
  unfold Cursor.next
  split
  · exact .pure _
  · refine (modest_advance c.view).andThen fun (n, v) => ?_
    cases n <;> exact .pure _

theorem modest_iterate (h : Handle) : Modest (σ := σ) (h.iterate cx).run := by
  refine (Modest.handle h).andThen fun target => (Modest.perform _ _).andThen fun it => ?_
  exact (Modest.acquire it).alwaysThen fun _ => .pure _

theorem modest_collect (v : View) (hs : List Handle) :
    Modest (σ := σ) (View.collect cx v hs).run := by
  have listed (v : View) (hs : List Handle) : Modest (σ := σ) (View.collected cx v hs).run :=
    (Modest.releaseAll cx v.handles).alwaysThen fun _ => .pure _
  refine fun w => View.collect_induct
    (P := fun _ _ w r => ∀ u, (r.2.session u).runtime = (w.session u).runtime)
    (fun v hs w => listed v hs w) (fun again ih v hs w => ?_) v hs w
  refine (?_ : Modest (View.collectNext cx again v hs).run) w
  refine (modest_advance v).andThen fun (n, v) => ?_
  cases n with
  | element h => exact fun w => ih v (h :: hs) w
  | ended => exact listed v hs
  | failed e => exact (Modest.releaseAll cx (v.handles ++ hs)).alwaysThen fun _ => .pure _

theorem Mapping.modest_keys (m : Mapping) : Modest (σ := σ) (m.keys cx).run := by
  refine (modest_callMethod m.handle "keys" [] []).andThen fun keys => ?_
  have collected : Modest (σ := σ) (do View.collect cx (← keys.iterate cx) []).run :=
    (modest_iterate keys).andThen fun v => modest_collect v []
  refine collected.alwaysThen fun r => Modest.alwaysThen (fun w u => w.runtime_release _ keys u) fun _ => ?_
  cases r <;> exact .pure _

theorem Mapping.modest_get (m : Mapping) (key : HostValue) : Modest (σ := σ) (m.get cx key).run := by
  refine (Modest.handle m.handle).andThen fun container => key.modest_convert.andThen fun k => ?_
  refine (Modest.perform _ _).andThen fun found => ?_
  cases found with
  | true => exact modest_wrapped _ _
  | false => exact modest_missingEntry container k

namespace Sequence

theorem modest_length (s : Sequence) : Modest (σ := σ) (s.length cx).run :=
  (Modest.handle s.handle).andThen fun _ => .perform _ _

theorem modest_checkIndex (s : Sequence) (i : Index) : Modest (σ := σ) (s.checkIndex cx i).run := by
  refine s.modest_length.andThen fun n => ?_
  split
  · exact .pure _
  · exact (Modest.handle s.handle).andThen fun r => modest_indexOutOfRange r i.val n

theorem modest_push (s : Sequence) (new : HostValue) : Modest (σ := σ) (s.push cx new).run :=
  (modest_callMethod s.handle "append" [new] []).andThen fun h =>
    Modest.always fun w u => w.runtime_release _ h u

end Sequence

/-! ### Scripts -/

theorem modest_compileScript (source : String) (mode : ScriptMode) :
    Modest (σ := σ) (compileScript cx source mode).run := by
  refine Modest.alwaysThen (fun _ _ => rfl) fun rt => Modest.orError ?_ .compile
  refine (Modest.request (.getAttr rt.builtins "compile")).andThen fun compile => ?_
  refine (Modest.request (.newStr source)).andThen fun text => ?_
  refine (Modest.request (.newStr rt.scriptName)).andThen fun file => ?_
  exact (Modest.request (.newStr mode.word)).andThen fun word => .request _

theorem modest_runCode (code : Ref) (mode : ScriptMode) :
    Modest (σ := σ) (runCode cx code mode).run := by
  refine Modest.alwaysThen (fun _ _ => rfl) fun rt => Modest.orError ?_ .execute
  exact (Modest.request (.getAttr rt.builtins mode.word)).andThen fun run => .request _

theorem modest_execute (source : String) (result : Option String) :
    Modest (σ := σ) (execute cx source result).run := by
  refine (modest_compileScript source .statements).andThen fun code => ?_
  refine ((modest_runCode code .statements).andThen fun _ => .pure _).andThen fun _ => ?_
  cases result with
  | none => exact .pure _
  | some name =>
      refine Modest.alwaysThen (fun _ _ => rfl) fun rt => ?_
      refine (Modest.perform .member (.getName rt.globals name)).andThen fun found => ?_
      cases found with
      | none => exact .pure _
      | some v => exact (Modest.acquire v).alwaysThen fun _ => .pure _

/-! ### Operations -/

namespace Operation

omit [GuestState σ] in
theorem modest_outcome {α : Type} {x : Boundary σ α} {made : α → List Handle} {kept : List Handle}
    (hx : Modest x.run) : Modest (outcome x made kept) :=
  hx.map

/-- **An operation that loads no module leaves what every session lives on.** -/
theorem modest_run (op : Operation) (other : op.isImport = false) :
    Modest (σ := σ) (op.run cx) := by
  have own : Modest (σ := σ) (runtimeOf cx) := fun _ _ => rfl
  cases op with
  | importModule name | importFrom module symbol => cases other
  | liveHandles => exact Modest.map fun _ _ => rfl
  | globals => exact (own.bind fun rt => .acquire rt.globals).map
  | builtins => exact (own.bind fun rt => .acquire rt.builtins).map
  | none => exact (Modest.acquire _).map
  | adopt r => exact (Modest.acquire r).map
  | toForeign v =>
      exact modest_outcome (v.modest_convert.andThen fun r => (Modest.acquire r).always)
  | execute source result => exact modest_outcome (modest_execute source result)
  | evaluate expression =>
      refine modest_outcome ((modest_compileScript expression .expression).andThen fun code => ?_)
      exact (modest_runCode code .expression).andThen fun v => (Modest.acquire v).always
  | clone h =>
      refine modest_outcome ((Modest.handle h).andThen fun r => ?_)
      exact (Modest.acquire r).alwaysThen fun _ => .pure _
  | typeName h =>
      refine modest_outcome ?_
      unfold Handle.typeName
      split
      · exact .pure _
      · exact (Modest.handle h).andThen fun r =>
          (Modest.askOr _ _ _).alwaysThen fun _ => .pure _
  | isNone h => exact modest_outcome ((Modest.handle h).andThen fun _ => .pure _)
  | retention h =>
      exact modest_outcome ((Modest.handle h).andThen fun r =>
        (Modest.askOr (.references r) id 0).always)
  | isTruthy h => exact modest_outcome ((Modest.handle h).andThen fun _ => .perform _ _)
  | repr h | str h =>
      exact modest_outcome ((Modest.handle h).andThen fun _ =>
        (Modest.perform _ _).andThen fun _ => .pure _)
  | isInstance h cls =>
      exact modest_outcome ((Modest.handle h).andThen fun _ =>
        (Modest.handle cls).andThen fun _ => .perform _ _)
  | extract h t =>
      refine modest_outcome ((Modest.handle h).andThen fun r => ?_)
      refine (modest_receive t r).alwaysThen fun read => ?_
      match read with
      | .ok _ | .error (.failed ()) | .error (.panicked _) => exact .pure _
  | member h name => exact modest_outcome ((Modest.handle h).andThen fun _ => modest_wrapped _ _)
  | hasMember h name =>
      exact modest_outcome ((Modest.handle h).andThen fun _ => modest_hasAttr _ _ _)
  | setMember h name v =>
      exact modest_outcome (v.modest_convert.andThen fun _ =>
        (Modest.handle h).andThen fun _ => .perform _ _)
  | call h args keywords =>
      exact modest_outcome ((Modest.handle h).andThen fun r => modest_callObject r args keywords)
  | callMethod h name args keywords => exact modest_outcome (modest_callMethod h name args keywords)
  | subscript h key => exact modest_outcome (modest_subscript h key)
  | setSubscript h key new => exact modest_outcome (modest_setSubscript h key new)
  | deleteSubscript h key => exact modest_outcome (modest_deleteSubscript h key)
  | length h =>
      refine modest_outcome ((Modest.handle h).andThen fun r => ?_)
      refine (Modest.perform _ _).andThen fun type => (modest_hasAttr _ type _).andThen fun sized => ?_
      cases sized with
      | true => exact (Modest.perform .length (.length r)).andThen fun _ => .pure _
      | false => exact .pure _
  | iterate h => exact modest_outcome (modest_iterate h)
  | advance v => exact modest_outcome (modest_advance v)
  | next c => exact modest_outcome (modest_next c)
  | newMapping =>
      exact modest_outcome ((Modest.perform _ _).andThen fun d =>
        (Modest.acquire d).alwaysThen fun _ => .pure _)
  | containsKey m key =>
      exact modest_outcome (key.modest_convert.andThen fun _ =>
        (Modest.handle m.handle).andThen fun _ => .perform _ _)
  | getEntry m key => exact modest_outcome (m.modest_get key)
  | setEntry m key new => exact modest_outcome (modest_setSubscript m.handle key new)
  | removeEntry m key => exact modest_outcome (modest_deleteSubscript m.handle key)
  | keys m => exact modest_outcome m.modest_keys
  | mappingLength m => exact modest_outcome ((Modest.handle m.handle).andThen fun _ => .perform _ _)
  | mappingIsEmpty m =>
      exact modest_outcome (Modest.andThen ((Modest.handle m.handle).andThen fun _ =>
        .perform _ _) fun _ => .pure _)
  | getElement s i =>
      exact modest_outcome ((s.modest_checkIndex i).andThen fun _ => modest_subscript s.handle _)
  | setElement s i new =>
      exact modest_outcome ((s.modest_checkIndex i).andThen fun _ => modest_setSubscript s.handle _ new)
  | push s new => exact modest_outcome (s.modest_push new)
  | sequenceLength s => exact modest_outcome s.modest_length
  | sequenceIsEmpty s => exact modest_outcome (s.modest_length.andThen fun _ => .pure _)

end Operation

end GuestBridge.Bridge
