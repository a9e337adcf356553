import GuestBridge.Proofs.Requests.Parts

/-!
# What Conversions Ask

To convert a value of the host, the guest is asked for new objects, and to store entries into
dictionaries that were made on the way. No other object is touched: `Building` says so of a list of
requests, one after the other, and `Builds` of every run of a computation.

What is asked about an exception that ends a conversion touches nothing either.

## Main statements

* `builds_send` — so a value is sent.
* `builds_convertAll` — and so values are converted in order, or a failure is reported.
-/

namespace GuestBridge.Bridge

open Guest (Ref Raised)

/-- Requests that work on no object of the guest: they make a new one, or ask what an exception tells. -/
def Request.isFree : {α : Type} → Request α → Bool
  | _, .newInt _ | _, .newFloat _ | _, .newStr _ | _, .newBytes _ | _, .newList _ | _, .newTuple _
  | _, .newSlice _ _ _ | _, .newDict _ | _, .newTraceback _ => true
  | _, .typeName _ | _, .str _ | _, .tracebackText _ => true
  | _, _ => false

/-- After the requests in `earlier`, nothing is asked but free requests, and to store entries into
dictionaries that were made before. -/
inductive Building : (earlier tr : List Asked) → Prop
  | nil {earlier : List Asked} : Building earlier []
  | free {earlier tr : List Asked} {q : Asked} (free : q.request.isFree = true)
      (rest : Building (q :: earlier) tr) : Building earlier (q :: tr)
  | store {earlier tr : List Asked} {d k v : Ref} {a : Except Raised Unit}
      (made : ⟨.newDict [], .ok d⟩ ∈ earlier) (rest : Building (⟨.setItem d k v, a⟩ :: earlier) tr) :
      Building earlier (⟨.setItem d k v, a⟩ :: tr)

namespace Building

variable {earlier earlier' tr tr' : List Asked}

/-- A dictionary that was made stays one that was made. -/
theorem mono (h : Building earlier tr) (more : earlier ⊆ earlier') : Building earlier' tr := by
  induction h generalizing earlier' with
  | nil => exact .nil
  | free free rest ih => exact .free free (ih (List.cons_subset_cons _ more))
  | store made rest ih => exact .store (more made) (ih (List.cons_subset_cons _ more))

theorem append (first : Building earlier tr) (second : Building earlier tr') : Building earlier (tr ++ tr') := by
  induction first with
  | nil => exact second
  | free free rest ih => exact .free free (ih (second.mono (List.subset_cons_self _ _)))
  | store made rest ih => exact .store made (ih (second.mono (List.subset_cons_self _ _)))

theorem of_free (free : ∀ q ∈ tr, q.request.isFree = true) : Building earlier tr := by
  induction tr generalizing earlier with
  | nil => exact .nil
  | cons q tr ih =>
      obtain ⟨first, rest⟩ := List.forall_mem_cons.mp free
      exact .free first (ih rest)

end Building

/-- Reporting an exception that ended a conversion asks what the exception tells, and makes a traceback. -/
theorem Translates.isFree {cx : Context} {e : Raised} {tr : List Asked} {error : Error}
    (h : Translates cx .convert e tr error) : ∀ q ∈ tr, q.request.isFree = true := by
  cases h with
  | foreign diagnosed unspecific tracebacks =>
      cases unspecific
      refine List.forall_mem_append.mpr ⟨List.forall_mem_append.mpr ⟨?_, nofun⟩, ?_⟩
      · cases diagnosed <;> simp [Request.isFree]
      · cases tracebacks <;> simp [Request.isFree]

variable {σ : Type} [GuestState σ] {cx : Context}

/-- Each run of a computation asks for nothing but new objects and for entries of dictionaries that were
made, some of them before. -/
def Builds (earlier : List Asked) {ε α : Type} (x : ExceptT (Stop ε) (StateM (World σ)) α) : Prop :=
  Traced x.run fun tr _ => Building earlier tr

namespace Builds

variable {earlier : List Asked} {α β : Type}

theorem pure (a : α) : Builds (σ := σ) earlier (Pure.pure a : Crossing σ α) := Traced.pure .nil

theorem panic (message : String) : Builds (σ := σ) earlier (panicWith message : Crossing σ α) :=
  Traced.pure .nil

theorem bind {x : Crossing σ α} {f : α → Crossing σ β} (hx : Builds earlier x)
    (hf : ∀ a, Builds earlier (f a)) : Builds earlier (x >>= f) :=
  Traced.bindExcept hx (fun _ a first => (hf a).mono fun _ _ second => first.append second)
    fun _ _ first => first

theorem request {r : Request α} (free : r.isFree = true) : Builds (σ := σ) earlier (Bridge.request r) :=
  traced_request r (fun _ => .free free .nil) fun _ => .free free .nil

theorem store {d : Ref} (made : ⟨.newDict [], .ok d⟩ ∈ earlier) (k v : Ref) :
    Builds (σ := σ) earlier (Bridge.request (.setItem d k v)) :=
  traced_request (.setItem d k v) (fun _ => .store made .nil) fun _ => .store made .nil

end Builds

/-! ### Sending values -/

theorem builds_sendAll {α : Type} {earlier : List Asked} {send : α → Crossing σ Ref}
    (hs : ∀ x, Builds earlier (send x)) (xs : List α) : Builds earlier (sendAll send xs) := by
  induction xs with
  | nil => exact .pure _
  | cons x xs ih => exact (hs x).bind fun r => ih.bind fun rs => .pure _

theorem builds_sendEntries {α β : Type} {earlier : List Asked} {sendKey : α → Crossing σ Ref}
    {sendValue : β → Crossing σ Ref} (hk : ∀ x, Builds earlier (sendKey x))
    (hv : ∀ y, Builds earlier (sendValue y)) {d : Ref} (made : ⟨.newDict [], .ok d⟩ ∈ earlier)
    (es : List (α × β)) : Builds earlier (sendEntries sendKey sendValue d es) := by
  induction es with
  | nil => exact .pure _
  | cons e es ih =>
      obtain ⟨x, y⟩ := e
      exact (hk x).bind fun k => (hv y).bind fun v => (Builds.store made k v).bind fun _ => ih

/-- **A value is sent** by making new objects and filling the dictionaries among them. -/
theorem builds_send (t : HostType) : ∀ (earlier : List Asked) (v : t.Value),
    Builds (σ := σ) earlier (send cx t v) := by
  induction t with
  | unit | bool => exact fun _ _ => .pure _
  | int | bigInt | float32 | float64 | string | char | bytes => exact fun _ _ => .request rfl
  | option t ih =>
      intro earlier v
      cases v with
      | none => exact .pure _
      | some x => exact ih earlier x
  | list t ih => exact fun earlier xs => (builds_sendAll (ih earlier) xs).bind fun rs => .request rfl
  | pair a b iha ihb =>
      intro earlier ⟨x, y⟩
      exact (iha earlier x).bind fun r => (ihb earlier y).bind fun s => .request rfl
  | triple a b c iha ihb ihc =>
      intro earlier ⟨x, y, z⟩
      refine (iha earlier x).bind fun r => (ihb earlier y).bind fun s => ?_
      exact (ihc earlier z).bind fun u => .request rfl
  | map kind k v ihk ihv =>
      intro earlier es
      refine traced_requestThen (.newDict []) (fun d => ?_) fun e => .free rfl .nil
      -- from here on the dictionary is one of those that were made
      have filled : Builds (⟨.newDict [], .ok d⟩ :: earlier) (sendEntries (send cx k) (send cx v) d es) :=
        builds_sendEntries (ihk _) (ihv _) List.mem_cons_self es
      exact (filled.bind fun _ => Builds.pure d).mono fun tr _ rest => .free rfl rest
  | range =>
      intro earlier ⟨a, b⟩
      refine (Builds.request rfl).bind fun start => (Builds.request rfl).bind fun stop => ?_
      exact (Builds.request rfl).bind fun step => .request rfl
  | handle =>
      intro earlier h
      change Builds earlier (Handle.bind h cx : Crossing σ Ref)
      unfold Handle.bind
      split
      · exact .pure _
      · exact .panic _

/-! ### Converting values -/

/-- Converts values in order. -/
def convertAll (cx : Context) (vs : List HostValue) : Boundary σ (List Ref) :=
  (sendAll (HostValue.send cx) vs).orError cx .convert

/-- **Values are converted** by making new objects; a failure asks only what its exception tells. -/
theorem builds_convertAll (cx : Context) (vs : List HostValue) : Builds (σ := σ) [] (convertAll cx vs) := by
  have sent (v : HostValue) : Builds (σ := σ) [] (HostValue.send cx v) := builds_send v.type [] v.value
  exact Traced.orError (builds_sendAll sent vs) (fun _ _ => id) (fun _ _ => id) fun _ _ _ _ built translates =>
    built.append (.of_free translates.isFree)

end GuestBridge.Bridge
