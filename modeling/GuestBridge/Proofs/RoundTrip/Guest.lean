import GuestBridge.Proofs.Handles.Conversions
import GuestBridge.Proofs.RoundTrip.Values

/-!
# What Is Known of the Guest

The guest is any state that answers requests. What the bridge relies on, where it makes and reads
objects of built-in types, are the laws in `Outlook.Builtins`: such an object stays what it is, a new
one is what it was made from, and a dictionary keeps its entries in order and tells keys apart by
`Key`. Nothing is said of objects of other types, or of subclasses.

`Gives` states that a computation of the bridge does not stop, and what holds of its result.
-/

namespace GuestBridge.Bridge

open Guest (Ref noneRef boolRef)

variable {σ : Type}

/-! ### Objects -/

/-- What is known of the objects of a guest: the shapes of some, and what those are told apart by
that serve as keys. -/
structure Objects where
  shape : Ref → Option Shape
  key : Ref → Option Key

namespace Objects

/-- What was known is still known. -/
structure Extends (o o' : Objects) : Prop where
  shape {r : Ref} {x : Shape} : o.shape r = some x → o'.shape r = some x
  key {r : Ref} {k : Key} : o.key r = some k → o'.key r = some k

theorem Extends.refl (o : Objects) : o.Extends o := ⟨id, id⟩

theorem Extends.trans {o o' o'' : Objects} (h : o.Extends o') (h' : o'.Extends o'') :
    o.Extends o'' :=
  ⟨fun known => h'.shape (h.shape known), fun known => h'.key (h.key known)⟩

/-- What is known without looking at some of the objects. -/
def without (o : Objects) (ds : List Ref) : Objects :=
  { o with shape := fun r => if r ∈ ds then none else o.shape r }

theorem shape_without_of_mem {o : Objects} {ds : List Ref} {r : Ref} (h : r ∈ ds) :
    (o.without ds).shape r = none :=
  if_pos h

theorem shape_without {o : Objects} {ds : List Ref} {r : Ref} (h : r ∉ ds) :
    (o.without ds).shape r = o.shape r :=
  if_neg h

theorem without_extends (o : Objects) (ds : List Ref) : (o.without ds).Extends o := by
  refine ⟨fun {r x} known => ?_, id⟩
  by_cases h : r ∈ ds
  · rw [shape_without_of_mem h] at known
    cases known
  · rw [shape_without h] at known
    exact known

theorem Extends.without {o o' : Objects} (h : o.Extends o') (ds : List Ref) :
    (o.without ds).Extends (o'.without ds) := by
  refine ⟨fun {r x} known => ?_, h.key⟩
  by_cases hr : r ∈ ds
  · rw [shape_without_of_mem hr] at known
    cases known
  · rw [shape_without hr] at known ⊢
    exact h.shape known

/-- What was known is known without looking at what was not known. -/
theorem Extends.past_unknown {o o' : Objects} {d : Ref} (h : o.Extends o')
    (unknown : o.shape d = none) : o.Extends (o'.without [d]) := by
  refine ⟨fun {r x} known => ?_, h.key⟩
  have other : r ∉ [d] := fun same => by
    rw [List.mem_singleton.mp same, unknown] at known
    cases known
  exact (shape_without other).trans (h.shape known)

theorem without_cons_extends (o : Objects) (d : Ref) (ds : List Ref) :
    (o.without (d :: ds)).Extends (o.without ds) := by
  refine ⟨fun {r x} known => ?_, id⟩
  by_cases hr : r ∈ d :: ds
  · rw [shape_without_of_mem hr] at known
    cases known
  · rw [shape_without hr] at known
    exact (shape_without fun h => hr (List.mem_cons_of_mem d h)).trans known

theorem Extends.without_cons {o o' : Objects} {d : Ref} (h : (o.without [d]).Extends o')
    (ds : List Ref) : (o.without (d :: ds)).Extends (o'.without (d :: ds)) := by
  refine ⟨fun {r x} known => ?_, h.key⟩
  by_cases hr : r ∈ d :: ds
  · rw [shape_without_of_mem hr] at known
    cases known
  · have other : r ∉ [d] := fun h => hr (List.mem_cons.mpr (.inl (List.mem_singleton.mp h)))
    rw [shape_without hr] at known ⊢
    exact h.shape ((shape_without other).trans known)

/-- The entries of a dictionary after a key was given a value: a key that is there keeps its object
and place. `place` is the place of a new entry. -/
def put (o : Objects) (place : Nat) (k v : Ref) : List (Nat × Ref × Ref) → List (Nat × Ref × Ref)
  | [] => [(place, k, v)]
  | (p, k', v') :: es =>
    if o.key k' = o.key k then (p, k', v) :: es else (p, k', v') :: o.put place k v es

/-- The keys of a dictionary are then those that were there, and the new one. -/
theorem key_of_mem_put {o : Objects} {place : Nat} {k v : Ref} {es : List (Nat × Ref × Ref)} :
    ∀ e' ∈ o.put place k v es, e'.2.1 = k ∨ ∃ e ∈ es, e.2.1 = e'.2.1 := by
  induction es with
  | nil => exact List.forall_mem_singleton.mpr (.inl rfl)
  | cons e es ih =>
      obtain ⟨p, k', v'⟩ := e
      have others (e' : Nat × Ref × Ref) (he' : e' ∈ es) : ∃ e ∈ (p, k', v') :: es, e.2.1 = e'.2.1 :=
        ⟨e', List.mem_cons_of_mem _ he', rfl⟩
      have here : ∃ e ∈ (p, k', v') :: es, e.2.1 = k' := ⟨(p, k', v'), List.mem_cons_self, rfl⟩
      rw [put]
      split
      · exact List.forall_mem_cons.mpr ⟨.inr here, fun e' he' => .inr (others e' he')⟩
      · refine List.forall_mem_cons.mpr ⟨.inr here, fun e' he' => (ih e' he').imp_right fun there => ?_⟩
        obtain ⟨e, he, same⟩ := there
        exact ⟨e, List.mem_cons_of_mem _ he, same⟩

end Objects

/-! ### Laws -/

/-- A request is answered, whatever the bridge holds, and `Q` holds of the answer and the state
after. -/
def Answers [GuestState σ] {α : Type} (s : σ) (r : Request α) (Q : α → σ → Prop) : Prop :=
  ∀ held, ∃ a writes s', GuestState.perform held r s = (.ok a, writes, s') ∧ Q a s'

theorem Answers.mono [GuestState σ] {α : Type} {s : σ} {r : Request α} {P Q : α → σ → Prop}
    (h : Answers s r P) (hPQ : ∀ a s', P a s' → Q a s') : Answers s r Q := fun held => by
  obtain ⟨a, writes, s', answered, result⟩ := h held
  exact ⟨a, writes, s', answered, hPQ a s' result⟩

/-- A way to look at the states of a guest: when it is ready to answer, without code that waits to
run before, and what is known of its objects. -/
structure Outlook (σ : Type) where
  Ready : σ → Prop
  objects : σ → Objects

namespace Outlook

variable (V : Outlook σ)

/-- The guest is ready, and everything is known that was known before. -/
structure Keeps (s s' : σ) : Prop where
  ready : V.Ready s'
  known : (V.objects s).Extends (V.objects s')

/-- The guest is ready, and the same is known of its objects. -/
structure Same (s s' : σ) : Prop where
  ready : V.Ready s'
  objects : V.objects s' = V.objects s

/-- An object has been made: the shape and the key that it has. -/
structure Makes (x : Shape) (k : Option Key) (s : σ) (r : Ref) (s' : σ) : Prop where
  keeps : V.Keeps s s'
  shape : (V.objects s').shape r = some x
  key {κ : Key} : k = some κ → (V.objects s').key r = some κ

/-- What the bridge relies on where the guest makes and reads objects of built-in types. -/
structure Builtins [GuestState σ] : Prop where
  noneShape {s : σ} : V.Ready s → (V.objects s).shape noneRef = some .none
  noneKey {s : σ} : V.Ready s → (V.objects s).key noneRef = some .none
  boolShape {s : σ} (b : Bool) : V.Ready s → (V.objects s).shape (boolRef b) = some (.bool b)
  boolKey {s : σ} (b : Bool) : V.Ready s →
    (V.objects s).key (boolRef b) = some (.number (cond b 1 0))
  /-- Reading an object tells its shape and changes nothing. -/
  shape {s : σ} {r : Ref} {x : Shape} : V.Ready s → (V.objects s).shape r = some x →
    Answers s (.shape r) fun y s' => y = x ∧ V.Same s s'
  index {s : σ} {r : Ref} {n : Int} : V.Ready s → (V.objects s).shape r = some (.int n) →
    IntType.isize.Contains n → Answers s (.toIndex r) fun m s' => m = n ∧ V.Same s s'
  newInt {s : σ} (n : Int) : V.Ready s →
    Answers s (.newInt n) (V.Makes (.int n) (some (.number n)) s)
  newFloat {s : σ} (bits : Nat) : V.Ready s →
    Answers s (.newFloat bits) (V.Makes (.float bits) none s)
  newStr {s : σ} (t : String) : V.Ready s →
    Answers s (.newStr t) (V.Makes (.text (Text.ofString t)) (some (.text t)) s)
  newBytes {s : σ} (bs : List UInt8) : V.Ready s →
    Answers s (.newBytes bs) (V.Makes (.bytes bs) (some (.bytes bs)) s)
  newList {s : σ} (items : List Ref) : V.Ready s →
    Answers s (.newList items) (V.Makes (.sequence items) none s)
  /-- A tuple is a key if its items are. -/
  newTuple {s : σ} (items : List Ref) : V.Ready s →
    Answers s (.newTuple items)
      (V.Makes (.sequence items) ((items.mapM (V.objects s).key).map Key.tuple) s)
  newSlice {s : σ} (start stop step : Ref) : V.Ready s →
    Answers s (.newSlice start stop step) (V.Makes (.slice start stop step) none s)
  /-- A new dictionary is empty and was not there before. -/
  newDict {s : σ} : V.Ready s → Answers s (.newDict []) fun d s' =>
    V.Makes (.dict []) none s d s' ∧ (V.objects s).shape d = none
  /-- Giving a key a value changes the dictionary and nothing else; a new key comes last. -/
  setItem {s : σ} {d k v : Ref} {es : List (Nat × Ref × Ref)} {κ : Key} : V.Ready s →
    (V.objects s).shape d = some (.dict es) → (∀ e ∈ es, ((V.objects s).key e.2.1).isSome) →
    (V.objects s).key k = some κ → Answers s (.setItem d k v) fun _ s' =>
      V.Ready s' ∧ ((V.objects s).without [d]).Extends (V.objects s') ∧
        ∃ place, (∀ e ∈ es, e.1 < place) ∧
          (V.objects s').shape d = some (.dict ((V.objects s).put place k v es))

variable {V}

theorem Keeps.refl {s : σ} (h : V.Ready s) : V.Keeps s s := ⟨h, .refl _⟩

theorem Keeps.trans {s s' s'' : σ} (h : V.Keeps s s') (h' : V.Keeps s' s'') : V.Keeps s s'' :=
  ⟨h'.ready, h.known.trans h'.known⟩

theorem Same.refl {s : σ} (h : V.Ready s) : V.Same s s := ⟨h, rfl⟩

theorem Same.trans {s s' s'' : σ} (h : V.Same s s') (h' : V.Same s' s'') : V.Same s s'' :=
  ⟨h'.ready, h'.objects.trans h.objects⟩

end Outlook

/-! ### Computations that do not stop -/

/-- A computation does not stop early, and `Q` holds of its result and the world after. -/
def Gives {ε α : Type} (x : ExceptT (Stop ε) (StateM (World σ)) α) (w : World σ)
    (Q : α → World σ → Prop) : Prop :=
  ∃ a w', x.run.run w = (.ok a, w') ∧ Q a w'

/-- What the guest writes changes nothing about the guest. -/
theorem World.guest_writes (w : World σ) (writes : List (SessionId × String)) :
    (writes.foldl (fun w (s, text) => w.write s text) w).guest = w.guest := by
  induction writes generalizing w with
  | nil => rfl
  | cons e es ih => exact ih _

theorem World.ask_of_perform [GuestState σ] {α : Type} {w : World σ} {r : Request α}
    {answer : Except Guest.Raised α} {writes : List (SessionId × String)} {s' : σ}
    (performed : GuestState.perform w.held r w.guest = (answer, writes, s')) :
    ∃ w', w.ask r = (answer, w') ∧ w'.guest = s' := by
  refine ⟨_, ?_, World.guest_writes { w with guest := s' } writes⟩
  rw [World.ask, performed]

theorem World.ask_of_answers [GuestState σ] {α : Type} (w : World σ) {r : Request α}
    {Q : α → σ → Prop} (h : Answers w.guest r Q) : ∃ a w', w.ask r = (.ok a, w') ∧ Q a w'.guest := by
  obtain ⟨a, writes, s', answered, result⟩ := h w.held
  obtain ⟨w', asked, rfl⟩ := World.ask_of_perform answered
  exact ⟨a, w', asked, result⟩

namespace Gives

variable {ε α β : Type} {w : World σ}

theorem pure {a : α} {Q : α → World σ → Prop} (h : Q a w) :
    Gives (ε := ε) (Pure.pure a) w Q :=
  ⟨a, w, rfl, h⟩

theorem mono {x : ExceptT (Stop ε) (StateM (World σ)) α} {P Q : α → World σ → Prop}
    (hx : Gives x w P) (h : ∀ a w', P a w' → Q a w') : Gives x w Q := by
  obtain ⟨a, w', run, result⟩ := hx
  exact ⟨a, w', run, h a w' result⟩

theorem bind {x : ExceptT (Stop ε) (StateM (World σ)) α}
    {f : α → ExceptT (Stop ε) (StateM (World σ)) β} {P : α → World σ → Prop}
    {Q : β → World σ → Prop} (hx : Gives x w P) (hf : ∀ a w', P a w' → Gives (f a) w' Q) :
    Gives (x >>= f) w Q := by
  obtain ⟨a, w', first, result⟩ := hx
  obtain ⟨b, w'', second, result'⟩ := hf a w' result
  refine ⟨b, w'', ?_, result'⟩
  change (ExceptT.bindCont f (x.run.run w).1).run (x.run.run w).2 = _
  rw [first]
  exact second

/-- A request that is answered does not stop a computation. -/
theorem request [GuestState σ] {r : Request α} {Q : α → σ → Prop} (h : Answers w.guest r Q) :
    Gives (Bridge.request r) w fun a w' => Q a w'.guest := by
  obtain ⟨a, w', asked, result⟩ := w.ask_of_answers h
  exact ⟨a, w', run_request_of_ok asked, result⟩

/-- What does not stop as a crossing does not stop as an operation. -/
theorem orError [GuestState σ] {x : Crossing σ α} {Q : α → World σ → Prop} (hx : Gives x w Q)
    (cx : Context) (site : Site) : Gives (x.orError cx site) w Q := by
  obtain ⟨a, w', run, result⟩ := hx
  exact ⟨a, w', run_orError_of_ok run cx site, result⟩

end Gives

/-! ### Computations that read -/

/-- Where `o` is what is known of the objects, a computation gives `a` and changes nothing that is
known. -/
def Outlook.Reads (V : Outlook σ) (o : Objects) {ε α : Type}
    (x : ExceptT (Stop ε) (StateM (World σ)) α) (a : α) : Prop :=
  ∀ w : World σ, V.Ready w.guest → V.objects w.guest = o →
    Gives x w fun b w' => b = a ∧ V.Ready w'.guest ∧ V.objects w'.guest = o

namespace Outlook.Reads

variable {V : Outlook σ} {o : Objects} {ε α β : Type}

theorem pure (a : α) : V.Reads o (Pure.pure a : ExceptT (Stop ε) (StateM (World σ)) α) a :=
  fun _ ready known => .pure ⟨rfl, ready, known⟩

theorem bind {x : ExceptT (Stop ε) (StateM (World σ)) α}
    {f : α → ExceptT (Stop ε) (StateM (World σ)) β} {a : α} {b : β} (hx : V.Reads o x a)
    (hf : V.Reads o (f a) b) : V.Reads o (x >>= f) b := by
  intro w ready known
  refine (hx w ready known).bind fun a' w' h => ?_
  obtain ⟨rfl, ready', known'⟩ := h
  exact hf w' ready' known'

/-- Two steps that cannot stop. -/
theorem steps {x : StateM (World σ) α} {f : α → StateM (World σ) β} {a : α} {b : β}
    (hx : V.Reads (ε := ε) o (always x) a) (hf : V.Reads (ε := ε) o (always (f a)) b) :
    V.Reads (ε := ε) o (always (x >>= f)) b :=
  hx.bind (f := fun a => always (f a)) hf

theorem fits {x : StateM (World σ) (Option α)} {a : α}
    (hx : V.Reads (ε := Unit) o (always x) (some a)) : V.Reads o (Bridge.fits x) a :=
  hx.bind (.pure a)

theorem discarding {x : Reading σ α} {a : α} (discard : StateM (World σ) Unit)
    (hx : V.Reads o x a) : V.Reads o (Bridge.discarding discard x) a := by
  intro w ready known
  obtain ⟨b, w', run, result⟩ := hx w ready known
  refine ⟨b, w', ?_, result⟩
  rw [run_discarding]
  change (afterReading discard (x.run.run w).1).run.run (x.run.run w).2 = _
  rw [run]
  rfl

/-- A computation that could stop is run for how it ends. -/
theorem attempt {δ : Type} {x : ExceptT (Stop δ) (StateM (World σ)) α} {a : α}
    (hx : V.Reads o x a) : V.Reads (ε := ε) o (always x.run) (.ok a) := by
  intro w ready known
  obtain ⟨b, w', run, rfl, result⟩ := hx w ready known
  refine ⟨.ok b, w', ?_, rfl, result⟩
  change (Except.ok (x.run.run w).1, (x.run.run w).2) = _
  rw [run]

variable [GuestState σ]

theorem ask {r : Request α} {a : α}
    (answer : ∀ s, V.Ready s → V.objects s = o → Answers s r fun b s' => b = a ∧ V.Same s s') :
    V.Reads (ε := ε) o (always (ask? r)) (.ok a) := by
  intro w ready known
  obtain ⟨b, w', asked, rfl, same⟩ := w.ask_of_answers (answer w.guest ready known)
  refine ⟨.ok b, w', ?_, rfl, same.ready, same.objects.trans known⟩
  change (Except.ok (w.ask r).1, (w.ask r).2) = _
  rw [asked]

theorem askOr {r : Request α} {a : α} (f : α → β) (otherwise : β)
    (answer : ∀ s, V.Ready s → V.objects s = o → Answers s r fun b s' => b = a ∧ V.Same s s') :
    V.Reads (ε := ε) o (always (Bridge.askOr r f otherwise)) (f a) :=
  (ask answer).steps (.pure (f a))

theorem shapeOf (laws : V.Builtins) {r : Ref} {x : Shape} (h : o.shape r = some x) :
    V.Reads (ε := ε) o (always (Bridge.shapeOf r)) x :=
  askOr id .other fun _ ready known => laws.shape ready (known ▸ h)

end Outlook.Reads

end GuestBridge.Bridge
