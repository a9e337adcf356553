import GuestBridge.Proofs.RoundTrip.Guest

/-!
# A Guest of Built-in Objects

The smallest guest that keeps the laws: it makes objects of built-in types, reads them and fills
dictionaries, and raises on every other request.
-/

namespace GuestBridge.Bridge

open Guest (Ref Raised noneRef boolRef trueRef falseRef)

/-- An object on the shelf: its shape and, if it can be a key, what it is told apart by. -/
structure Item where
  shape : Shape
  key : Option Key
  deriving Inhabited

/-- A guest that keeps objects of built-in types. References from `next` on are free. -/
structure Shelf where
  items : Ref → Option Item
  next : Nat

namespace Shelf

/-- The objects that are there from the start. -/
def first (r : Ref) : Option Item :=
  if r = noneRef then some ⟨.none, some .none⟩
  else if r = trueRef then some ⟨.bool true, some (.number 1)⟩
  else if r = falseRef then some ⟨.bool false, some (.number 0)⟩
  else none

/-- The shelf before anything is made. -/
def initial : Shelf := ⟨first, falseRef.id + 1⟩

/-- What is known of the objects on the shelf. -/
def objects (s : Shelf) : Objects :=
  ⟨fun r => (s.items r).map Item.shape, fun r => (s.items r).bind Item.key⟩

/-- The shelf with an object at a reference. -/
def set (s : Shelf) (r : Ref) (x : Item) : Shelf :=
  ⟨fun o => if o = r then some x else s.items o, max s.next (r.id + 1)⟩

/-- Puts a new object on the shelf. -/
def make (s : Shelf) (shape : Shape) (key : Option Key) : Option Ref × Shelf :=
  (some ⟨s.next⟩, s.set ⟨s.next⟩ ⟨shape, key⟩)

/-- A place past those of all entries. -/
def placeAfter (es : List (Nat × Ref × Ref)) : Nat := (es.map fun e => e.1 + 1).sum

/-- Answers a request; nothing if that raises. -/
def answer (s : Shelf) : {α : Type} → Request α → Option α × Shelf
  | _, .shape r => (s.objects.shape r, s)
  | _, .toIndex r => match s.objects.shape r with
    | some (.int n) => (some n, s)
    | _ => (none, s)
  | _, .newInt n => s.make (.int n) (some (.number n))
  | _, .newFloat bits => s.make (.float bits) none
  | _, .newStr t => s.make (.text (Text.ofString t)) (some (.text t))
  | _, .newBytes bs => s.make (.bytes bs) (some (.bytes bs))
  | _, .newList items => s.make (.sequence items) none
  | _, .newTuple items => s.make (.sequence items) ((items.mapM s.objects.key).map Key.tuple)
  | _, .newSlice start stop step => s.make (.slice start stop step) none
  | _, .newDict _ => s.make (.dict []) none
  | _, .setItem d k v => match s.objects.shape d, s.objects.key k with
    | some (.dict es), some _ =>
      (some (), s.set d ⟨.dict (s.objects.put (placeAfter es) k v es), s.objects.key d⟩)
    | _, _ => (none, s)
  | _, _ => (none, s)

/-- An answer as the guest gives it. -/
def performed {α : Type} : Option α × Shelf →
    Except Raised α × List (SessionId × String) × Shelf
  | (some a, s) => (.ok a, [], s)
  | (none, s) => (.error ⟨noneRef, []⟩, [], s)

instance : GuestState Shelf where
  perform _ r s := performed (s.answer r)

/-- The singletons are there, and references from `next` on are free. -/
structure Stocked (s : Shelf) : Prop where
  none : s.items noneRef = some ⟨.none, some .none⟩
  bool (b : Bool) : s.items (boolRef b) = some ⟨.bool b, some (.number (cond b 1 0))⟩
  free {r : Ref} : s.next ≤ r.id → s.items r = Option.none

/-- How the shelf is looked at. -/
abbrev outlook : Outlook Shelf := ⟨Stocked, objects⟩

theorem first_bool (b : Bool) : first (boolRef b) = some ⟨.bool b, some (.number (cond b 1 0))⟩ := by
  cases b <;> simp [first, noneRef, boolRef, trueRef, falseRef]

theorem first_free {id : Nat} (h : initial.next ≤ id) : first ⟨id⟩ = none := by
  simp only [initial, falseRef] at h
  have noneBefore : (⟨id⟩ : Ref) ≠ noneRef := by
    simp only [noneRef, ne_eq, Ref.mk.injEq]
    omega
  have trueBefore : (⟨id⟩ : Ref) ≠ trueRef := by
    simp only [trueRef, ne_eq, Ref.mk.injEq]
    omega
  have falseBefore : (⟨id⟩ : Ref) ≠ falseRef := by
    simp only [falseRef, ne_eq, Ref.mk.injEq]
    omega
  rw [first, if_neg noneBefore, if_neg trueBefore, if_neg falseBefore]

theorem items_initial : initial.items = first := rfl

theorem stocked_initial : initial.Stocked where
  none := by rw [items_initial, first, if_pos rfl]
  bool b := by rw [items_initial, first_bool]
  free h := by rw [items_initial, first_free h]

/-! ### Laws -/

variable {s : Shelf}

theorem items_set_self (d : Ref) (x : Item) : (s.set d x).items d = some x := if_pos rfl

theorem items_set_ne {d r : Ref} (x : Item) (h : r ≠ d) : (s.set d x).items r = s.items r :=
  if_neg h

theorem shape_eq_some {r : Ref} {x : Shape} :
    s.objects.shape r = some x ↔ ∃ k, s.items r = some ⟨x, k⟩ := by
  refine Option.map_eq_some_iff.trans ⟨?_, ?_⟩
  · rintro ⟨⟨_, k⟩, there, rfl⟩
    exact ⟨k, there⟩
  · rintro ⟨k, there⟩
    exact ⟨_, there, rfl⟩

theorem key_eq_some {r : Ref} {x : Shape} {k : Key} (there : s.items r = some ⟨x, some k⟩) :
    s.objects.key r = some k := by
  change (s.items r).bind Item.key = _
  rw [there]
  rfl

theorem answers {α : Type} {r : Request α} {a : α} {s' : Shelf} (h : s.answer r = (some a, s'))
    {Q : α → Shelf → Prop} (hQ : Q a s') : Answers s r Q := fun held => by
  refine ⟨a, [], s', ?_, hQ⟩
  change performed (s.answer r) = _
  rw [h, performed]

/-- Putting an object somewhere changes nothing elsewhere. -/
theorem without_extends_set {d : Ref} {x : Item}
    (keep : ∀ k, s.objects.key d = some k → x.key = some k) :
    (s.objects.without [d]).Extends (s.set d x).objects where
  shape {r y} known := by
    by_cases h : r ∈ [d]
    · rw [Objects.shape_without_of_mem h] at known
      cases known
    · rw [Objects.shape_without h] at known
      change ((s.set d x).items r).map Item.shape = _
      rw [items_set_ne x fun same => h (List.mem_singleton.mpr same)]
      exact known
  key {r k} known := by
    change ((s.set d x).items r).bind Item.key = _
    by_cases h : r = d
    · rw [h, items_set_self]
      exact keep k (h ▸ known)
    · rw [items_set_ne x h]
      exact known

theorem Stocked.set (h : s.Stocked) {d : Ref} (x : Item) (notNone : noneRef ≠ d)
    (notBool : ∀ b, boolRef b ≠ d) : (s.set d x).Stocked where
  none := by rw [items_set_ne x notNone, h.none]
  bool b := by rw [items_set_ne x (notBool b), h.bool b]
  free {r} past := by
    have below : s.next ≤ r.id := Nat.le_trans (Nat.le_max_left _ _) past
    have other : r ≠ d := fun same => by
      rw [same] at past
      exact Nat.lt_irrefl _ (Nat.le_trans (Nat.le_max_right _ _) past)
    rw [items_set_ne x other, h.free below]

/-- What is made is on the shelf, with everything that was there before. -/
theorem Stocked.make (h : s.Stocked) (shape : Shape) (key : Option Key) :
    outlook.Makes shape key s ⟨s.next⟩ (s.make shape key).2 := by
  have unused : s.items ⟨s.next⟩ = Option.none := h.free (Nat.le_refl _)
  have notNone : noneRef ≠ ⟨s.next⟩ := fun same => by
    have there := h.none
    rw [same, unused] at there
    cases there
  have notBool (b : Bool) : boolRef b ≠ ⟨s.next⟩ := fun same => by
    have there := h.bool b
    rw [same, unused] at there
    cases there
  have unknown : s.objects.shape ⟨s.next⟩ = Option.none := congrArg (Option.map Item.shape) unused
  have noKey : s.objects.key ⟨s.next⟩ = Option.none := congrArg (Option.bind · Item.key) unused
  refine ⟨⟨h.set _ notNone notBool, ?_⟩, ?_, ?_⟩
  · refine ((Objects.Extends.refl _).past_unknown unknown).trans ?_
    refine without_extends_set fun k known => ?_
    rw [noKey] at known
    cases known
  · exact congrArg (Option.map Item.shape) (items_set_self _ _)
  · rintro κ rfl
    exact congrArg (Option.bind · Item.key) (items_set_self _ _)

theorem lt_placeAfter {es : List (Nat × Ref × Ref)} {e : Nat × Ref × Ref} (h : e ∈ es) :
    e.1 < placeAfter es := by
  induction es with
  | nil => cases h
  | cons e' es ih =>
      rw [placeAfter, List.map_cons, List.sum_cons]
      rcases List.mem_cons.mp h with rfl | later
      · omega
      · have rest := ih later
        rw [placeAfter] at rest
        omega

/-- An object that is no singleton changes its shape, and nothing else changes. -/
theorem Stocked.reshape (h : s.Stocked) {d : Ref} {x : Shape} (there : s.objects.shape d = some x) (notNone : x ≠ .none)
    (notBool : ∀ b, x ≠ .bool b) (y : Shape) :
    (s.set d ⟨y, s.objects.key d⟩).Stocked ∧
      (s.objects.without [d]).Extends (s.set d ⟨y, s.objects.key d⟩).objects ∧
      (s.set d ⟨y, s.objects.key d⟩).objects.shape d = some y := by
  obtain ⟨key, there⟩ := shape_eq_some.mp there
  have otherThanNone : noneRef ≠ d := fun same => by
    rw [← same, h.none] at there
    cases there
    exact notNone rfl
  have otherThanBool (b : Bool) : boolRef b ≠ d := fun same => by
    rw [← same, h.bool b] at there
    cases there
    exact notBool b rfl
  refine ⟨h.set _ otherThanNone otherThanBool, without_extends_set fun _ => id, ?_⟩
  exact congrArg (Option.map Item.shape) (items_set_self _ _)

/-- A dictionary gets other entries, and nothing else changes. -/
theorem Stocked.fill (h : s.Stocked) {d : Ref} {es : List (Nat × Ref × Ref)}
    (dict : s.objects.shape d = some (.dict es)) (es' : List (Nat × Ref × Ref)) :
    (s.set d ⟨.dict es', s.objects.key d⟩).Stocked ∧
      (s.objects.without [d]).Extends (s.set d ⟨.dict es', s.objects.key d⟩).objects ∧
      (s.set d ⟨.dict es', s.objects.key d⟩).objects.shape d = some (.dict es') :=
  h.reshape dict nofun (fun _ => nofun) _

theorem Stocked.setItem (h : s.Stocked) {d k v : Ref} {es : List (Nat × Ref × Ref)} {κ : Key}
    (dict : s.objects.shape d = some (.dict es)) (key : s.objects.key k = some κ) :
    Answers s (.setItem d k v) fun _ s' =>
      s'.Stocked ∧ (s.objects.without [d]).Extends s'.objects ∧
        ∃ place, (∀ e ∈ es, e.1 < place) ∧
          s'.objects.shape d = some (.dict (s.objects.put place k v es)) := by
  have answered : s.answer (.setItem d k v) = (some (), s.set d
      ⟨.dict (s.objects.put (placeAfter es) k v es), s.objects.key d⟩) := by
    rw [answer, dict, key]
  obtain ⟨stocked, known, shape⟩ := h.fill dict (s.objects.put (placeAfter es) k v es)
  exact answers answered ⟨stocked, known, placeAfter es, fun e he => lt_placeAfter he, shape⟩

theorem Stocked.index (h : s.Stocked) {r : Ref} {n : Int}
    (known : s.objects.shape r = some (.int n)) :
    Answers s (.toIndex r) fun m s' => m = n ∧ outlook.Same s s' := by
  refine answers (a := n) ?_ ⟨rfl, h, rfl⟩
  rw [answer, known]

/-- **The shelf keeps the laws.** -/
theorem builtins : outlook.Builtins where
  noneShape h := shape_eq_some.mpr ⟨_, h.none⟩
  noneKey h := key_eq_some h.none
  boolShape b h := shape_eq_some.mpr ⟨_, h.bool b⟩
  boolKey b h := key_eq_some (h.bool b)
  shape h known := answers (by rw [answer, known]) ⟨rfl, h, rfl⟩
  index h known _ := h.index known
  newInt n h := answers rfl (h.make _ _)
  newFloat bits h := answers rfl (h.make _ _)
  newStr t h := answers rfl (h.make _ _)
  newBytes bs h := answers rfl (h.make _ _)
  newList items h := answers rfl (h.make _ _)
  newTuple items h := answers rfl (h.make _ _)
  newSlice start stop step h := answers rfl (h.make _ _)
  newDict h := answers rfl ⟨h.make _ _, congrArg (Option.map Item.shape) (h.free (Nat.le_refl _))⟩
  setItem h dict _ key := h.setItem dict key

end Shelf

end GuestBridge.Bridge
