import GuestBridge.Proofs.RoundTrip.Shelf
import GuestBridge.Proofs.Sending.Catalogue

/-!
# A Guest That Refuses Keys

A shelf that also knows which of its objects can be keys, and raises where one cannot.
-/

namespace GuestBridge.Bridge

open Guest (Ref Raised noneRef boolRef trueRef falseRef)

/-- A shelf with the hashes of its objects, and the type for which the last key was refused. -/
structure Cabinet where
  shelf : Shelf
  hashes : Ref → Option Hash
  last : String

namespace Cabinet

/-- The cabinet before anything is made. -/
def initial : Cabinet where
  shelf := .initial
  hashes r := (Shelf.initial.items r).map fun _ => .sound
  last := ""

/-- The exception by which a key is refused. -/
def refusal : Raised := ⟨noneRef, []⟩

/-- Puts a new object on the shelf, with its hash. -/
def make (c : Cabinet) (shape : Shape) (key : Option Key) (hash : Option Hash) :
    Except Raised Ref × Cabinet :=
  (.ok ⟨c.shelf.next⟩, ⟨(c.shelf.make shape key).2,
    fun r => if r = ⟨c.shelf.next⟩ then hash else c.hashes r, c.last⟩)

/-- Answers a request. -/
def answer (c : Cabinet) : {α : Type} → Request α → Except Raised α × Cabinet
  | _, .newInt n => c.make (.int n) (some (.number n)) (some .sound)
  | _, .newFloat bits => c.make (.float bits) none (some .sound)
  | _, .newStr t => c.make (.text (Text.ofString t)) (some (.text t)) (some .sound)
  | _, .newBytes bs => c.make (.bytes bs) (some (.bytes bs)) (some .sound)
  | _, .newList items => c.make (.sequence items) none (some (.refused "list"))
  | _, .newTuple items => c.make (.sequence items)
    ((items.mapM c.shelf.objects.key).map Key.tuple) ((items.mapM c.hashes).map Hash.tuple)
  | _, .newSlice start stop step => c.make (.slice start stop step) none (some (.refused "slice"))
  | _, .newDict _ => c.make (.dict []) none (some (.refused "dict"))
  | _, .setItem d k v => match c.shelf.objects.shape d, c.hashes k with
    | some (.dict es), some .sound =>
      let entries := c.shelf.objects.put (Shelf.placeAfter es) k v es
      (.ok (), ⟨c.shelf.set d ⟨.dict entries, c.shelf.objects.key d⟩, c.hashes, c.last⟩)
    | some (.dict _), some (.refused type) => (.error refusal, ⟨c.shelf, c.hashes, type⟩)
    | _, _ => (.error refusal, c)
  | _, .typeName _ => (.ok "TypeError", c)
  | _, .str _ => (.ok (Text.ofString ("unhashable type: '" ++ c.last ++ "'")), c)
  | _, _ => (.error refusal, c)

instance : GuestState Cabinet where
  perform _ r c := ((c.answer r).1, [], (c.answer r).2)

/-- The shelf is in order, and only objects on it have hashes. -/
structure Ready (c : Cabinet) : Prop where
  stocked : c.shelf.Stocked
  filed {r : Ref} {h : Hash} : c.hashes r = some h → r.id < c.shelf.next
  none : c.hashes noneRef = some .sound
  bool (b : Bool) : c.hashes (boolRef b) = some .sound

/-- How the cabinet is looked at. -/
abbrev catalogue : Catalogue Cabinet := ⟨⟨Ready, fun c => c.shelf.objects⟩, hashes⟩

variable {c : Cabinet}

theorem answers {α : Type} {r : Request α} {a : α} {c' : Cabinet} (h : c.answer r = (.ok a, c'))
    {Q : α → Cabinet → Prop} (hQ : Q a c') : Answers c r Q := fun held => by
  refine ⟨a, [], c', ?_, hQ⟩
  change ((c.answer r).1, [], (c.answer r).2) = _
  rw [h]

theorem hashes_initial (r : Ref) : initial.hashes r = (Shelf.initial.items r).map fun _ => .sound := rfl

theorem ready_initial : initial.Ready where
  stocked := Shelf.stocked_initial
  filed {r h} known := by
    by_contra past
    rw [hashes_initial, Shelf.stocked_initial.free (Nat.le_of_not_lt past)] at known
    cases known
  none := by
    rw [hashes_initial, Shelf.stocked_initial.none]
    rfl
  bool b := by
    rw [hashes_initial, Shelf.stocked_initial.bool]
    rfl

theorem hash_make (shape : Shape) (key : Option Key) (hash : Option Hash) :
    (c.make shape key hash).2.hashes ⟨c.shelf.next⟩ = hash :=
  if_pos (rfl : (⟨c.shelf.next⟩ : Ref) = ⟨c.shelf.next⟩)

theorem Ready.hash_make_of_known (h : c.Ready) (shape : Shape) (key : Option Key) (hash : Option Hash)
    {r : Ref} {old : Hash} (known : c.hashes r = some old) :
    (c.make shape key hash).2.hashes r = some old := by
  have other : r ≠ ⟨c.shelf.next⟩ := fun same => Nat.ne_of_lt (h.filed known) (congrArg Ref.id same)
  exact (if_neg other).trans known

/-- What is made is on the shelf with its hash, with everything that was there before. -/
theorem Ready.make (h : c.Ready) (shape : Shape) (key : Option Key) (hash : Option Hash) :
    catalogue.Grows c (c.make shape key hash).2 := by
  have made := h.stocked.make shape key
  have ready : (c.make shape key hash).2.Ready := by
    refine ⟨made.keeps.ready, fun {r old} known => ?_, ?_, fun b => ?_⟩
    · by_cases same : r = ⟨c.shelf.next⟩
      · rw [same]
        exact Nat.le_max_right _ _
      · have known : c.hashes r = some old := (if_neg same).symm.trans known
        exact Nat.lt_of_lt_of_le (h.filed known) (Nat.le_max_left _ _)
    · exact h.hash_make_of_known shape key hash h.none
    · exact h.hash_make_of_known shape key hash (h.bool b)
  exact ⟨⟨ready, made.keeps.known⟩, h.hash_make_of_known shape key hash⟩

theorem answers_make {r : Request Ref} {shape : Shape} {key : Option Key} {hash : Option Hash}
    (answered : c.answer r = c.make shape key hash) {Q : Ref → Cabinet → Prop}
    (hQ : Q ⟨c.shelf.next⟩ (c.make shape key hash).2) : Answers c r Q :=
  answers answered hQ

theorem Ready.new (h : c.Ready) {r : Request Ref} {shape : Shape} {key : Option Key} {hash : Hash}
    (answered : c.answer r = c.make shape key (some hash)) : Answers c r (catalogue.New hash c) :=
  answers_make answered ⟨h.make shape key (some hash), hash_make shape key (some hash)⟩

theorem Ready.newTuple (h : c.Ready) (items : List Ref) : Answers c (.newTuple items) fun q c' =>
    catalogue.Grows c c' ∧ ∀ hs, items.mapM c.hashes = some hs → c'.hashes q = some (.tuple hs) := by
  refine answers_make (c := c) rfl ⟨h.make _ _ _, fun hs known => ?_⟩
  rw [hash_make, known, Option.map_some]

theorem Ready.newDict (h : c.Ready) : Answers c (.newDict []) fun d c' =>
    catalogue.New (.refused "dict") c d c' ∧ c.shelf.objects.shape d = Option.none ∧
      c'.shelf.objects.shape d = some (.dict []) := by
  have made := h.stocked.make (.dict []) Option.none
  have new : catalogue.New (.refused "dict") c ⟨c.shelf.next⟩
      (c.make (.dict []) Option.none (some (.refused "dict"))).2 :=
    ⟨h.make _ _ _, hash_make (.dict []) Option.none _⟩
  refine answers_make (c := c) rfl ⟨new, ?_, made.shape⟩
  exact congrArg (Option.map Item.shape) (h.stocked.free (Nat.le_refl _))

theorem Ready.setItem (h : c.Ready) {d k v : Ref} {es : List (Nat × Ref × Ref)}
    (dict : c.shelf.objects.shape d = some (.dict es)) (key : c.hashes k = some .sound) :
    Answers c (.setItem d k v) fun _ c' =>
      c'.Ready ∧ (c.shelf.objects.without [d]).Extends c'.shelf.objects ∧
        (∀ {r h}, c.hashes r = some h → c'.hashes r = some h) ∧
        ∃ es', c'.shelf.objects.shape d = some (.dict es') ∧
          ∀ e' ∈ es', e'.2.1 = k ∨ ∃ e ∈ es, e.2.1 = e'.2.1 := by
  let es' := c.shelf.objects.put (Shelf.placeAfter es) k v es
  have answered : c.answer (.setItem d k v) =
      (.ok (), ⟨c.shelf.set d ⟨.dict es', c.shelf.objects.key d⟩, c.hashes, c.last⟩) := by
    rw [answer, dict, key]
  obtain ⟨stocked, known, shape⟩ := h.stocked.fill dict es'
  have filed {r : Ref} {hash : Hash} (hashed : c.hashes r = some hash) :
      r.id < max c.shelf.next (d.id + 1) :=
    Nat.lt_of_lt_of_le (h.filed hashed) (Nat.le_max_left _ _)
  exact answers answered ⟨⟨stocked, filed, h.none, h.bool⟩, known, id, _, shape, Objects.key_of_mem_put⟩

/-- A key is refused, and only the type for which it was is kept. -/
theorem Ready.refuse (h : c.Ready) {d k v : Ref} {es : List (Nat × Ref × Ref)} {type : String}
    (dict : c.shelf.objects.shape d = some (.dict es)) (key : c.hashes k = some (.refused type))
    (held : List Ref) : ∃ e writes c', GuestState.perform held (.setItem d k v) c = (.error e, writes, c') ∧
      catalogue.toOutlook.Keeps c c' ∧ catalogue.Refusal c' e type := by
  have answered : c.answer (.setItem d k v) = (.error refusal, ⟨c.shelf, c.hashes, type⟩) := by
    rw [answer, dict, key]
  have ready : Ready ⟨c.shelf, c.hashes, type⟩ := ⟨h.stocked, h.filed, h.none, h.bool⟩
  refine ⟨refusal, [], ⟨c.shelf, c.hashes, type⟩, ?_, ⟨ready, .refl _⟩, rfl, ?_⟩
  · change ((c.answer (.setItem d k v)).1, [], (c.answer (.setItem d k v)).2) = _
    rw [answered]
  · exact answers rfl ⟨rfl, .refl ready, answers rfl ⟨rfl, .refl ready⟩⟩

/-- **The cabinet keeps the laws.** -/
theorem laws : catalogue.Laws where
  noneHash h := h.none
  boolHash b h := h.bool b
  newInt _ h := h.new rfl
  newFloat _ h := h.new rfl
  newStr _ h := h.new rfl
  newBytes _ h := h.new rfl
  newList _ h := h.new rfl
  newSlice _ _ _ h := h.new rfl
  newTuple items h := h.newTuple items
  newDict h := h.newDict
  setItem h dict _ key := h.setItem dict key
  refuse h dict key held := h.refuse dict key held

end Cabinet

end GuestBridge.Bridge
