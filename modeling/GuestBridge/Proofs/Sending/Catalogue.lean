import GuestBridge.Proofs.RoundTrip.Guest

/-!
# Which Keys Are Refused

A map whose keys become lists, dictionaries or slices cannot be sent: the guest hashes a key before it
stores it, and these have no hash. `HostType.barrier` finds the part of a key for which it is refused, and
`HostType.refusal` the first refused key of a value, in the order in which entries are stored: key and
value of an entry are made before.

A `Catalogue` is a way to look at a guest that knows which objects can be hashed. Its laws say what the
guest does with keys: what is made of built-in types can be hashed or is refused by its type, a tuple is
refused for its first item that is, and to refuse a key is to raise a `TypeError` and to change nothing.
-/

namespace GuestBridge.Bridge

open Guest (Ref Raised noneRef boolRef)

/-! ### Keys of the host -/

namespace HostType

/-- The type of the guest for which a key is refused, if it is: that of the first part that cannot be
hashed. -/
def barrier : (t : HostType) → t.Value → Option String
  | list _, _ => some "list"
  | map _ _ _, _ => some "dict"
  | range, _ => some "slice"
  | option t, v => match v with
    | some x => t.barrier x
    | none => none
  | pair a b, (x, y) => (a.barrier x).or (b.barrier y)
  | triple a b c, (x, y, z) => (a.barrier x).or ((b.barrier y).or (c.barrier z))
  | unit, _ | bool, _ | int _, _ | bigInt, _ | float32, _ | float64, _ | string, _ | char, _
  | bytes, _ | handle, _ => none

/-- The keys of all maps in a value, in the order in which their entries are stored. -/
def storedKeys : (t : HostType) → t.Value → List HostValue
  | option t, v => match v with
    | some x => t.storedKeys x
    | none => []
  | list t, xs => List.flatMap t.storedKeys xs
  | pair a b, (x, y) => a.storedKeys x ++ b.storedKeys y
  | triple a b c, (x, y, z) => a.storedKeys x ++ (b.storedKeys y ++ c.storedKeys z)
  | map _ k t, es => List.flatMap (fun e => k.storedKeys e.1 ++ (t.storedKeys e.2 ++ [⟨k, e.1⟩])) es
  | unit, _ | bool, _ | int _, _ | bigInt, _ | float32, _ | float64, _ | string, _ | char, _
  | bytes, _ | range, _ | handle, _ => []

/-- The type of the guest for which the first key is refused, if one is. -/
def refusal (t : HostType) (v : t.Value) : Option String :=
  (t.storedKeys v).findSome? fun key => key.type.barrier key.value

/-- A value that there can be in a session: keys are of types that have an order, and handles are of that
session. -/
def Possible (cx : Context) : (t : HostType) → t.Value → Prop
  | option t, v => match v with
    | some x => Possible cx t x
    | none => True
  | list t, xs => ∀ x, List.Mem x xs → Possible cx t x
  | pair a b, (x, y) => Possible cx a x ∧ Possible cx b y
  | triple a b c, (x, y, z) => Possible cx a x ∧ Possible cx b y ∧ Possible cx c z
  | map _ k t, es => ∀ e, List.Mem e es → k.isOrdered ∧ Possible cx t e.2
  | handle, h => Handle.session h = cx.session
  | unit, _ | bool, _ | int _, _ | bigInt, _ | float32, _ | float64, _ | string, _ | char, _
  | bytes, _ | range, _ => True

/-- Keys hold no handles. -/
theorem possible_of_isOrdered (cx : Context) {t : HostType} (ht : t.isOrdered) (v : t.Value) :
    t.Possible cx v := by
  induction t with
  | option t ih =>
      cases v with
      | none => trivial
      | some x => exact ih ht x
  | list t ih => exact fun x _ => ih ht x
  | pair a b iha ihb =>
      simp only [isOrdered, Bool.and_eq_true] at ht
      exact ⟨iha ht.1 _, ihb ht.2 _⟩
  | triple a b c iha ihb ihc =>
      simp only [isOrdered, Bool.and_eq_true] at ht
      exact ⟨iha ht.1.1 _, ihb ht.1.2 _, ihc ht.2 _⟩
  | map kind k t ihk iht =>
      simp only [isOrdered, Bool.and_eq_true] at ht
      exact fun e _ => ⟨ht.1, iht ht.2 _⟩
  | handle => cases ht
  | _ => trivial

theorem refusal_pair {a b : HostType} (v : (pair a b).Value) :
    (pair a b).refusal v = (a.refusal v.1).or (b.refusal v.2) :=
  List.findSome?_append

theorem refusal_triple {a b c : HostType} (v : (triple a b c).Value) :
    (triple a b c).refusal v = (a.refusal v.1).or ((b.refusal v.2.1).or (c.refusal v.2.2)) :=
  List.findSome?_append.trans (congrArg (Option.or _) List.findSome?_append)

theorem refusal_list_cons {t : HostType} (x : t.Value) (xs : List t.Value) :
    (list t).refusal (x :: xs : List t.Value) = (t.refusal x).or ((list t).refusal xs) :=
  List.findSome?_append

/-- An entry is stored after its key and its value have been made. -/
theorem refusal_map_cons {kind : MapKind} {k t : HostType} (e : k.Value × t.Value)
    (es : List (k.Value × t.Value)) : (map kind k t).refusal (e :: es : List (k.Value × t.Value)) =
      (k.refusal e.1).or ((t.refusal e.2).or ((k.barrier e.1).or ((map kind k t).refusal es))) := by
  change List.findSome? (fun key : HostValue => key.type.barrier key.value)
    ((k.storedKeys e.1 ++ (t.storedKeys e.2 ++ [⟨k, e.1⟩])) ++ (map kind k t).storedKeys es) = _
  rw [List.findSome?_append, List.findSome?_append, List.findSome?_append, List.findSome?_singleton,
    Option.or_assoc, Option.or_assoc]
  rfl

end HostType

/-! ### Objects that can be hashed -/

/-- Whether an object can be a key: it has a hash, or is refused by the name of a type. -/
inductive Hash
  | sound
  | refused (type : String)
  deriving DecidableEq, Repr, Inhabited

namespace Hash

/-- The hash of a key with a barrier. -/
def of : Option String → Hash
  | some type => refused type
  | none => sound

/-- The hash of a tuple: it is refused for the first item that is. -/
def tuple : List Hash → Hash
  | [] => sound
  | sound :: hs => tuple hs
  | refused type :: _ => refused type

theorem tuple_pair (a b : Option String) : tuple [of a, of b] = of (a.or b) := by
  cases a <;> cases b <;> rfl

theorem tuple_triple (a b c : Option String) : tuple [of a, of b, of c] = of (a.or (b.or c)) := by
  cases a <;> cases b <;> cases c <;> rfl

end Hash

variable {σ : Type}

/-- A way to look at the states of a guest that knows which objects can be keys. -/
structure Catalogue (σ : Type) extends Outlook σ where
  hash : σ → Ref → Option Hash

namespace Catalogue

variable (V : Catalogue σ)

/-- The guest is ready, and everything is known that was known before. -/
structure Grows (s s' : σ) : Prop extends V.toOutlook.Keeps s s' where
  hash {r : Ref} {h : Hash} : V.hash s r = some h → V.hash s' r = some h

/-- An object has been made, with its hash. -/
structure New (h : Hash) (s : σ) (r : Ref) (s' : σ) : Prop where
  grows : V.Grows s s'
  hash : V.hash s' r = some h

/-- An exception by which a key is refused: it passed through no frame, and its type and its text say
why. -/
structure Refusal [GuestState σ] (s : σ) (e : Raised) (type : String) : Prop where
  trace : e.trace = []
  told : Answers s (.typeName e.value) fun name s' => name = "TypeError" ∧ V.toOutlook.Keeps s s' ∧
    Answers s' (.str e.value) fun text s'' =>
      text = Text.ofString ("unhashable type: '" ++ type ++ "'") ∧ V.toOutlook.Keeps s' s''

/-- What the bridge relies on where objects become keys. -/
structure Laws [GuestState σ] : Prop where
  noneHash {s : σ} : V.Ready s → V.hash s noneRef = some .sound
  boolHash {s : σ} (b : Bool) : V.Ready s → V.hash s (boolRef b) = some .sound
  newInt {s : σ} (n : Int) : V.Ready s → Answers s (.newInt n) (V.New .sound s)
  newFloat {s : σ} (bits : Nat) : V.Ready s → Answers s (.newFloat bits) (V.New .sound s)
  newStr {s : σ} (t : String) : V.Ready s → Answers s (.newStr t) (V.New .sound s)
  newBytes {s : σ} (bs : List UInt8) : V.Ready s → Answers s (.newBytes bs) (V.New .sound s)
  newList {s : σ} (items : List Ref) : V.Ready s → Answers s (.newList items) (V.New (.refused "list") s)
  newSlice {s : σ} (start stop step : Ref) : V.Ready s →
    Answers s (.newSlice start stop step) (V.New (.refused "slice") s)
  newTuple {s : σ} (items : List Ref) : V.Ready s → Answers s (.newTuple items) fun q s' =>
    V.Grows s s' ∧ ∀ hs, items.mapM (V.hash s) = some hs → V.hash s' q = some (.tuple hs)
  /-- A new dictionary is empty and was not there before. -/
  newDict {s : σ} : V.Ready s → Answers s (.newDict []) fun d s' =>
    V.New (.refused "dict") s d s' ∧
      (V.objects s).shape d = none ∧ (V.objects s').shape d = some (.dict [])
  /-- Giving a key a value changes the dictionary and nothing else. -/
  setItem {s : σ} {d k v : Ref} {es : List (Nat × Ref × Ref)} : V.Ready s →
    (V.objects s).shape d = some (.dict es) → (∀ e ∈ es, V.hash s e.2.1 = some .sound) →
    V.hash s k = some .sound → Answers s (.setItem d k v) fun _ s' =>
      V.Ready s' ∧ ((V.objects s).without [d]).Extends (V.objects s') ∧
        (∀ {r h}, V.hash s r = some h → V.hash s' r = some h) ∧
        ∃ es', (V.objects s').shape d = some (.dict es') ∧
          ∀ e' ∈ es', e'.2.1 = k ∨ ∃ e ∈ es, e.2.1 = e'.2.1
  /-- A key without a hash is refused, and nothing changes. -/
  refuse {s : σ} {d k v : Ref} {es : List (Nat × Ref × Ref)} {type : String} : V.Ready s →
    (V.objects s).shape d = some (.dict es) → V.hash s k = some (.refused type) →
    ∀ held, ∃ e writes s', GuestState.perform held (.setItem d k v) s = (.error e, writes, s') ∧
      V.toOutlook.Keeps s s' ∧ V.Refusal s' e type

variable {V}

theorem Grows.refl {s : σ} (h : V.Ready s) : V.Grows s s := ⟨.refl h, id⟩

theorem Grows.trans {s s' s'' : σ} (h : V.Grows s s') (h' : V.Grows s' s'') : V.Grows s s'' :=
  ⟨h.toKeeps.trans h'.toKeeps, fun known => h'.hash (h.hash known)⟩

end Catalogue

end GuestBridge.Bridge
