import GuestBridge.Proofs.RoundTrip.Floats
import Mathlib.Data.List.Nodup

/-!
# What a Value Becomes

The guest has one `None`, so a `some` around what stands for it cannot be told from `none`.
`HostType.collapse` replaces every such position from the inside out, and collects the entries of a
map again, because keys may have become equal.

## Main results

* `HostType.keyOf_eq_iff` — keys are equal to the guest if and only if they collapse to the same;
* `HostType.collapse_of_not_hides` — a value without such a position stays as it is;
* `HostType.quiet_collapse_eq_iff` — and no other value does.
-/

namespace GuestBridge.Bridge

open Number

/-- What the guest tells keys apart by. To the guest, a truth value is zero or one. -/
inductive Key
  | none
  | number (n : Int)
  | text (s : String)
  | bytes (bs : List UInt8)
  /-- The tuple without items. -/
  | empty
  /-- A tuple by its first item and the tuple of the others. -/
  | item (first rest : Key)
  deriving DecidableEq, Repr, Inhabited

/-- The key of a tuple with the keys of its items. -/
def Key.tuple (items : List Key) : Key := items.foldr Key.item Key.empty

namespace HostType

/-! ### The types -/

/-- The types of the keys of maps. -/
def isKey : HostType → Bool
  | unit | bool | int _ | bigInt | string | char | bytes => true
  | option t => t.isKey
  | pair a b => a.isKey && b.isKey
  | triple a b c => a.isKey && b.isKey && c.isKey
  | float32 | float64 | list _ | map _ _ _ | range | handle => false

/-- The types whose values can be keys at all: those with an order, which floating-point numbers and
handles do not have. -/
def isOrdered : HostType → Bool
  | unit | bool | int _ | bigInt | string | char | bytes | range => true
  | option t | list t => t.isOrdered
  | pair a b => a.isOrdered && b.isOrdered
  | triple a b c => a.isOrdered && b.isOrdered && c.isOrdered
  | map _ k v => k.isOrdered && v.isOrdered
  | float32 | float64 | handle => false

theorem isOrdered_of_isKey {t : HostType} (h : t.isKey) : t.isOrdered := by
  induction t with
  | unit | bool | int | bigInt | string | char | bytes => rfl
  | float32 | float64 | list | map | range | handle => cases h
  | option t ih => exact ih h
  | pair a b iha ihb =>
      simp only [isKey, Bool.and_eq_true] at h
      simp [isOrdered, iha h.1, ihb h.2]
  | triple a b c iha ihb ihc =>
      simp only [isKey, Bool.and_eq_true] at h
      simp [isOrdered, iha h.1.1, ihb h.1.2, ihc h.2]

/-- The types that are built without handles. -/
def isPlain : HostType → Bool
  | unit | bool | int _ | bigInt | float32 | float64 | string | char | bytes | range => true
  | option t | list t => t.isPlain
  | pair a b => a.isPlain && b.isPlain
  | triple a b c => a.isPlain && b.isPlain && c.isPlain
  | map _ k v => k.isKey && v.isPlain
  | handle => false

theorem isPlain_of_isKey {t : HostType} (h : t.isKey) : t.isPlain := by
  induction t with
  | unit | bool | int | bigInt | string | char | bytes => rfl
  | float32 | float64 | list | map | range | handle => cases h
  | option t ih => exact ih h
  | pair a b iha ihb =>
      simp only [isKey, Bool.and_eq_true] at h
      simp [isPlain, iha h.1, ihb h.2]
  | triple a b c iha ihb ihc =>
      simp only [isKey, Bool.and_eq_true] at h
      simp [isPlain, iha h.1.1, ihb h.1.2, ihc h.2]

/-! ### Positions that stand for nothing -/

/-- Whether a value is one that stands for the guest's `None`. -/
def isNothing : (t : HostType) → t.Value → Bool
  | unit, _ => true
  | option t, v => match v with
    | some x => t.isNothing x
    | none => true
  | bool, _ | int _, _ | bigInt, _ | float32, _ | float64, _ | string, _ | char, _ | bytes, _
  | list _, _ | pair _ _, _ | triple _ _ _, _ | map _ _ _, _ | range, _ | handle, _ => false

/-- Whether a `some` around what stands for `None` occurs in a value. -/
def hides : (t : HostType) → t.Value → Bool
  | option t, v => match v with
    | some x => t.isNothing x || t.hides x
    | none => false
  | list t, xs => List.any xs t.hides
  | pair a b, (x, y) => a.hides x || b.hides y
  | triple a b c, (x, y, z) => a.hides x || b.hides y || c.hides z
  | map _ k v, es => List.any es fun e => k.hides e.1 || v.hides e.2
  | unit, _ | bool, _ | int _, _ | bigInt, _ | float32, _ | float64, _ | string, _ | char, _
  | bytes, _ | range, _ | handle, _ => false

/-- A value in which every `some` around what stands for `None` is replaced by `none`, from the
inside out. Of map keys that become equal, the first one's place and the last one's value stay. -/
def collapse : (t : HostType) → t.Value → t.Value
  | option t, v => match v with
    | some x => if t.isNothing (t.collapse x) then none else some (t.collapse x)
    | none => none
  | list t, xs => List.map t.collapse xs
  | pair a b, (x, y) => (a.collapse x, b.collapse y)
  | triple a b c, (x, y, z) => (a.collapse x, b.collapse y, c.collapse z)
  | map kind k v, es =>
    collectEntries kind k (List.map (Prod.map k.collapse v.collapse) es)
  | unit, v | bool, v | int _, v | bigInt, v | float32, v | float64, v | string, v | char, v
  | bytes, v | range, v | handle, v => v

/-- What the guest tells a key apart by. -/
def keyOf : (t : HostType) → t.Value → Key
  | unit, _ => .none
  | bool, b => .number (cond b 1 0)
  | int _, n => .number n.val
  | bigInt, n => .number n
  | string, s => .text s
  | char, c => .text (String.ofList [c])
  | bytes, bs => .bytes bs
  | option t, v => match v with
    | some x => t.keyOf x
    | none => .none
  | pair a b, (x, y) => .tuple [a.keyOf x, b.keyOf y]
  | triple a b c, (x, y, z) => .tuple [a.keyOf x, b.keyOf y, c.keyOf z]
  | float32, _ | float64, _ | list _, _ | map _ _ _, _ | range, _ | handle, _ => .none

/-- The number of times that `some` occurs in a value. -/
def somes : (t : HostType) → t.Value → Nat
  | option t, v => match v with
    | some x => t.somes x + 1
    | none => 0
  | list t, xs => (List.map t.somes xs).sum
  | pair a b, (x, y) => a.somes x + b.somes y
  | triple a b c, (x, y, z) => a.somes x + b.somes y + c.somes z
  | map _ k v, es => (List.map (fun e => k.somes e.1 + v.somes e.2) es).sum
  | unit, _ | bool, _ | int _, _ | bigInt, _ | float32, _ | float64, _ | string, _ | char, _
  | bytes, _ | range, _ | handle, _ => 0

/-! ### Floating-point numbers in a value -/

/-- Applies functions to the floating-point numbers in a value. -/
def mapFloats (f : UInt32 → UInt32) (g : UInt64 → UInt64) : (t : HostType) → t.Value → t.Value
  | float32, bits => f bits
  | float64, bits => g bits
  | option t, v => Option.map (mapFloats f g t) v
  | list t, xs => List.map (mapFloats f g t) xs
  | pair a b, (x, y) => (mapFloats f g a x, mapFloats f g b y)
  | triple a b c, (x, y, z) => (mapFloats f g a x, mapFloats f g b y, mapFloats f g c z)
  | map _ k v, es => List.map (Prod.map (mapFloats f g k) (mapFloats f g v)) es
  | unit, v | bool, v | int _, v | bigInt, v | string, v | char, v | bytes, v | range, v
  | handle, v => v

/-- A 32-bit pattern, with one pattern for all that are not numbers. -/
def quiet32 (b : UInt32) : UInt32 :=
  if binary32.isNaN b.toNat then UInt32.ofNat binary32.notANumber else b

/-- A 64-bit pattern, with one pattern for all that are not numbers. -/
def quiet64 (b : UInt64) : UInt64 :=
  if binary64.isNaN b.toNat then UInt64.ofNat binary64.notANumber else b

/-- A value with one pattern for all that are not numbers. -/
def quiet : (t : HostType) → t.Value → t.Value := mapFloats quiet32 quiet64

/-- What a 32-bit pattern is after the trip through 64 bits. -/
def settle32 (b : UInt32) : UInt32 := (narrow? false (widen b)).getD b

/-- A value after the trip of its 32-bit numbers through 64 bits. -/
def settle : (t : HostType) → t.Value → t.Value := mapFloats settle32 id

theorem collapse_some_of_isNothing {t : HostType} {x : t.Value} (h : t.isNothing (t.collapse x)) :
    (option t).collapse (some x) = none :=
  if_pos h

theorem collapse_some {t : HostType} {x : t.Value} (h : ¬ t.isNothing (t.collapse x)) :
    (option t).collapse (some x) = some (t.collapse x) :=
  if_neg h

theorem isNothing_collapse (t : HostType) (v : t.Value) :
    t.isNothing (t.collapse v) = t.isNothing v := by
  induction t with
  | option t ih =>
      cases v with
      | none => rfl
      | some x =>
          by_cases nothing : t.isNothing (t.collapse x)
          · rw [collapse_some_of_isNothing nothing]
            exact nothing.symm.trans (ih x)
          · rw [collapse_some nothing]
            exact ih x
  | _ => rfl

theorem collapse_of_isNothing {t : HostType} {v : (option t).Value} (h : (option t).isNothing v) :
    (option t).collapse v = none := by
  cases v with
  | none => rfl
  | some x =>
      refine collapse_some_of_isNothing ?_
      rw [isNothing_collapse]
      exact h

theorem collapse_of_not_isNothing {t : HostType} {v : (option t).Value}
    (h : ¬ (option t).isNothing v) : ∃ x, v = some x ∧ (option t).collapse v = some (t.collapse x) := by
  cases v with
  | none => exact absurd rfl h
  | some x =>
      refine ⟨x, rfl, collapse_some ?_⟩
      rw [isNothing_collapse]
      exact h

/-! ### The order of keys -/

theorem compareLists_eq_iff {α : Type} {f : α → α → Ordering}
    (hf : ∀ a b, f a b = .eq ↔ a = b) (as bs : List α) : compareLists f as bs = .eq ↔ as = bs := by
  induction as generalizing bs with
  | nil => cases bs <;> simp [compareLists]
  | cons a as ih =>
      cases bs with
      | nil => simp [compareLists]
      | cons b bs => rw [compareLists, Ordering.then_eq_eq, hf, ih, List.cons.injEq]

/-- Two values are the same in the order of keys if and only if they are equal. -/
theorem compareValues_eq_iff {t : HostType} (ht : t.isOrdered) (x y : t.Value) :
    t.compareValues x y = .eq ↔ x = y := by
  induction t with
  | unit => exact ⟨fun _ => rfl, fun _ => rfl⟩
  | bool =>
      have bools : ∀ a b : Bool, compare (cond a 1 0 : Nat) (cond b 1 0) = .eq ↔ a = b := by decide
      exact bools x y
  | int k => exact Int.compare_eq_eq.trans Subtype.ext_iff.symm
  | bigInt => exact Int.compare_eq_eq
  | string =>
      refine (compareLists_eq_iff (fun a b => ?_) _ _).trans String.toList_inj
      exact Nat.compare_eq_eq.trans Char.toNat_inj
  | char => exact Nat.compare_eq_eq.trans Char.toNat_inj
  | bytes =>
      refine compareLists_eq_iff (fun a b => ?_) x y
      exact Nat.compare_eq_eq.trans UInt8.toNat_inj
  | option t ih =>
      cases x with
      | none =>
          cases y with
          | none => exact iff_of_true rfl rfl
          | some y => simp [compareValues]
      | some x =>
          cases y with
          | none => simp [compareValues]
          | some y => exact (ih ht x y).trans (Option.some.injEq x y).symm.to_iff
  | list t ih => exact compareLists_eq_iff (ih ht) x y
  | pair a b iha ihb =>
      obtain ⟨x, x'⟩ := x
      obtain ⟨y, y'⟩ := y
      simp only [isOrdered, Bool.and_eq_true] at ht
      rw [compareValues, Ordering.then_eq_eq, iha ht.1, ihb ht.2]
      exact (Prod.mk.injEq x x' y y').symm.to_iff
  | triple a b c iha ihb ihc =>
      obtain ⟨x, x', x''⟩ := x
      obtain ⟨y, y', y''⟩ := y
      simp only [isOrdered, Bool.and_eq_true] at ht
      rw [compareValues, Ordering.then_eq_eq, Ordering.then_eq_eq, iha ht.1.1, ihb ht.1.2,
        ihc ht.2]
      rw [← Prod.mk.injEq x' x'']
      exact (Prod.mk.injEq x (x', x'') y (y', y'')).symm.to_iff
  | map kind k v ihk ihv =>
      simp only [isOrdered, Bool.and_eq_true] at ht
      refine compareLists_eq_iff (fun e e' => ?_) x y
      rw [Ordering.then_eq_eq, ihk ht.1, ihv ht.2]
      exact Prod.ext_iff.symm
  | range =>
      refine (Ordering.then_eq_eq).trans ?_
      rw [Int.compare_eq_eq, Int.compare_eq_eq, ← Subtype.ext_iff, ← Subtype.ext_iff]
      exact Prod.ext_iff.symm
  | float32 | float64 | handle => cases ht

/-! ### Keys of the guest -/

theorem keyOf_eq_none_iff {t : HostType} (ht : t.isKey) (v : t.Value) :
    t.keyOf v = .none ↔ t.isNothing v = true := by
  induction t with
  | unit => exact iff_of_true rfl rfl
  | bool | int | bigInt | string | char | bytes | pair | triple =>
      exact iff_of_false Key.noConfusion Bool.false_ne_true
  | option t ih =>
      cases v with
      | none => exact iff_of_true rfl rfl
      | some x => exact ih ht x
  | float32 | float64 | list | map | range | handle => cases ht

/-- Keys are equal to the guest if and only if they collapse to the same. -/
theorem keyOf_eq_iff {t : HostType} (ht : t.isKey) (x y : t.Value) :
    t.keyOf x = t.keyOf y ↔ t.collapse x = t.collapse y := by
  induction t with
  | unit => exact iff_of_true rfl rfl
  | bool =>
      refine Key.number.injEq _ _ |>.to_iff.trans ?_
      have bools : ∀ a b : Bool, (cond a 1 0 : Int) = cond b 1 0 ↔ a = b := by decide
      exact bools x y
  | int k => exact (Key.number.injEq _ _).to_iff.trans Subtype.ext_iff.symm
  | bigInt => exact (Key.number.injEq _ _).to_iff
  | string => exact (Key.text.injEq _ _).to_iff
  | char =>
      refine (Key.text.injEq _ _).to_iff.trans (String.ofList_inj.trans ?_)
      exact List.singleton_inj
  | bytes => exact (Key.bytes.injEq _ _).to_iff
  | option t ih =>
      have none_iff := keyOf_eq_none_iff (t := option t) ht
      by_cases hx : (option t).isNothing x
      · rw [(none_iff x).mpr hx, collapse_of_isNothing hx, eq_comm, none_iff]
        refine ⟨fun hy => (collapse_of_isNothing hy).symm, fun same => ?_⟩
        rw [← isNothing_collapse, ← same]
        rfl
      · by_cases hy : (option t).isNothing y
        · rw [(none_iff y).mpr hy, collapse_of_isNothing hy, none_iff]
          refine ⟨fun hx' => absurd hx' hx, fun same => ?_⟩
          rw [← isNothing_collapse, same]
          rfl
        · obtain ⟨x, rfl, collapsedX⟩ := collapse_of_not_isNothing hx
          obtain ⟨y, rfl, collapsedY⟩ := collapse_of_not_isNothing hy
          rw [collapsedX, collapsedY]
          exact (ih ht x y).trans (Option.some.injEq _ _).symm.to_iff
  | pair a b iha ihb =>
      obtain ⟨x, x'⟩ := x
      obtain ⟨y, y'⟩ := y
      simp only [isKey, Bool.and_eq_true] at ht
      simp only [keyOf, Key.tuple, List.foldr, Key.item.injEq, and_true, iha ht.1, ihb ht.2]
      exact (Prod.mk.injEq _ _ _ _).symm.to_iff
  | triple a b c iha ihb ihc =>
      obtain ⟨x, x', x''⟩ := x
      obtain ⟨y, y', y''⟩ := y
      simp only [isKey, Bool.and_eq_true] at ht
      simp only [keyOf, Key.tuple, List.foldr, Key.item.injEq, and_true, iha ht.1.1, ihb ht.1.2,
        ihc ht.2]
      rw [← Prod.mk.injEq (b.collapse x')]
      exact (Prod.mk.injEq _ _ _ _).symm.to_iff
  | float32 | float64 | list | map | range | handle => cases ht

/-! ### Merging entries -/

section

variable {α β : Type}

/-- Adds entries to others in order. -/
def addEntries (same : α → α → Bool) (acc es : List (α × β)) : List (α × β) :=
  es.foldl (fun acc (x, y) => addEntry same x y acc) acc

theorem addEntry_map {γ δ : Type} {same : α → α → Bool} {same' : γ → γ → Bool} {f : α → γ}
    (g : β → δ) (hf : ∀ a b, same' (f a) (f b) = same a b) (x : α) (y : β) (es : List (α × β)) :
    (addEntry same x y es).map (Prod.map f g) =
      addEntry same' (f x) (g y) (es.map (Prod.map f g)) := by
  induction es with
  | nil => rfl
  | cons e es ih =>
      obtain ⟨x', y'⟩ := e
      rw [addEntry, List.map_cons, Prod.map_apply, addEntry, hf]
      split
      · rfl
      · rw [List.map_cons, ih, Prod.map_apply]

/-- Merging does not depend on what keys and values are, only on which keys are the same. -/
theorem addEntries_map {γ δ : Type} {same : α → α → Bool} {same' : γ → γ → Bool} {f : α → γ}
    (g : β → δ) (hf : ∀ a b, same' (f a) (f b) = same a b) (acc es : List (α × β)) :
    (addEntries same acc es).map (Prod.map f g) =
      addEntries same' (acc.map (Prod.map f g)) (es.map (Prod.map f g)) := by
  induction es generalizing acc with
  | nil => rfl
  | cons e es ih =>
      obtain ⟨x, y⟩ := e
      refine (ih (addEntry same x y acc)).trans ?_
      rw [addEntry_map g hf]
      rfl

variable {same : α → α → Bool} (hs : ∀ a b, same a b = true ↔ a = b)
include hs

theorem addEntry_of_not_mem {x : α} (y : β) {es : List (α × β)} (new : x ∉ es.map Prod.fst) :
    addEntry same x y es = es ++ [(x, y)] := by
  induction es with
  | nil => rfl
  | cons e es ih =>
      obtain ⟨x', y'⟩ := e
      rw [List.map_cons, List.mem_cons, not_or] at new
      rw [addEntry, if_neg fun h => new.1 ((hs _ _).mp h).symm, ih new.2, List.cons_append]

theorem keys_addEntry_of_mem {x : α} (y : β) {es : List (α × β)} (old : x ∈ es.map Prod.fst) :
    (addEntry same x y es).map Prod.fst = es.map Prod.fst := by
  induction es with
  | nil => cases old
  | cons e es ih =>
      obtain ⟨x', y'⟩ := e
      rw [addEntry]
      split
      · rfl
      · rename_i differs
        rw [List.map_cons, List.mem_cons] at old
        have later : x ∈ es.map Prod.fst :=
          old.resolve_left fun h => differs ((hs _ _).mpr h.symm)
        rw [List.map_cons, List.map_cons, ih later]

theorem nodup_addEntry (x : α) (y : β) {es : List (α × β)} (h : (es.map Prod.fst).Nodup) :
    ((addEntry same x y es).map Prod.fst).Nodup := by
  by_cases old : x ∈ es.map Prod.fst
  · rw [keys_addEntry_of_mem hs y old]
    exact h
  · rw [addEntry_of_not_mem hs y old, List.map_append]
    exact List.Nodup.append h (List.nodup_singleton x) (List.disjoint_singleton.mpr old)

/-- No key occurs twice among entries that were merged. -/
theorem nodup_addEntries {acc : List (α × β)} (es : List (α × β)) (h : (acc.map Prod.fst).Nodup) :
    ((addEntries same acc es).map Prod.fst).Nodup := by
  induction es generalizing acc with
  | nil => exact h
  | cons e es ih => exact ih (nodup_addEntry hs e.1 e.2 h)

theorem addEntries_of_nodup {acc es : List (α × β)} (h : ((acc ++ es).map Prod.fst).Nodup) :
    addEntries same acc es = acc ++ es := by
  induction es generalizing acc with
  | nil => exact (List.append_nil acc).symm
  | cons e es ih =>
      obtain ⟨x, y⟩ := e
      have new : x ∉ acc.map Prod.fst := by
        rw [List.map_append, List.map_cons, List.nodup_append] at h
        exact fun old => h.2.2 x old x List.mem_cons_self rfl
      change addEntries same (addEntry same x y acc) es = _
      rw [List.append_cons] at h ⊢
      rw [addEntry_of_not_mem hs y new, ih h]

/-- Merging entries that were merged changes nothing. -/
theorem addEntries_addEntries (es : List (α × β)) :
    addEntries same [] (addEntries same [] es) = addEntries same [] es :=
  addEntries_of_nodup hs (nodup_addEntries hs es List.nodup_nil)

end

/-- The same keys by the order of keys. -/
def sameKey (k : HostType) (x y : k.Value) : Bool := k.compareValues x y == .eq

theorem sameKey_iff_of_isOrdered {k : HostType} (hk : k.isOrdered) (x y : k.Value) :
    k.sameKey x y ↔ x = y :=
  beq_iff_eq.trans (compareValues_eq_iff hk x y)

theorem sameKey_iff {k : HostType} (hk : k.isKey) (x y : k.Value) : k.sameKey x y ↔ x = y :=
  sameKey_iff_of_isOrdered (isOrdered_of_isKey hk) x y

/-- Puts the entries of a map, with every key there once, into the order of its kind. -/
def arrange {β : Type} (kind : MapKind) (k : HostType) (es : List (k.Value × β)) :
    List (k.Value × β) :=
  match kind with
  | .sorted => es.mergeSort fun a b => k.compareValues a.1 b.1 != .gt
  | .hashed | .indexed => es

theorem collectEntries_eq {β : Type} (kind : MapKind) (k : HostType) (es : List (k.Value × β)) :
    collectEntries kind k es = arrange kind k (addEntries k.sameKey [] es) :=
  rfl

theorem arrange_perm {β : Type} (kind : MapKind) (k : HostType) (es : List (k.Value × β)) :
    (arrange kind k es).Perm es := by
  cases kind with
  | sorted => exact List.mergeSort_perm _ _
  | hashed | indexed => exact List.Perm.refl _

theorem arrange_map {β γ : Type} (kind : MapKind) (k : HostType) (g : β → γ)
    (es : List (k.Value × β)) :
    (arrange kind k es).map (Prod.map id g) = arrange kind k (es.map (Prod.map id g)) := by
  cases kind with
  | sorted => exact List.map_mergeSort fun a _ b _ => rfl
  | hashed | indexed => rfl

theorem collectEntries_addEntries (kind : MapKind) {k : HostType} {β : Type} (hk : k.isKey)
    (es : List (k.Value × β)) :
    collectEntries kind k (addEntries k.sameKey [] es) = collectEntries kind k es := by
  rw [collectEntries_eq, addEntries_addEntries (sameKey_iff hk), collectEntries_eq]

theorem collectEntries_map {β γ : Type} (kind : MapKind) (k : HostType) (g : β → γ)
    (es : List (k.Value × β)) :
    (collectEntries kind k es).map (Prod.map id g) =
      collectEntries kind k (es.map (Prod.map id g)) := by
  have keys : ∀ a b, k.sameKey (id a) (id b) = k.sameKey a b := fun _ _ => rfl
  rw [collectEntries_eq, arrange_map, addEntries_map g keys]
  rfl

/-! ### Floating-point numbers -/

section

variable (f f' : UInt32 → UInt32) (g g' : UInt64 → UInt64)

theorem mapFloats_of_isKey {t : HostType} (ht : t.isKey) (v : t.Value) :
    t.mapFloats f g v = v := by
  induction t with
  | unit | bool | int | bigInt | string | char | bytes => rfl
  | float32 | float64 | list | map | range | handle => cases ht
  | option t ih =>
      cases v with
      | none => rfl
      | some x => exact congrArg some (ih ht x)
  | pair a b iha ihb =>
      simp only [isKey, Bool.and_eq_true] at ht
      exact Prod.ext (iha ht.1 _) (ihb ht.2 _)
  | triple a b c iha ihb ihc =>
      simp only [isKey, Bool.and_eq_true] at ht
      exact Prod.ext (iha ht.1.1 _) (Prod.ext (ihb ht.1.2 _) (ihc ht.2 _))

theorem isNothing_mapFloats (t : HostType) (v : t.Value) :
    t.isNothing (t.mapFloats f g v) = t.isNothing v := by
  induction t with
  | option t ih =>
      cases v with
      | none => rfl
      | some x => exact ih x
  | _ => rfl

theorem mapFloats_mapFloats (t : HostType) (v : t.Value) :
    t.mapFloats f g (t.mapFloats f' g' v) = t.mapFloats (f ∘ f') (g ∘ g') v := by
  induction t with
  | option t ih =>
      cases v with
      | none => rfl
      | some x => exact congrArg some (ih x)
  | list t ih => exact List.map_map.trans (List.map_congr_left fun x _ => ih x)
  | pair a b iha ihb => exact Prod.ext (iha _) (ihb _)
  | triple a b c iha ihb ihc => exact Prod.ext (iha _) (Prod.ext (ihb _) (ihc _))
  | map kind k t ihk iht =>
      exact List.map_map.trans (List.map_congr_left fun e _ => Prod.ext (ihk _) (iht _))
  | _ => rfl

theorem somes_mapFloats (t : HostType) (v : t.Value) : t.somes (t.mapFloats f g v) = t.somes v := by
  induction t with
  | option t ih =>
      cases v with
      | none => rfl
      | some x => exact congrArg Nat.succ (ih x)
  | list t ih =>
      exact congrArg List.sum (List.map_map.trans (List.map_congr_left fun x _ => ih x))
  | pair a b iha ihb => exact congrArg₂ _ (iha _) (ihb _)
  | triple a b c iha ihb ihc => exact congrArg₂ _ (congrArg₂ _ (iha _) (ihb _)) (ihc _)
  | map kind k t ihk iht =>
      refine congrArg List.sum (List.map_map.trans (List.map_congr_left fun e _ => ?_))
      exact congrArg₂ _ (ihk _) (iht _)
  | _ => rfl

/-- Floating-point numbers have no part in what a value collapses to. -/
theorem collapse_mapFloats {t : HostType} (ht : t.isPlain) (v : t.Value) :
    t.collapse (t.mapFloats f g v) = t.mapFloats f g (t.collapse v) := by
  induction t with
  | option t ih =>
      cases v with
      | none => rfl
      | some x =>
          have nothing : t.isNothing (t.collapse (t.mapFloats f g x)) =
              t.isNothing (t.collapse x) := by
            rw [ih ht, isNothing_mapFloats]
          change (option t).collapse (some (t.mapFloats f g x)) = _
          by_cases h : t.isNothing (t.collapse x)
          · rw [collapse_some_of_isNothing h, collapse_some_of_isNothing (nothing.trans h)]
            rfl
          · rw [collapse_some h, collapse_some (nothing ▸ h), ih ht]
            rfl
  | list t ih =>
      refine (List.map_map.trans (List.map_congr_left fun x _ => ih ht x)).trans ?_
      exact List.map_map.symm
  | pair a b iha ihb =>
      simp only [isPlain, Bool.and_eq_true] at ht
      exact Prod.ext (iha ht.1 _) (ihb ht.2 _)
  | triple a b c iha ihb ihc =>
      simp only [isPlain, Bool.and_eq_true] at ht
      exact Prod.ext (iha ht.1.1 _) (Prod.ext (ihb ht.1.2 _) (ihc ht.2 _))
  | map kind k t ihk iht =>
      simp only [isPlain, Bool.and_eq_true] at ht
      have parts : Prod.map (k.mapFloats f g) (t.mapFloats f g) = Prod.map id (t.mapFloats f g) :=
        congrArg (Prod.map · _) (funext (mapFloats_of_isKey f g ht.1))
      simp only [collapse, mapFloats]
      rw [parts, collectEntries_map]
      refine congrArg (collectEntries kind k) ?_
      refine (List.map_map.trans (List.map_congr_left fun e _ => ?_)).trans List.map_map.symm
      exact Prod.ext rfl (iht ht.2 e.2)
  | _ => rfl

end

theorem narrow?_settle32 (b : UInt32) : narrow? false (widen b) = some (settle32 b) := by
  obtain ⟨c, narrowed, -⟩ := narrow?_widen b
  rw [settle32, narrowed, Option.getD_some]

theorem quiet32_settle32 (b : UInt32) : quiet32 (settle32 b) = quiet32 b := by
  obtain ⟨c, narrowed, exact, nan⟩ := narrow?_widen b
  have settled : settle32 b = c := Option.some.inj ((narrow?_settle32 b).symm.trans narrowed)
  rw [settled]
  cases h : binary32.isNaN b.toNat with
  | false => rw [exact h]
  | true => rw [quiet32, quiet32, if_pos h, if_pos (nan h)]

/-- The trip of 32-bit numbers through 64 bits changes a value only where it has no number. -/
theorem quiet_settle (t : HostType) (v : t.Value) : t.quiet (t.settle v) = t.quiet v := by
  rw [quiet, settle, mapFloats_mapFloats]
  exact congrArg (fun f => t.mapFloats f quiet64 v) (funext quiet32_settle32)

/-! ### What stays as it is -/

theorem sum_addEntry_le {α β : Type} (same : α → α → Bool) (f : α → Nat) (g : β → Nat) (x : α)
    (y : β) (es : List (α × β)) :
    ((addEntry same x y es).map fun e => f e.1 + g e.2).sum ≤
      (es.map fun e => f e.1 + g e.2).sum + (f x + g y) := by
  induction es with
  | nil => simp [addEntry]
  | cons e es ih =>
      rw [addEntry]
      split
      · simp only [List.map_cons, List.sum_cons]
        omega
      · simp only [List.map_cons, List.sum_cons]
        omega

theorem sum_addEntries_le {α β : Type} (same : α → α → Bool) (f : α → Nat) (g : β → Nat)
    (acc es : List (α × β)) :
    ((addEntries same acc es).map fun e => f e.1 + g e.2).sum ≤
      (acc.map fun e => f e.1 + g e.2).sum + (es.map fun e => f e.1 + g e.2).sum := by
  induction es generalizing acc with
  | nil => exact Nat.le_refl _
  | cons e es ih =>
      have added := sum_addEntry_le same f g e.1 e.2 acc
      have rest := ih (addEntry same e.1 e.2 acc)
      change ((addEntries same (addEntry same e.1 e.2 acc) es).map _).sum ≤ _
      rw [List.map_cons, List.sum_cons]
      omega

theorem sum_collectEntries_le {β : Type} (kind : MapKind) (k : HostType) (f : k.Value → Nat)
    (g : β → Nat) (es : List (k.Value × β)) :
    ((collectEntries kind k es).map fun e => f e.1 + g e.2).sum ≤
      (es.map fun e => f e.1 + g e.2).sum := by
  rw [collectEntries_eq, ((arrange_perm kind k _).map _).sum_eq]
  exact (sum_addEntries_le k.sameKey f g [] es).trans_eq (Nat.zero_add _)

theorem toNat_or_le (p q : Bool) : (p || q).toNat ≤ p.toNat + q.toNat := by
  revert p q
  decide

/-- What holds of each element of a list holds of sums. -/
theorem sum_add_any_le {α : Type} {f g : α → Nat} {p : α → Bool}
    (h : ∀ x, f x + (p x).toNat ≤ g x) (xs : List α) :
    (xs.map f).sum + (xs.any p).toNat ≤ (xs.map g).sum := by
  induction xs with
  | nil => simp
  | cons x xs ih =>
      have here := h x
      have either := toNat_or_le (p x) (xs.any p)
      simp only [List.map_cons, List.sum_cons, List.any_cons]
      omega

/-- Collapsing takes away at least one `some` for a position that is replaced. -/
theorem somes_collapse (t : HostType) (v : t.Value) :
    t.somes (t.collapse v) + (t.hides v).toNat ≤ t.somes v := by
  induction t with
  | option t ih =>
      cases v with
      | none => exact Nat.le_refl 0
      | some x =>
          have inner := ih x
          by_cases nothing : t.isNothing (t.collapse x)
          · rw [collapse_some_of_isNothing nothing]
            exact (Nat.zero_add _).trans_le ((Bool.toNat_le _).trans (Nat.succ_pos _))
          · rw [collapse_some nothing]
            rw [isNothing_collapse, Bool.not_eq_true] at nothing
            change t.somes (t.collapse x) + 1 + (t.isNothing x || t.hides x).toNat ≤ t.somes x + 1
            rw [nothing, Bool.false_or]
            omega
  | list t ih =>
      have sums := sum_add_any_le (p := t.hides) ih v
      exact (congrArg (· + _) (congrArg List.sum List.map_map)).trans_le sums
  | pair a b iha ihb =>
      obtain ⟨x, y⟩ := v
      have first := iha x
      have second := ihb y
      have either := toNat_or_le (a.hides x) (b.hides y)
      change a.somes (a.collapse x) + b.somes (b.collapse y) + (a.hides x || b.hides y).toNat ≤
        a.somes x + b.somes y
      omega
  | triple a b c iha ihb ihc =>
      obtain ⟨x, y, z⟩ := v
      have first := iha x
      have second := ihb y
      have third := ihc z
      have either := toNat_or_le (a.hides x) (b.hides y)
      have any := toNat_or_le (a.hides x || b.hides y) (c.hides z)
      change a.somes (a.collapse x) + b.somes (b.collapse y) + c.somes (c.collapse z) +
        (a.hides x || b.hides y || c.hides z).toNat ≤ a.somes x + b.somes y + c.somes z
      omega
  | map kind k t ihk iht =>
      have entry (e : k.Value × t.Value) : k.somes (k.collapse e.1) + t.somes (t.collapse e.2) +
          (k.hides e.1 || t.hides e.2).toNat ≤ k.somes e.1 + t.somes e.2 := by
        have key := ihk e.1
        have value := iht e.2
        have either := toNat_or_le (k.hides e.1) (t.hides e.2)
        omega
      have fewer := (sum_collectEntries_le kind k k.somes t.somes
        (List.map (Prod.map k.collapse t.collapse) v)).trans_eq (congrArg List.sum List.map_map)
      exact (Nat.add_le_add_right fewer _).trans (sum_add_any_le entry v)
  | _ => exact Nat.le_refl _

/-- A value without a `some` around what stands for `None` only has its maps collected. -/
theorem collapse_of_not_hides {t : HostType} {v : t.Value} (h : t.hides v = false) :
    t.collapse v = t.collected v := by
  induction t with
  | option t ih =>
      cases v with
      | none => rfl
      | some x =>
          obtain ⟨something, inner⟩ := Bool.or_eq_false_iff.mp h
          have same := ih inner
          rw [collapse_some (by rw [isNothing_collapse, something]; exact Bool.false_ne_true), same]
          rfl
  | list t ih =>
      refine List.map_congr_left fun x hx => ih ?_
      exact Bool.eq_false_iff.mpr (List.any_eq_false.mp h x hx)
  | pair a b iha ihb =>
      obtain ⟨first, second⟩ := Bool.or_eq_false_iff.mp h
      exact Prod.ext (iha first) (ihb second)
  | triple a b c iha ihb ihc =>
      obtain ⟨others, third⟩ := Bool.or_eq_false_iff.mp h
      obtain ⟨first, second⟩ := Bool.or_eq_false_iff.mp others
      exact Prod.ext (iha first) (Prod.ext (ihb second) (ihc third))
  | map kind k t ihk iht =>
      refine congrArg (collectEntries kind k) (List.map_congr_left fun e he => ?_)
      obtain ⟨key, value⟩ := Bool.or_eq_false_iff.mp
        (Bool.eq_false_iff.mpr (List.any_eq_false.mp h e he))
      exact Prod.ext (ihk key) (iht value)
  | _ => rfl

/-- **A value collapses to itself if and only if it has no `some` around what stands for `None`**,
whatever its patterns are that are not numbers. -/
theorem quiet_collapse_eq_iff {t : HostType} {v : t.Value} (valid : t.collected v = v) :
    t.quiet (t.collapse v) = t.quiet v ↔ t.hides v = false := by
  constructor
  · intro same
    have fewer := somes_collapse t v
    have equal := congrArg t.somes same
    rw [quiet, somes_mapFloats, somes_mapFloats] at equal
    cases h : t.hides v with
    | false => rfl
    | true =>
        rw [h, Bool.toNat_true] at fewer
        omega
  · intro plain
    rw [collapse_of_not_hides plain, valid]

end HostType

end GuestBridge.Bridge
