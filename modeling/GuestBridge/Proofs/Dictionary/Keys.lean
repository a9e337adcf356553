import GuestBridge.Guest.Protocol
import GuestBridge.Proofs.Dictionary.Picture

/-!
# What Keys Are Read As

The keys of a dictionary are pairwise different to the guest. What the guest takes for one key is more than
what reading takes for one: a truth value is a number, and ranges are equal that have the same elements. So
keys that are read as the same value are one key to the guest, at every depth of nesting
(`Picture.alike_of_read`). Slices are left out: one without a start is read as one that starts at zero.
-/

namespace GuestBridge.Bridge

open Guest (Ref noneRef rangeLength)

/-! ### Objects that can be keys -/

/-- The number that a shape is to the guest; a truth value is zero or one. -/
def Shape.number? : Shape → Option Int
  | .bool b => some (cond b 1 0)
  | .int n => some n
  | _ => Option.none

/-- Whether a shape is that of an object that has no parts and can be hashed. -/
def Shape.isAtom : Shape → Bool
  | .none | .bool _ | .int _ | .float _ | .text _ | .bytes _ | .range _ _ _ | .other => true
  | .sequence _ | .dict _ | .slice _ _ _ => false

/-- Whether a shape tells all by which the guest tells an object from others. -/
def Shape.isPrecise : Shape → Bool
  | .int _ | .text _ => true
  | .none | .bool _ | .float _ | .bytes _ | .range _ _ _ | .other | .sequence _ | .dict _
  | .slice _ _ _ => false

namespace Objects

/-- Objects that can be keys: tuples at every depth, and what has no parts. -/
inductive Solid (o : Objects) : Ref → Prop
  | atom {r : Ref} {x : Shape} : o.shape r = some x → x.isAtom → o.Solid r
  | tuple {r : Ref} {items : List Ref} : o.shape r = some (.sequence items) → (∀ q ∈ items, o.Solid q) →
    o.Solid r

/-- Objects of built-in types that are equal to the guest. -/
inductive Alike (o : Objects) : Ref → Ref → Prop
  | same (r : Ref) : o.Alike r r
  | number {r s : Ref} {x y : Shape} {n : Int} : o.shape r = some x → o.shape s = some y →
    x.number? = some n → y.number? = some n → o.Alike r s
  | text {r s : Ref} {t : Text} : o.shape r = some (.text t) → o.shape s = some (.text t) → o.Alike r s
  | bytes {r s : Ref} {bs : List UInt8} : o.shape r = some (.bytes bs) → o.shape s = some (.bytes bs) →
    o.Alike r s
  | range {r s : Ref} {a b c a' b' c' : Int} : o.shape r = some (.range a b c) →
    o.shape s = some (.range a' b' c') → rangeLength a b c = rangeLength a' b' c' →
    (rangeLength a b c = 0 ∨ a = a' ∧ (rangeLength a b c = 1 ∨ c = c')) → o.Alike r s
  | tuple {r s : Ref} {xs ys : List Ref} : o.shape r = some (.sequence xs) →
    o.shape s = some (.sequence ys) → List.Forall₂ o.Alike xs ys → o.Alike r s

variable {o : Objects} {r : Ref}

theorem Solid.items (h : o.Solid r) {items : List Ref} (shape : o.shape r = some (.sequence items)) :
    ∀ q ∈ items, o.Solid q := by
  cases h with
  | atom known atom =>
      rw [known] at shape
      cases shape
      cases atom
  | tuple known each =>
      rw [known] at shape
      cases shape
      exact each

theorem Solid.ne_dict (h : o.Solid r) (es : List (Nat × Ref × Ref)) : o.shape r ≠ some (.dict es) := by
  intro shape
  cases h with
  | atom known atom =>
      rw [known] at shape
      cases shape
      cases atom
  | tuple known each =>
      rw [known] at shape
      cases shape

theorem Solid.ne_slice (h : o.Solid r) (a b c : Ref) : o.shape r ≠ some (.slice a b c) := by
  intro shape
  cases h with
  | atom known atom =>
      rw [known] at shape
      cases shape
      cases atom
  | tuple known each =>
      rw [known] at shape
      cases shape

/-- Integers and texts that are different are so to the guest. -/
theorem not_alike_of_ne {s : Ref} {x y : Shape} (first : o.shape r = some x) (second : o.shape s = some y)
    (hx : x.isPrecise) (hy : y.isPrecise) (differ : x ≠ y) : ¬ o.Alike r s := by
  intro alike
  cases alike with
  | same => exact differ (Option.some.inj (first.symm.trans second))
  | number known known' number number' =>
      cases first.symm.trans known
      cases second.symm.trans known'
      cases x with
      | int a =>
          cases y with
          | int b => exact differ (congrArg Shape.int (Option.some.inj (number.trans number'.symm)))
          | text t => cases number'
          | _ => cases hy
      | text t => cases number
      | _ => cases hx
  | text known known' =>
      cases first.symm.trans known
      cases second.symm.trans known'
      exact differ rfl
  | bytes known | range known | tuple known =>
      cases first.symm.trans known
      cases hx

end Objects

/-! ### Reading keys -/

section

variable {α β : Type} {f : α → Option β}

theorem mapM_eq_some_iff {xs : List α} {ys : List β} :
    xs.mapM f = some ys ↔ List.Forall₂ (fun x y => f x = some y) xs ys := by
  induction xs generalizing ys with
  | nil => cases ys <;> simp
  | cons x xs ih =>
      rw [List.mapM_cons]
      refine Option.bind_eq_some_iff.trans ⟨?_, ?_⟩
      · rintro ⟨y, first, h⟩
        obtain ⟨ys', rest, h⟩ := Option.bind_eq_some_iff.mp h
        cases h
        exact .cons first (ih.mp rest)
      · rintro (_ | ⟨first, rest⟩)
        exact ⟨_, first, Option.bind_eq_some_iff.mpr ⟨_, ih.mpr rest, rfl⟩⟩

theorem mapM_eq_none_iff {xs : List α} : xs.mapM f = none ↔ ∃ x ∈ xs, f x = none := by
  induction xs with
  | nil => exact ⟨nofun, nofun⟩
  | cons x xs ih =>
      rw [List.mapM_cons, List.exists_mem_cons_iff, ← ih]
      cases f x with
      | none => exact iff_of_true rfl (.inl rfl)
      | some y => cases xs.mapM f <;> simp

theorem exists_left_of_forall₂ {R : α → β → Prop} {xs : List α} {ys : List β} (h : List.Forall₂ R xs ys) :
    ∀ y ∈ ys, ∃ x ∈ xs, R x y := by
  induction h with
  | nil => exact nofun
  | cons first _ ih =>
      refine List.forall_mem_cons.mpr ⟨⟨_, List.mem_cons_self, first⟩, fun y hy => ?_⟩
      obtain ⟨x, hx, related⟩ := ih y hy
      exact ⟨x, List.mem_cons_of_mem _ hx, related⟩

/-- Elements of two lists are related that have something in common. -/
theorem forall₂_of_common {R : α → β → Prop} {S : α → α → Prop} {xs ys : List α} {zs : List β}
    (hx : List.Forall₂ R xs zs) (hy : List.Forall₂ R ys zs)
    (h : ∀ x ∈ xs, ∀ y ∈ ys, ∀ z, R x z → R y z → S x y) : List.Forall₂ S xs ys := by
  induction hx generalizing ys with
  | nil =>
      cases hy
      exact .nil
  | cons first _ ih =>
      cases hy with
      | cons second rest =>
          refine .cons (h _ List.mem_cons_self _ List.mem_cons_self _ first second) (ih rest ?_)
          exact fun x hx y hy => h x (List.mem_cons_of_mem _ hx) y (List.mem_cons_of_mem _ hy)

end

namespace Picture

variable {p : Picture} {cx : Context} {r : Ref}

theorem read_none {t : HostType} (h : p.read cx (.option t) r = some none) : r = noneRef := by
  have h : (if r = noneRef then some none else (p.read cx t r).map some) = some none := h
  by_contra something
  rw [if_neg something] at h
  obtain ⟨x, -, same⟩ := Option.map_eq_some_iff.mp h
  cases same

theorem read_some {t : HostType} {x : t.Value} (h : p.read cx (.option t) r = some (some x)) :
    p.read cx t r = some x := by
  have h : (if r = noneRef then some none else (p.read cx t r).map some) = some (some x) := h
  split at h
  · cases h
  · obtain ⟨y, inner, same⟩ := Option.map_eq_some_iff.mp h
    exact Option.some.inj same ▸ inner

theorem read_list {t : HostType} {xs : List t.Value} (h : p.read cx (.list t) r = some xs) :
    ∃ items, p.shape r = some (.sequence items) ∧
      List.Forall₂ (fun q x => p.read cx t q = some x) items xs := by
  rcases shape : p.shape r with _ | x <;> rw [read, shape] at h
  · cases h
  · cases x with
    | sequence items => exact ⟨items, rfl, mapM_eq_some_iff.mp h⟩
    | _ => cases h

theorem read_pair {a b : HostType} {v : (HostType.pair a b).Value} (h : p.read cx (.pair a b) r = some v) :
    ∃ q q', p.shape r = some (.sequence [q, q']) ∧ p.read cx a q = some v.1 ∧
      p.read cx b q' = some v.2 := by
  rw [read] at h
  split at h
  · next q q' shape =>
      obtain ⟨x, first, h⟩ := Option.bind_eq_some_iff.mp h
      obtain ⟨y, second, h⟩ := Option.map_eq_some_iff.mp h
      subst h
      exact ⟨q, q', shape, first, second⟩
  · cases h

theorem read_triple {a b c : HostType} {v : (HostType.triple a b c).Value}
    (h : p.read cx (.triple a b c) r = some v) :
    ∃ q q' q'', p.shape r = some (.sequence [q, q', q'']) ∧ p.read cx a q = some v.1 ∧
      p.read cx b q' = some v.2.1 ∧ p.read cx c q'' = some v.2.2 := by
  rw [read] at h
  split at h
  · next q q' q'' shape =>
      obtain ⟨x, first, h⟩ := Option.bind_eq_some_iff.mp h
      obtain ⟨rest, h, same⟩ := Option.map_eq_some_iff.mp h
      obtain ⟨y, second, h⟩ := Option.bind_eq_some_iff.mp h
      obtain ⟨z, third, h⟩ := Option.map_eq_some_iff.mp h
      cases h
      cases same
      exact ⟨q, q', q'', shape, first, second, third⟩
  · cases h

theorem read_string {s : String} (h : p.read cx .string r = some s) :
    p.shape r = some (.text (Text.ofString s)) := by
  rcases shape : p.shape r with _ | x <;> rw [read, shape] at h
  · cases h
  · cases x with
    | text t => rw [Text.ofString_of_toString? h]
    | _ => cases h

theorem read_char {c : HostType.char.Value} (h : p.read cx .char r = some c) :
    p.shape r = some (.text (Text.ofString (String.ofList [c]))) := by
  rw [read] at h
  split at h
  · next t shape =>
      split at h
      · next c' only =>
          cases h
          obtain ⟨s, read, chars⟩ := Option.map_eq_some_iff.mp only
          rw [shape, ← chars, String.ofList_toList, Text.ofString_of_toString? read]
      · cases h
  · cases h

theorem read_bool {b : Bool} (h : p.read cx .bool r = some b) : p.shape r = some (.bool b) := by
  simp only [read] at h
  split at h
  · next b' shape => rw [shape, Option.some.inj h]
  · cases h

theorem read_int {k : IntType} {n : (HostType.int k).Value} (h : p.read cx (.int k) r = some n) :
    p.shape r = some (.int n.val) := by
  rw [read] at h
  split at h
  · next m shape =>
      rw [fitting] at h
      split at h
      · cases h
        exact shape
      · cases h
  · cases h

theorem read_bigInt {n : Int} (h : p.read cx .bigInt r = some n) : p.shape r = some (.int n) := by
  simp only [read] at h
  split at h
  · next m shape => rw [shape, Option.some.inj h]
  · cases h

theorem read_bytes {bs : List UInt8} (h : p.read cx .bytes r = some bs) : p.shape r = some (.bytes bs) := by
  simp only [read] at h
  split at h
  · next bs' shape => rw [shape, Option.some.inj h]
  · cases h

theorem fitting_eq_some {k : IntType} {n : Int} {m : (HostType.int k).Value} (h : fitting k n = some m) :
    m.val = n := by
  rw [fitting] at h
  split at h
  · cases h
    rfl
  · cases h

/-- A key is not a slice, so it is a range that is read as one. -/
theorem read_range {v : HostType.range.Value} (solid : p.Solid r) (h : p.read cx .range r = some v) :
    p.shape r = some (.range v.1.val v.2.val 1) := by
  rw [read, range] at h
  split at h
  · next start stop step shape =>
      split at h
      · next a b single first second =>
          cases h
          rw [shape, fitting_eq_some first, fitting_eq_some second, beq_iff_eq.mp single]
      · cases h
  · next start stop step shape => exact absurd shape (solid.ne_slice start stop step)
  · cases h

theorem read_map {kind : MapKind} {k t : HostType} (solid : p.Solid r) :
    p.read cx (.map kind k t) r = none := by
  rw [read]
  split
  · next es shape => exact absurd shape (solid.ne_dict es)
  · rfl

/-- **Keys that are read as the same value are one key to the guest.** -/
theorem alike_of_read {t : HostType} (ht : t.isOrdered) {x : t.Value} {r s : Ref} (hr : p.Solid r)
    (hs : p.Solid s) (h : p.read cx t r = some x) (h' : p.read cx t s = some x) : p.Alike r s := by
  induction t generalizing r s with
  | unit =>
      rw [read] at h h'
      split at h <;> split at h'
      · next one other =>
          rw [one, other]
          exact .same _
      all_goals contradiction
  | bool => exact .number (read_bool h) (read_bool h') rfl rfl
  | int k => exact .number (read_int h) (read_int h') rfl rfl
  | bigInt => exact .number (read_bigInt h) (read_bigInt h') rfl rfl
  | string => exact .text (read_string h) (read_string h')
  | char => exact .text (read_char h) (read_char h')
  | bytes => exact .bytes (read_bytes h) (read_bytes h')
  | option t ih =>
      cases x with
      | none =>
          rw [read_none h, read_none h']
          exact .same noneRef
      | some y => exact ih ht hr hs (read_some h) (read_some h')
  | list t ih =>
      obtain ⟨items, shape, each⟩ := read_list h
      obtain ⟨items', shape', each'⟩ := read_list h'
      refine .tuple shape shape' (forall₂_of_common each each' fun q hq q' hq' y first second => ?_)
      exact ih ht (hr.items shape q hq) (hs.items shape' q' hq') first second
  | pair a b iha ihb =>
      simp only [HostType.isOrdered, Bool.and_eq_true] at ht
      obtain ⟨q, u, shape, first, second⟩ := read_pair h
      obtain ⟨q', u', shape', first', second'⟩ := read_pair h'
      have items := hr.items shape
      have items' := hs.items shape'
      refine .tuple shape shape' (.cons (iha ht.1 (items q (by simp)) (items' q' (by simp)) first first')
        (.cons (ihb ht.2 (items u (by simp)) (items' u' (by simp)) second second') .nil))
  | triple a b c iha ihb ihc =>
      simp only [HostType.isOrdered, Bool.and_eq_true] at ht
      obtain ⟨q, u, z, shape, first, second, third⟩ := read_triple h
      obtain ⟨q', u', z', shape', first', second', third'⟩ := read_triple h'
      have items := hr.items shape
      have items' := hs.items shape'
      refine .tuple shape shape' (.cons (iha ht.1.1 (items q (by simp)) (items' q' (by simp)) first first')
        (.cons (ihb ht.1.2 (items u (by simp)) (items' u' (by simp)) second second')
        (.cons (ihc ht.2 (items z (by simp)) (items' z' (by simp)) third third') .nil)))
  | map kind k t => cases (read_map hr).symm.trans h
  | range => exact .range (read_range hr h) (read_range hs h') rfl (.inr ⟨rfl, .inr rfl⟩)
  | float32 | float64 | handle => cases ht

end Picture

end GuestBridge.Bridge
