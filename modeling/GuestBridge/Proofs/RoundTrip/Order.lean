import GuestBridge.Proofs.RoundTrip.Values

/-!
# The Order of Keys

The order by which sorted maps go is a linear preorder on the values of every type. So the entries of a
sorted map stand in it, and entries that stand in it already are not moved.

## Main results

* `transCmp_compareValues` — the order of values is transitive and goes both ways;
* `arrange_inOrder`, `arrange_of_inOrder` — the entries of a map stand in the order of its kind, and those
  that do stay where they are.
-/

namespace GuestBridge.Bridge.HostType

open Std

/-! ### Comparing -/

section

variable {α β : Type} {f : α → α → Ordering} {g : β → β → Ordering}

theorem compareLists_eq (f : α → α → Ordering) : compareLists f = List.compareLex f := by
  funext xs ys
  induction xs generalizing ys with
  | nil => cases ys <;> rfl
  | cons x xs ih =>
      cases ys with
      | nil => rfl
      | cons y ys => rw [compareLists, List.compareLex_cons_cons, ih]

theorem transCmp_compareLists (h : TransCmp f) : TransCmp (compareLists f) := by
  rw [compareLists_eq]
  infer_instance

/-- Values are compared by what is made of them. -/
theorem transCmp_on (p : α → β) (h : TransCmp g) : TransCmp fun x y => g (p x) (p y) where
  eq_swap := h.eq_swap
  isLE_trans := h.isLE_trans

theorem transCmp_pair (hf : TransCmp f) (hg : TransCmp g) :
    TransCmp fun p q : α × β => (f p.1 q.1).then (g p.2 q.2) := by
  have first : TransCmp fun p q : α × β => f p.1 q.1 := transCmp_on Prod.fst hf
  have second : TransCmp fun p q : α × β => g p.2 q.2 := transCmp_on Prod.snd hg
  exact inferInstanceAs (TransCmp (compareLex _ _))

end

theorem transCmp_option {t : HostType} (h : TransCmp t.compareValues) :
    TransCmp (option t).compareValues where
  eq_swap {x y} := by
    cases x <;> cases y <;> first | rfl | exact h.eq_swap
  isLE_trans {x y z} le le' := by
    cases x with
    | none => cases z <;> rfl
    | some x =>
        cases y with
        | none => cases le
        | some y =>
            cases z with
            | none => cases le'
            | some z => exact h.isLE_trans le le'

/-- **The order of values is linear**, whatever the type. -/
theorem transCmp_compareValues (t : HostType) : TransCmp t.compareValues := by
  induction t with
  | unit => exact { eq_swap := rfl, isLE_trans := fun _ _ => rfl }
  | bool => exact transCmp_on (fun b : Bool => (cond b 1 0 : Nat)) inferInstance
  | int k => exact transCmp_on Subtype.val inferInstance
  | bigInt => exact inferInstanceAs (TransCmp (compare : Int → Int → Ordering))
  | float32 => exact transCmp_on UInt32.toNat inferInstance
  | float64 => exact transCmp_on UInt64.toNat inferInstance
  | string => exact transCmp_on String.toList (transCmp_compareLists (transCmp_on Char.toNat inferInstance))
  | char => exact transCmp_on Char.toNat inferInstance
  | bytes => exact transCmp_compareLists (transCmp_on UInt8.toNat inferInstance)
  | option t ih => exact transCmp_option ih
  | list t ih => exact transCmp_compareLists ih
  | pair a b iha ihb => exact transCmp_pair iha ihb
  | triple a b c iha ihb ihc => exact transCmp_pair iha (transCmp_pair ihb ihc)
  | map kind k v ihk ihv => exact transCmp_compareLists (transCmp_pair ihk ihv)
  | range =>
      exact transCmp_pair (transCmp_on Subtype.val inferInstance) (transCmp_on Subtype.val inferInstance)
  | handle => exact transCmp_on (fun h : Handle => h.object.id) inferInstance

/-! ### Entries in order -/

/-- Entries stand in the order of a kind of maps. -/
def InOrder {β : Type} (kind : MapKind) (k : HostType) (es : List (k.Value × β)) : Prop :=
  kind = .sorted → (es.map Prod.fst).Pairwise fun x y => k.compareValues x y != .gt

theorem arrange_of_inOrder {β : Type} {kind : MapKind} {k : HostType} {es : List (k.Value × β)}
    (h : InOrder kind k es) : arrange kind k es = es := by
  cases kind with
  | sorted => exact List.mergeSort_of_pairwise (List.pairwise_map.mp (h rfl))
  | hashed | indexed => rfl

theorem arrange_inOrder {β : Type} (kind : MapKind) (k : HostType) (es : List (k.Value × β)) :
    InOrder kind k (arrange kind k es) := by
  rintro rfl
  have order := transCmp_compareValues k
  refine List.pairwise_map.mpr (List.pairwise_mergeSort (fun a b c => ?_) (fun a b => ?_) es)
  · have trans := order.isLE_trans (a := a.1) (b := b.1) (c := c.1)
    simpa [Ordering.isLE_iff_ne_gt] using trans
  · have swap := order.eq_swap (a := a.1) (b := b.1)
    rw [swap]
    cases k.compareValues b.1 a.1 <;> rfl

end GuestBridge.Bridge.HostType
