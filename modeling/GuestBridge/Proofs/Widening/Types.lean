import GuestBridge.Proofs.RoundTrip.Values
import Mathlib.Data.Prod.Basic

/-!
# Widening of Types

A type of the host widens to another if every value of the first has its place among those of the second: an
integer type to a larger one, a character to the text of that one character, a type to the optional values of
it, a tuple of equal parts to a list, and parts of composite types to wider ones. `Widening.embed` puts a
value into its place.

## Main results

* `Widening.embed_injective` — no value is lost;
* `Widening.compareValues_embed` — the order of keys is the same after as before;
* `Widening.handles_embed` — and so are the handles in a value;
* `Widening.collectEntries_embed` — entries of a map are collected alike.
-/

namespace GuestBridge.Bridge

namespace HostType

/-- Whether the guest's `None` is read as a value of the type. -/
def readsNone : HostType → Bool
  | unit | option _ | handle => true
  | bool | int _ | bigInt | float32 | float64 | string | char | bytes | list _ | pair _ _ | triple _ _ _
  | map _ _ _ | range => false

end HostType

/-- The ways in which a type widens to another. -/
inductive Widening : HostType → HostType → Type
  | refl (t : HostType) : Widening t t
  | trans {t t' t'' : HostType} : Widening t t' → Widening t' t'' → Widening t t''
  /-- An integer type becomes one whose range contains its own. -/
  | int {k k' : IntType} (within : ∀ n, k.Contains n → k'.Contains n) : Widening (.int k) (.int k')
  | bigInt (k : IntType) : Widening (.int k) .bigInt
  | char : Widening .char .string
  /-- What is there becomes optional. -/
  | optional {t : HostType} (something : t.readsNone = false) : Widening t (.option t)
  | couple (a : HostType) : Widening (.pair a a) (.list a)
  | three (a : HostType) : Widening (.triple a a a) (.list a)
  | option {t t' : HostType} : Widening t t' → Widening (.option t) (.option t')
  | list {t t' : HostType} : Widening t t' → Widening (.list t) (.list t')
  | pair {a a' b b' : HostType} : Widening a a' → Widening b b' → Widening (.pair a b) (.pair a' b')
  | triple {a a' b b' c c' : HostType} : Widening a a' → Widening b b' → Widening c c' →
    Widening (.triple a b c) (.triple a' b' c')
  | map (kind : MapKind) {k k' v v' : HostType} : Widening k k' → Widening v v' →
    Widening (.map kind k v) (.map kind k' v')

namespace Widening

open HostType

/-- The place of a value in the wider type. -/
def embed {t t' : HostType} : Widening t t' → t.Value → t'.Value
  | refl _, v => v
  | trans first second, v => second.embed (first.embed v)
  | int within, n => ⟨n.val, within n.val n.property⟩
  | bigInt _, n => n.val
  | char, c => String.ofList [c]
  | optional _, v => some v
  | couple _, (x, y) => [x, y]
  | three _, (x, y, z) => [x, y, z]
  | option part, v => Option.map part.embed v
  | list part, xs => List.map part.embed xs
  | pair first second, (x, y) => (first.embed x, second.embed y)
  | triple first second third, (x, y, z) => (first.embed x, second.embed y, third.embed z)
  | map _ key value, es => List.map (Prod.map key.embed value.embed) es

/-- **No two values have the same place** in the wider type. -/
theorem embed_injective {t t' : HostType} (e : Widening t t') : Function.Injective e.embed := by
  induction e with
  | refl => exact fun _ _ => id
  | trans first second ih ih' => exact ih'.comp ih
  | int => exact fun x y same => Subtype.ext (Subtype.mk.inj same)
  | bigInt => exact fun x y same => Subtype.ext same
  | char => exact fun x y same => (List.cons.inj (String.ofList_inj.mp same)).1
  | optional => exact Option.some_injective _
  | couple => exact fun x y same => Prod.ext (List.cons.inj same).1 (List.cons.inj (List.cons.inj same).2).1
  | three =>
      intro x y same
      obtain ⟨first, others⟩ := List.cons.inj same
      obtain ⟨second, third⟩ := List.cons.inj others
      exact Prod.ext first (Prod.ext second (List.cons.inj third).1)
  | option part ih => exact Option.map_injective ih
  | list part ih => exact List.map_injective_iff.mpr ih
  | pair first second ih ih' =>
      intro x y same
      exact Prod.ext (ih (congrArg Prod.fst same)) (ih' (congrArg Prod.snd same))
  | triple first second third ih ih' ih'' =>
      intro x y same
      have others := congrArg Prod.snd same
      exact Prod.ext (ih (congrArg Prod.fst same))
        (Prod.ext (ih' (congrArg Prod.fst others)) (ih'' (congrArg Prod.snd others)))
  | map kind key value ih ih' => exact List.map_injective_iff.mpr (ih.prodMap ih')

/-! ### The order of keys -/

theorem compareLists_map {α β : Type} {f : α → α → Ordering} {g : β → β → Ordering} {e : α → β}
    (h : ∀ x y, g (e x) (e y) = f x y) (xs ys : List α) :
    compareLists g (xs.map e) (ys.map e) = compareLists f xs ys := by
  induction xs generalizing ys with
  | nil => cases ys <;> rfl
  | cons x xs ih =>
      cases ys with
      | nil => rfl
      | cons y ys => rw [List.map_cons, List.map_cons, compareLists, compareLists, h, ih]

/-- **Values are in the same order** in the wider type. -/
theorem compareValues_embed {t t' : HostType} (e : Widening t t') (x y : t.Value) :
    t'.compareValues (e.embed x) (e.embed y) = t.compareValues x y := by
  induction e with
  | refl | int | bigInt | optional => rfl
  | trans first second ih ih' => exact (ih' _ _).trans (ih x y)
  | char =>
      have single (c : Char) : (String.ofList [c]).toList = [c] := String.toList_ofList
      exact (congrArg₂ (compareLists _) (single x) (single y)).trans Ordering.then_eq
  | couple a =>
      obtain ⟨x, x'⟩ := x
      obtain ⟨y, y'⟩ := y
      exact congrArg (Ordering.then _) Ordering.then_eq
  | three a =>
      obtain ⟨x, x', x''⟩ := x
      obtain ⟨y, y', y''⟩ := y
      exact congrArg (Ordering.then _) (congrArg (Ordering.then _) Ordering.then_eq)
  | option part ih =>
      match x, y with
      | none, none | none, some _ | some _, none => rfl
      | some x, some y => exact ih x y
  | list part ih => exact compareLists_map ih x y
  | pair first second ih ih' =>
      obtain ⟨x, x'⟩ := x
      obtain ⟨y, y'⟩ := y
      exact congrArg₂ Ordering.then (ih x y) (ih' x' y')
  | triple first second third ih ih' ih'' =>
      obtain ⟨x, x', x''⟩ := x
      obtain ⟨y, y', y''⟩ := y
      exact congrArg₂ Ordering.then (ih x y) (congrArg₂ Ordering.then (ih' x' y') (ih'' x'' y''))
  | map kind key value ih ih' =>
      refine compareLists_map (fun e e' => ?_) x y
      exact congrArg₂ Ordering.then (ih e.1 e'.1) (ih' e.2 e'.2)

theorem sameKey_embed {k k' : HostType} (e : Widening k k') (x y : k.Value) :
    k'.sameKey (e.embed x) (e.embed y) = k.sameKey x y :=
  congrArg (· == .eq) (e.compareValues_embed x y)

/-! ### Handles -/

/-- **A value has the same handles** in the wider type. -/
theorem handles_embed {t t' : HostType} (e : Widening t t') (x : t.Value) :
    t'.handles (e.embed x) = t.handles x := by
  induction e with
  | refl | int | bigInt | char | optional => rfl
  | trans first second ih ih' => exact (ih' _).trans (ih x)
  | couple a =>
      obtain ⟨x, x'⟩ := x
      exact congrArg (a.handles x ++ ·) (List.append_nil _)
  | three a =>
      obtain ⟨x, x', x''⟩ := x
      change a.handles x ++ (a.handles x' ++ (a.handles x'' ++ [])) =
        a.handles x ++ a.handles x' ++ a.handles x''
      rw [List.append_nil, List.append_assoc]
  | option part ih =>
      cases x with
      | none => rfl
      | some x => exact ih x
  | list part ih =>
      exact (List.flatMap_map ..).trans (congrArg (List.flatMap · x) (funext ih))
  | pair first second ih ih' =>
      obtain ⟨x, x'⟩ := x
      exact congrArg₂ (· ++ ·) (ih x) (ih' x')
  | triple first second third ih ih' ih'' =>
      obtain ⟨x, x', x''⟩ := x
      exact congrArg₂ (· ++ ·) (congrArg₂ (· ++ ·) (ih x) (ih' x')) (ih'' x'')
  | map kind key value ih ih' =>
      refine (List.flatMap_map ..).trans (congrArg (List.flatMap · x) (funext fun e => ?_))
      exact congrArg₂ (· ++ ·) (ih e.1) (ih' e.2)

/-! ### Maps -/

/-- **The entries of a map are collected alike** in the wider type. -/
theorem collectEntries_embed {k k' v v' : HostType} (kind : MapKind) (key : Widening k k')
    (value : Widening v v') (es : List (k.Value × v.Value)) :
    collectEntries kind k' (es.map (Prod.map key.embed value.embed)) =
      (collectEntries kind k es).map (Prod.map key.embed value.embed) := by
  rw [collectEntries_eq, collectEntries_eq]
  have merged := addEntries_map value.embed key.sameKey_embed [] es
  rw [List.map_nil] at merged
  rw [← merged]
  cases kind with
  | sorted =>
      refine (List.map_mergeSort fun a _ b _ => ?_).symm
      exact congrArg (· != .gt) (key.compareValues_embed a.1 b.1).symm
  | hashed | indexed => rfl

end Widening

end GuestBridge.Bridge
