import GuestBridge.Bridge.View

/-!
# An Ordered Map, for Reference

Entries in the order in which their keys came, with a relation that says which objects are one key. A
key that is there keeps its object and its place when it gets a new value; a new one comes last, and so
does one that was taken out before.

An `Order` is what can be asked of such a map, on the host's side with its values and on the map's own
with objects. `Order.answer` is what the map replies and what it is afterwards.

## Main statements

* `Entries.keys_put_of_has`, `Entries.put_of_not_has` — where a key is put.
* `Entries.has_erase` — a key that was taken out is not there, so it comes last when it is put back.
* `Order.answer_absent_iff` — for which keys a map has no answer.
-/

namespace GuestBridge.Bridge

open Guest (Ref)

/-- Keys with their values, in order. -/
abbrev Entries := List (Ref × Ref)

namespace Entries

/-- Whether a key is there. -/
def has (same : Ref → Ref → Bool) (es : Entries) (k : Ref) : Bool := es.any fun e => same e.1 k

/-- The value of a key. -/
def find? (same : Ref → Ref → Bool) (es : Entries) (k : Ref) : Option Ref :=
  (List.find? (fun e => same e.1 k) es).map Prod.snd

/-- Gives a key a value. -/
def put (same : Ref → Ref → Bool) (es : Entries) (k v : Ref) : Entries := HostType.addEntry same k v es

/-- Takes a key out. -/
def erase (same : Ref → Ref → Bool) (es : Entries) (k : Ref) : Entries := es.eraseP fun e => same e.1 k

/-- No two keys are the same. -/
def Distinct (same : Ref → Ref → Bool) (es : Entries) : Prop := es.Pairwise fun e e' => same e.1 e'.1 = false

variable {same same' : Ref → Ref → Bool} {e : Ref × Ref} {es : Entries} {k v : Ref}

theorem has_cons : has same (e :: es) k = (same e.1 k || es.has same k) := List.any_cons

theorem has_eq_false_iff : es.has same k = false ↔ ∀ e ∈ es, same e.1 k = false := by
  rw [has, List.any_eq_false]
  exact forall₂_congr fun e _ => Iff.of_eq (Bool.not_eq_true _)

theorem find?_isSome : (es.find? same k).isSome = es.has same k := by
  rw [find?, Option.isSome_map, Bool.eq_iff_iff, List.find?_isSome, has, List.any_eq_true]

theorem put_cons : put same (e :: es) k v = if same e.1 k then (e.1, v) :: es else e :: es.put same k v := rfl

theorem erase_cons : erase same (e :: es) k = if same e.1 k then es else e :: es.erase same k :=
  (List.eraseP_cons ..).trans (Bool.cond_eq_ite ..)

/-- A key that is there keeps its object and its place. -/
theorem keys_put_of_has (there : es.has same k) : (es.put same k v).map Prod.fst = es.map Prod.fst := by
  induction es with
  | nil => cases there
  | cons e es ih =>
      rw [put_cons]
      rw [has_cons, Bool.or_eq_true] at there
      split
      · rfl
      · rename_i other
        exact congrArg (e.1 :: ·) (ih (there.resolve_left other))

/-- A new key comes last. -/
theorem put_of_not_has (new : es.has same k = false) : es.put same k v = es ++ [(k, v)] := by
  induction es with
  | nil => rfl
  | cons e es ih =>
      rw [has_cons, Bool.or_eq_false_iff] at new
      rw [put_cons, if_neg (Bool.not_eq_true _ ▸ new.1), ih new.2]
      rfl

/-- The keys are those that were there, and perhaps the new one. -/
theorem mem_keys_put {e' : Ref × Ref} (h : e' ∈ es.put same k v) : e'.1 = k ∨ e'.1 ∈ es.map Prod.fst := by
  by_cases there : es.has same k
  · have mem : e'.1 ∈ (es.put same k v).map Prod.fst := List.mem_map_of_mem h
    rw [keys_put_of_has there] at mem
    exact .inr mem
  · rw [put_of_not_has (Bool.not_eq_true _ ▸ there), List.mem_append, List.mem_singleton] at h
    exact h.symm.imp (congrArg Prod.fst) fun old => List.mem_map_of_mem old

theorem distinct_iff_keys : es.Distinct same ↔ (es.map Prod.fst).Pairwise fun k k' => same k k' = false := by
  rw [List.pairwise_map]
  rfl

theorem Distinct.put (h : es.Distinct same) : (es.put same k v).Distinct same := by
  by_cases there : es.has same k
  · rw [distinct_iff_keys, keys_put_of_has there]
    exact distinct_iff_keys.mp h
  · have new := Bool.not_eq_true _ ▸ there
    rw [put_of_not_has new]
    refine List.pairwise_append.mpr ⟨h, List.pairwise_singleton _ _, fun e he e' he' => ?_⟩
    rw [List.mem_singleton.mp he']
    exact has_eq_false_iff.mp new e he

theorem Distinct.erase (h : es.Distinct same) : (es.erase same k).Distinct same :=
  h.sublist List.eraseP_sublist

/-- A key that was taken out is not there any more. -/
theorem has_erase (distinct : es.Distinct same)
    (alike : ∀ e ∈ es, ∀ e' ∈ es, same e.1 k → same e'.1 k → same e.1 e'.1) :
    (es.erase same k).has same k = false := by
  induction es with
  | nil => rfl
  | cons e es ih =>
      obtain ⟨others, distinct⟩ := List.pairwise_cons.mp distinct
      rw [erase_cons]
      split
      · rename_i here
        refine has_eq_false_iff.mpr fun e' he' => Bool.eq_false_iff.mpr fun again => ?_
        have both := alike e List.mem_cons_self e' (List.mem_cons_of_mem e he') here again
        exact Bool.false_ne_true ((others e' he').symm.trans both)
      · rename_i other
        rw [has_cons, Bool.or_eq_false_iff]
        exact ⟨Bool.not_eq_true _ ▸ other,
          ih distinct fun a ha b hb => alike a (List.mem_cons_of_mem e ha) b (List.mem_cons_of_mem e hb)⟩

/-! ### Other ways to tell keys apart -/

section

variable (agree : ∀ e ∈ es, same' e.1 k = same e.1 k)
include agree

theorem has_congr : es.has same' k = es.has same k := by
  induction es with
  | nil => rfl
  | cons e es ih =>
      obtain ⟨here, agree⟩ := List.forall_mem_cons.mp agree
      rw [has_cons, has_cons, here, ih agree]

theorem find?_congr : es.find? same' k = es.find? same k := by
  induction es with
  | nil => rfl
  | cons e es ih =>
      obtain ⟨here, agree⟩ := List.forall_mem_cons.mp agree
      simp only [find?, List.find?_cons, here] at ih ⊢
      split
      · rfl
      · exact ih agree

theorem put_congr : es.put same' k v = es.put same k v := by
  induction es with
  | nil => rfl
  | cons e es ih =>
      obtain ⟨here, agree⟩ := List.forall_mem_cons.mp agree
      rw [put_cons, put_cons, here, ih agree]

theorem erase_congr : es.erase same' k = es.erase same k := by
  induction es with
  | nil => rfl
  | cons e es ih =>
      obtain ⟨here, agree⟩ := List.forall_mem_cons.mp agree
      rw [erase_cons, erase_cons, here, ih agree]

end

end Entries

/-! ### Orders -/

/-- What can be asked of a map. -/
inductive Order (α : Type)
  | set (key new : α)
  | remove (key : α)
  | get (key : α)
  | contains (key : α)
  | keys
  | length
  | isEmpty

/-- What a map replies. -/
inductive Reply
  | done
  | value (v : Ref)
  | truth (b : Bool)
  | keys (ks : List Ref)
  | count (n : Nat)
  /-- There is no such key. -/
  | absent
  /-- An object of this type cannot be a key. -/
  | refused (type : String)
  deriving DecidableEq, Repr

namespace Order

variable {α : Type}

/-- The key that is asked for. -/
def key? : Order α → Option α
  | set k _ | remove k | get k | contains k => some k
  | keys | length | isEmpty => none

/-- Whether only a look is taken. -/
def isLook : Order α → Bool
  | set _ _ | remove _ => false
  | get _ | contains _ | keys | length | isEmpty => true

/-- Whether a key is asked for that has to be there. -/
def isDemand : Order α → Bool
  | remove _ | get _ => true
  | set _ _ | contains _ | keys | length | isEmpty => false

/-- The answer of a map, and the map after it. -/
def answer (same : Ref → Ref → Bool) (es : Entries) : Order Ref → Reply × Entries
  | set k v => (.done, es.put same k v)
  | remove k => if es.has same k then (.done, es.erase same k) else (.absent, es)
  | get k => ((es.find? same k).elim .absent .value, es)
  | contains k => (.truth (es.has same k), es)
  | keys => (.keys (es.map Prod.fst), es)
  | length => (.count es.length, es)
  | isEmpty => (.truth (es.length == 0), es)

/-- The same where the key may be one that is refused for a type. -/
def reply (same : Ref → Ref → Bool) (es : Entries) (refusal : Option String) (o : Order Ref) : Reply × Entries :=
  match refusal with
  | some type => (.refused type, es)
  | none => o.answer same es

variable {same same' : Ref → Ref → Bool} {es : Entries} {o : Order Ref}

/-- There is no answer for a key that is not there. -/
theorem answer_absent_iff :
    (o.answer same es).1 = .absent ↔ o.isDemand ∧ ∀ k, o.key? = some k → es.has same k = false := by
  have key (k : Ref) : (∀ k', some k = some k' → es.has same k' = false) ↔ es.has same k = false :=
    ⟨fun h => h k rfl, fun h k' same => Option.some.inj same ▸ h⟩
  cases o with
  | remove k =>
      rw [key? , key, answer]
      cases there : es.has same k <;> simp [isDemand]
  | get k =>
      rw [key?, key, answer, ← Entries.find?_isSome]
      cases es.find? same k <;> simp [isDemand]
  | set | contains | keys | length | isEmpty => exact ⟨nofun, nofun⟩

/-- A key that has to be there is not exactly where the answer is that it is not contained. -/
theorem absent_iff_not_has {refusal : Option String} {k : Ref} (demand : o.isDemand) (asked : o.key? = some k) :
    (o.reply same es refusal).1 = .absent ↔ ((contains k).reply same es refusal).1 = .truth false := by
  cases refusal with
  | some type => exact ⟨nofun, nofun⟩
  | none =>
      rw [reply, answer_absent_iff, asked]
      simp [reply, answer, demand]

/-- It does not matter by what keys are told apart, as long as the one that is asked for is told apart
alike. -/
theorem answer_congr (agree : ∀ k, o.key? = some k → ∀ e ∈ es, same' e.1 k = same e.1 k) :
    o.answer same' es = o.answer same es := by
  cases o with
  | set k v => rw [answer, answer, Entries.put_congr (agree k rfl)]
  | remove k => rw [answer, answer, Entries.has_congr (agree k rfl), Entries.erase_congr (agree k rfl)]
  | get k => rw [answer, answer, Entries.find?_congr (agree k rfl)]
  | contains k => rw [answer, answer, Entries.has_congr (agree k rfl)]
  | keys | length | isEmpty => rfl

end Order

end GuestBridge.Bridge
