import GuestBridge.Bridge.View

/-!
# A Vector, for Reference

What a sequence of the guest is to the host: elements in a row. An index means a place in it (`place`),
counted from the end if it is negative, and there is a place for an index exactly if it is in range. The
bridge finds that out in machine integers; these are wide enough for every length that a sequence can
have (`resolved_eq`).

An `Order` is what can be asked of such a vector, and `Order.answer` what it replies and what it is
afterwards. An object of a type whose objects cannot be changed refuses to be written to, and has
nothing to add an element with.

## Main statements

* `Sequence.resolved_eq` — the arithmetic of indices does not overflow.
* `Sequence.inRange_eq` — an index passes the check exactly if there is a place for it.
* `Sequence.Order.answer_outOfRange_iff` — for which indices a vector has no answer.
-/

namespace GuestBridge.Bridge

open Guest (Ref)

namespace Sequence

/-! ### Places -/

/-- The place of an index in a sequence of a length: negative ones count from the end. -/
def place (i : Int) (n : Nat) : Option Nat :=
  if 0 ≤ i ∧ i < n then some i.toNat
  else if i < 0 ∧ -n ≤ i then some (n + i).toNat
  else none

variable {i : Int} {n p : Nat}

theorem place_isSome_iff : (place i n).isSome ↔ -n ≤ i ∧ i < n := by
  unfold place
  split
  · simp
    omega
  · split
    · simp
      omega
    · simp
      omega

theorem place_eq_none_iff : place i n = none ↔ ¬ (-n ≤ i ∧ i < n) := by
  rw [← place_isSome_iff, Option.not_isSome_iff_eq_none]

theorem lt_of_place (h : place i n = some p) : p < n := by
  unfold place at h
  split at h
  · cases h
    omega
  · split at h
    · cases h
      omega
    · cases h

/-- An index that counts from the end means the same place as the one that counts from the start. -/
theorem place_from_end (negative : i < 0) (inside : -n ≤ i) : place i n = place (n + i) n := by
  have counted : ¬ (0 ≤ i ∧ i < n) := by omega
  have other : 0 ≤ n + i ∧ n + i < n := by omega
  rw [place, place, if_neg counted, if_pos ⟨negative, inside⟩, if_pos other]

theorem greatest_eq : IntType.isize.greatest = 9223372036854775807 := rfl

theorem least_eq : IntType.isize.least = -9223372036854775808 := rfl

/-- The integer that an index is. -/
def Index.toInt (i : Index) : Int := i.val

theorem Index.le_toInt (i : Index) : -9223372036854775808 ≤ i.toInt := i.property.1

/-- **The arithmetic of indices does not overflow**, whatever the index and for every length up to the
greatest index. -/
theorem resolved_eq (i : Index) (short : n ≤ IntType.isize.greatest) :
    resolved i.toInt n = some (if i.toInt < 0 then i.toInt + n else i.toInt) := by
  have low := i.le_toInt
  rw [greatest_eq] at short
  rw [resolved]
  split
  · have fits : IntType.isize.Contains (i.toInt + n) := by
      rw [IntType.Contains, least_eq, greatest_eq]
      omega
    rw [checkedSum, if_pos fits]
  · rfl

/-- **An index passes the check exactly if there is a place for it.** -/
theorem inRange_eq (i : Index) (short : n ≤ IntType.isize.greatest) :
    inRange i.toInt n = (place i.toInt n).isSome := by
  rw [inRange, resolved_eq i short, Bool.eq_iff_iff, place_isSome_iff]
  simp only [Bool.and_eq_true, decide_eq_true_eq]
  split <;> omega

/-! ### Orders -/

/-- What stands at a place: an object, or a character of a text. -/
inductive Element
  | object (r : Ref)
  | character (point : Nat)
  deriving DecidableEq, Repr

/-- The element that an index means. -/
def at? (xs : List Element) (i : Int) : Option Element := (place i xs.length).bind fun p => xs[p]?

/-- What the guest says where an object cannot be changed: the type of its exception, and the text. -/
structure Complaint where
  typeName : String
  text : String
  deriving DecidableEq, Repr

/-- Whether a sequence can be changed. -/
inductive Kind
  | list
  /-- An object of a type whose objects cannot be changed. -/
  | fixed (type : String)
  deriving DecidableEq, Repr

/-- What is said when an element is to be replaced. -/
def Kind.onSet : Kind → Option Complaint
  | list => none
  | fixed type => some ⟨"TypeError", "'" ++ type ++ "' object does not support item assignment"⟩

/-- What is said when an element is to be added. -/
def Kind.onPush : Kind → Option Complaint
  | list => none
  | fixed type => some ⟨"AttributeError", "'" ++ type ++ "' object has no attribute 'append'"⟩

/-- What can be asked of a vector. -/
inductive Order (α : Type)
  | get (i : Index)
  | set (i : Index) (new : α)
  | push (new : α)
  | length
  | isEmpty

/-- What a vector replies. -/
inductive Reply
  | done
  | element (x : Element)
  | count (n : Nat)
  | truth (b : Bool)
  /-- There is no place for the index in so many elements. -/
  | outOfRange (i : Int) (n : Nat)
  /-- It cannot be changed. -/
  | refused (c : Complaint)
  deriving DecidableEq, Repr

/-- Whether it is what was asked for. -/
def Reply.isGranted : Reply → Bool
  | outOfRange _ _ | refused _ => false
  | done | element _ | count _ | truth _ => true

namespace Order

variable {α β : Type}

/-- The index that is asked for. -/
def index? : Order α → Option Int
  | get i | set i _ => some i.toInt
  | push _ | length | isEmpty => none

/-- There is a place for the index, in so many elements. -/
def InRange (n : Nat) (o : Order α) : Prop := ∀ i, o.index? = some i → -n ≤ i ∧ i < n

/-- Whether only a look is taken. -/
def isLook : Order α → Bool
  | set _ _ | push _ => false
  | get _ | length | isEmpty => true

/-- The new element. -/
def value? : Order α → Option α
  | set _ new | push new => some new
  | get _ | length | isEmpty => none

/-- The new element, if it comes to it that it is sent: not where there is no place for the index, and
not where nothing can be added. -/
def sent? (kind : Kind) (n : Nat) : Order α → Option α
  | set i new => if (place i.toInt n).isSome then some new else none
  | push new => if kind.onPush.isNone then some new else none
  | get _ | length | isEmpty => none

/-- How many elements it adds at most. -/
def added : Order α → Nat
  | push _ => 1
  | get _ | set _ _ | length | isEmpty => 0

/-- The order with another new element. -/
def withValue (v : β) : Order α → Order β
  | get i => get i
  | set i _ => set i v
  | push _ => push v
  | length => length
  | isEmpty => isEmpty

/-- The answer of a vector, and the vector after it. -/
def answer (kind : Kind) (xs : List Element) : Order Ref → Reply × List Element
  | get i => ((at? xs i.toInt).elim (.outOfRange i.toInt xs.length) .element, xs)
  | set i v =>
    match place i.toInt xs.length, kind.onSet with
    | none, _ => (.outOfRange i.toInt xs.length, xs)
    | some _, some c => (.refused c, xs)
    | some p, none => (.done, xs.set p (.object v))
  | push v =>
    match kind.onPush with
    | some c => (.refused c, xs)
    | none => (.done, xs ++ [.object v])
  | length => (.count xs.length, xs)
  | isEmpty => (.truth (xs.length == 0), xs)

end Order

variable {xs : List Element} {kind : Kind}

theorem at?_eq_none_iff : at? xs i = none ↔ ¬ (-xs.length ≤ i ∧ i < xs.length) := by
  rw [← place_eq_none_iff, at?]
  cases placed : place i xs.length with
  | none => simp
  | some p => simp [lt_of_place placed]

theorem at?_isSome_iff : (at? xs i).isSome ↔ -xs.length ≤ i ∧ i < xs.length := by
  rw [← Option.ne_none_iff_isSome, ne_eq, at?_eq_none_iff, Decidable.not_not]

namespace Order

section

variable {α : Type} {o : Order α} {new : α}

theorem value?_of_sent? (sent : o.sent? kind n = some new) : o.value? = some new := by
  cases o with
  | set i new' =>
      rw [sent?] at sent
      split at sent
      · exact sent
      · cases sent
  | push new' =>
      rw [sent?] at sent
      split at sent
      · exact sent
      · cases sent
  | get | length | isEmpty => cases sent

theorem inRange_of_sent? (sent : o.sent? kind n = some new) : o.InRange n := by
  intro k asked
  cases o with
  | set i new' =>
      cases asked
      rw [sent?] at sent
      split at sent
      · rename_i there
        exact place_isSome_iff.mp there
      · cases sent
  | get | length | isEmpty => cases sent
  | push => cases asked

/-- An element is sent to a list, if there is a place for it. -/
theorem sent?_list (value : o.value? = some new) (inside : o.InRange n) : o.sent? .list n = some new := by
  cases o with
  | set i new' =>
      cases value
      rw [sent?, if_pos (place_isSome_iff.mpr (inside i.toInt rfl))]
  | push new' =>
      cases value
      rfl
  | get | length | isEmpty => cases value

end

variable {o : Order Ref} {k : Int}

/-- Where there is no place for the index, that is what is replied. -/
theorem answer_outOfRange (asked : o.index? = some k) (out : ¬ (-xs.length ≤ k ∧ k < xs.length)) :
    (o.answer kind xs).1 = .outOfRange k xs.length := by
  cases o with
  | get i =>
      cases asked
      rw [answer, at?_eq_none_iff.mpr out]
      rfl
  | set i v =>
      cases asked
      rw [answer, place_eq_none_iff.mpr out]
  | push | length | isEmpty => cases asked

theorem inRange_get_iff {i : Index} : (get i : Order Ref).InRange n ↔ (place i.toInt n).isSome := by
  rw [place_isSome_iff, InRange]
  simp [index?]

theorem inRange_set_iff {i : Index} {v : Ref} : (set i v).InRange n ↔ (place i.toInt n).isSome := by
  rw [place_isSome_iff, InRange]
  simp [index?]

/-- **Nothing is there for the indices out of range**, and only for those. -/
theorem answer_outOfRange_iff : (∃ i m, (o.answer kind xs).1 = .outOfRange i m) ↔ ¬ o.InRange xs.length := by
  cases o with
  | get i =>
      rw [inRange_get_iff, place_isSome_iff, ← at?_isSome_iff, answer]
      cases at? xs i.toInt <;> simp
  | set i v =>
      rw [inRange_set_iff, answer]
      cases place i.toInt xs.length <;> cases kind <;> simp [Kind.onSet]
  | push v => cases kind <;> simp [answer, Kind.onPush, InRange, index?]
  | length | isEmpty => simp [answer, InRange, index?]

/-- Every other order is granted, but for those that would change what cannot be changed. -/
theorem answer_isGranted_iff :
    (o.answer kind xs).1.isGranted ↔ (o.value?.isSome → kind = .list) ∧ o.InRange xs.length := by
  cases o with
  | get i =>
      rw [inRange_get_iff, place_isSome_iff, ← at?_isSome_iff, answer]
      cases at? xs i.toInt <;> simp [Reply.isGranted, value?]
  | set i v =>
      rw [inRange_set_iff, answer]
      cases place i.toInt xs.length <;> cases kind <;> simp [Reply.isGranted, value?, Kind.onSet]
  | push v => cases kind <;> simp [answer, Kind.onPush, Reply.isGranted, value?, InRange, index?]
  | length | isEmpty => simp [answer, Reply.isGranted, value?, InRange, index?]

/-- By one order a vector grows by as many elements at most as that one adds. -/
theorem length_answer_le : (o.answer kind xs).2.length ≤ xs.length + o.added := by
  cases o with
  | get | length | isEmpty => exact Nat.le_refl _
  | set i v =>
      rw [answer]
      split
      · exact Nat.le_refl _
      · exact Nat.le_refl _
      · rw [List.length_set]
        exact Nat.le_refl _
  | push v =>
      rw [answer]
      split
      · exact Nat.le_succ _
      · simp [added]

theorem added_withValue {o : Order α} {v : β} : (o.withValue v).added = o.added := by
  cases o <;> rfl

end Order

end Sequence

end GuestBridge.Bridge
