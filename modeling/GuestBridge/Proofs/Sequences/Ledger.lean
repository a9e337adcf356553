import GuestBridge.Proofs.Sequences.Drawers

/-!
# A Sequence Is a Vector

The host gives one order after the other to a sequence over a row of elements (`Sequence.Deeds`), and
between two of them anything may happen by which nothing is forgotten. A `Sequence.Ledger` keeps what
the vector for reference does with the same orders.

Which orders succeed can be told from the length that the sequence has at the time
(`Sequence.Deed.Checked`): those for which there is a place, unless they would change what cannot be
changed, or with a value that cannot be sent.

## Main statements

* `Sequence.Deed.follows` — one order.
* `Sequence.checked_vector` — a run of orders, over a row that was there before.
-/

namespace GuestBridge.Bridge

open Guest (Ref noneRef trueRef falseRef)

namespace Sequence

variable {σ : Type} [GuestState σ] {V : Catalogue σ} {cx : Context} {q : Sequence} {kind : Kind}
  {xs xs' : List Element}

/-- An order that can succeed: a new element is given to a list, and can be sent. -/
def Order.Admissible (kind : Kind) (o : Order HostValue) : Prop :=
  ∀ new, o.value? = some new → kind = .list ∧ new.type.refusal new.value = none

/-! ### What the host is told -/

section

variable {reply : Reply} {r : Ref} {o : Objects} {result : Except (Stop Error) Answer}

theorem Reply.Told.ok_iff (told : reply.Told cx r o result) : (∃ a, result = .ok a) ↔ reply.isGranted := by
  cases reply with
  | done | count | truth =>
      cases told
      exact ⟨fun _ => rfl, fun _ => ⟨_, rfl⟩⟩
  | element x =>
      obtain ⟨e, -, rfl⟩ := told
      exact ⟨fun _ => rfl, fun _ => ⟨_, rfl⟩⟩
  | outOfRange i n =>
      cases told
      exact ⟨nofun, nofun⟩
  | refused c =>
      obtain ⟨e, rfl⟩ := told
      exact ⟨nofun, nofun⟩

/-- An index error is told only of an index out of range. -/
theorem Reply.Told.outOfRange (told : reply.Told cx r o result) {c : Handle} {key : String} {d : Diagnostic}
    (failed : result = .error (.failed (.indexError c key d))) : ∃ i n, reply = .outOfRange i n := by
  cases reply with
  | done | count | truth => cases told.symm.trans failed
  | element x =>
      obtain ⟨e, -, same⟩ := told
      cases same.symm.trans failed
  | outOfRange i n => exact ⟨i, n, rfl⟩
  | refused c =>
      obtain ⟨e, same⟩ := told
      cases same.symm.trans failed

end

/-- What is said of the result of an order, by the length that the sequence has at the time. -/
structure Checked (cx : Context) (kind : Kind) (r : Ref) (n : Nat) (o : Order HostValue)
    (result : Except (Stop Error) Answer) : Prop where
  /-- It is the place of the index that decides, where a new element is one that can be sent to a list. -/
  succeeds : (∃ a, result = .ok a) ↔ o.Admissible kind ∧ o.InRange n
  /-- The error for an index out of range names the index and the length. -/
  outOfRange {i : Int} : o.index? = some i → ¬ (-n ≤ i ∧ i < n) →
    result = .error (.failed (indexError cx r i n))
  onlyThen {c : Handle} {key : String} {d : Diagnostic} :
    result = .error (.failed (.indexError c key d)) → ¬ o.InRange n

namespace Order

variable {w : World σ} {o : Order HostValue} {result : Except (Stop Error) Answer} {s' : σ} {r v : Ref}

theorem index?_withValue : (o.withValue v).index? = o.index? := by
  cases o <;> rfl

theorem value?_withValue : (o.withValue v).value?.isSome = o.value?.isSome := by
  cases o <;> rfl

theorem inRange_withValue {n : Nat} : (o.withValue v).InRange n ↔ o.InRange n := by
  rw [InRange, index?_withValue, InRange]

/-- **Which orders succeed** can be told from the length. -/
theorem Follows.checked (follows : o.Follows V cx kind r xs w result s' xs') :
    Checked cx kind r xs.length o result := by
  cases follows with
  | @unsent new type e sends refused told unchanged =>
      have value := value?_of_sent? sends
      have inside := inRange_of_sent? sends
      refine ⟨⟨?_, ?_⟩, fun asked out => absurd (inside _ asked) out, ?_⟩
      · rintro ⟨a, ok⟩
        cases ok.symm.trans told
      · rintro ⟨admissible, -⟩
        cases refused.symm.trans (admissible new value).2
      · intro c key d failed
        cases failed.symm.trans told
  | @served v sent told replaces unchanged =>
      refine ⟨?_, fun asked out => ?_, fun failed => ?_⟩
      · rw [told.ok_iff, answer_isGranted_iff, value?_withValue, inRange_withValue]
        refine and_congr_left fun inside => ⟨fun list new value => ?_, fun admissible given => ?_⟩
        · obtain rfl := list (Option.isSome_iff_exists.mpr ⟨new, value⟩)
          exact ⟨rfl, (sent new (sent?_list value inside)).1⟩
        · obtain ⟨new, value⟩ := Option.isSome_iff_exists.mp given
          exact (admissible new value).1
      · rw [answer_outOfRange (index?_withValue.trans asked) out] at told
        exact told
      · intro inside
        exact answer_outOfRange_iff.mp (told.outOfRange failed) (inRange_withValue.mpr inside)

/-- What only looks, or fails, changes nothing. -/
theorem Follows.unchanged (follows : o.Follows V cx kind r xs w result s' xs')
    (idle : o.isLook ∨ ∃ e, result = .error e) : V.Keeps w.guest s' := by
  cases follows with
  | unsent sends refused told unchanged => exact unchanged
  | served sent told replaces unchanged => exact unchanged idle

theorem Follows.replaces (follows : o.Follows V cx kind r xs w result s' xs')
    (holds : (V.objects w.guest).Holds r xs) : V.Replaces r xs' w.guest s' := by
  cases follows with
  | unsent sends refused told unchanged => exact unchanged.replaces holds
  | served sent told replaces unchanged => exact replaces

theorem Follows.length_le (follows : o.Follows V cx kind r xs w result s' xs') :
    xs'.length ≤ xs.length + o.added := by
  cases follows with
  | unsent sends refused told unchanged => exact Nat.le_add_right _ _
  | @served v sent told replaces unchanged =>
      rw [← added_withValue (v := v)]
      exact length_answer_le

end Order

/-! ### A run of orders -/

/-- An order that was carried out: in which world it began, what the host was told, and the world after
it. -/
structure Deed (σ : Type) where
  order : Order HostValue
  start : World σ
  result : Except (Stop Error) Answer
  finish : World σ

/-- It went as it says. -/
def Deed.Happens (cx : Context) (q : Sequence) (t : Deed σ) : Prop :=
  (t.order.perform cx q).run t.start = (t.result, t.finish)

/-- Orders one after the other. Between two of them nothing is forgotten. -/
inductive Deeds (V : Catalogue σ) (cx : Context) (q : Sequence) : σ → List (Deed σ) → Prop
  | nil (s : σ) : Deeds V cx q s []
  | cons {s : σ} {t : Deed σ} {ts : List (Deed σ)} (meanwhile : V.Keeps s t.start.guest)
      (possible : ∀ new, t.order.value? = some new → new.type.Possible cx new.value)
      (happens : t.Happens cx q) (rest : Deeds V cx q t.finish.guest ts) : Deeds V cx q s (t :: ts)

/-- The reference before and after a run of orders. -/
inductive Ledger (V : Catalogue σ) (cx : Context) (kind : Kind) (r : Ref) :
    List Element → List (Deed σ) → List Element → Prop
  | nil (xs : List Element) : Ledger V cx kind r xs [] xs
  | cons {xs xs' xs'' : List Element} {t : Deed σ} {ts : List (Deed σ)}
      (follows : t.order.Follows V cx kind r xs t.start t.result t.finish.guest xs')
      (rest : Ledger V cx kind r xs' ts xs'') : Ledger V cx kind r xs (t :: ts) xs''

/-- How many elements a run of orders adds at most. -/
def added (ts : List (Deed σ)) : Nat := (ts.map fun t => t.order.added).sum

/-- A sequence of the session over a row of which the elements are known. -/
structure Over (V : Catalogue σ) (cx : Context) (kind : Kind) (q : Sequence) (xs : List Element) (s : σ) :
    Prop where
  own : q.handle.session = cx.session
  row : V.Row kind q.handle.object
  ready : V.Ready s
  holds : (V.objects s).Holds q.handle.object xs

theorem Over.later {s s' : σ} (h : q.Over V cx kind xs s) (keeps : V.Keeps s s') : q.Over V cx kind xs s' :=
  ⟨h.own, h.row, keeps.ready, h.holds.later keeps⟩

/-- **One order**: the reference follows it, and the sequence has the length of the reference. -/
theorem Deed.follows (laws : V.Laws) {t : Deed σ} (spans : q.Over V cx kind xs t.start.guest)
    (possible : ∀ new, t.order.value? = some new → new.type.Possible cx new.value) (happens : t.Happens cx q)
    (room : (xs.length + t.order.added : Nat) ≤ IntType.isize.greatest) :
    ∃ xs', t.order.Follows V cx kind q.handle.object xs t.start t.result t.finish.guest xs' ∧
      q.Over V cx kind xs' t.finish.guest := by
  obtain ⟨result, w', xs', run, follows⟩ :=
    Order.follows laws spans.row spans.ready spans.holds spans.own t.order possible room
  have same := happens.symm.trans run
  rw [Prod.mk.injEq] at same
  obtain ⟨told, after⟩ := same
  subst after
  rw [← told] at follows
  have replaces := follows.replaces spans.holds
  exact ⟨xs', follows, spans.own, spans.row, replaces.ready, replaces.holds⟩

theorem Over.run_length {w : World σ} (spans : q.Over V cx kind xs w.guest) :
    ∃ w', (q.length cx).run w = (.ok xs.length, w') := by
  obtain ⟨_, w', counted, rfl, -⟩ := gives_length cx spans.row spans.ready spans.holds
  rw [← length_own spans.own] at counted
  exact ⟨w', counted⟩

/-- A run of orders to a sequence goes as with a vector. -/
structure Orderly (V : Catalogue σ) (cx : Context) (kind : Kind) (q : Sequence) (xs : List Element)
    (ts : List (Deed σ)) : Prop where
  /-- Every answer is that of the reference, and the object holds what the reference does. -/
  ledger : ∃ xs', Ledger V cx kind q.handle.object xs ts xs'
  /-- Which orders succeed, and which are out of range, can be told from the length at the time. -/
  checked : ∀ t ∈ ts, ∃ n w, (q.length cx).run t.start = (.ok n, w) ∧
    Checked cx kind q.handle.object n t.order t.result
  /-- What only looks, or fails, changes nothing. -/
  unchanged : ∀ t ∈ ts, t.order.isLook ∨ (∃ e, t.result = .error e) → V.Keeps t.start.guest t.finish.guest

/-- A run over a row goes as with a vector. -/
theorem Deeds.orderly (laws : V.Laws) {s : σ} {ts : List (Deed σ)} (deeds : Deeds V cx q s ts)
    (spans : q.Over V cx kind xs s) (room : (xs.length + added ts : Nat) ≤ IntType.isize.greatest) :
    q.Orderly V cx kind xs ts := by
  induction deeds generalizing xs with
  | nil s => exact ⟨⟨xs, .nil xs⟩, List.forall_mem_nil _, List.forall_mem_nil _⟩
  | @cons s t ts meanwhile possible happens rest ih =>
      have spans := spans.later meanwhile
      have total : added (t :: ts) = t.order.added + added ts := rfl
      have here : (xs.length + t.order.added : Nat) ≤ IntType.isize.greatest := by omega
      obtain ⟨xs', follows, next⟩ := Deed.follows laws spans possible happens here
      have grown := follows.length_le
      have there : (xs'.length + added ts : Nat) ≤ IntType.isize.greatest := by omega
      obtain ⟨⟨xs'', ledger⟩, checked, unchanged⟩ := ih next there
      obtain ⟨w, counted⟩ := spans.run_length
      exact ⟨⟨xs'', .cons follows ledger⟩,
        List.forall_mem_cons.mpr ⟨⟨xs.length, w, counted, follows.checked⟩, checked⟩,
        List.forall_mem_cons.mpr ⟨follows.unchanged, unchanged⟩⟩

/-- **A sequence over a row of elements is a vector whose indices are checked**: by arithmetic that does
not overflow, and whatever orders it is given as long as there are indices for what they add. -/
theorem checked_vector (laws : V.Laws) (cx : Context) (kind : Kind) :
    (∀ (i : Index) (n : Nat), n ≤ IntType.isize.greatest →
      resolved i.toInt n = some (if i.toInt < 0 then i.toInt + n else i.toInt)) ∧
    ∀ (q : Sequence) (xs : List Element) (s : σ) (ts : List (Deed σ)), q.Over V cx kind xs s →
      (xs.length + added ts : Nat) ≤ IntType.isize.greatest → Deeds V cx q s ts → q.Orderly V cx kind xs ts :=
  ⟨fun i _ short => resolved_eq i short, fun _ _ _ _ spans room deeds => deeds.orderly laws spans room⟩

/-! ### A list, a tuple and a string -/

/-- The orders that are carried out if nothing happens between them. -/
def Deed.carryOut (cx : Context) (q : Sequence) : List (Order HostValue) → World σ → List (Deed σ)
  | [], _ => []
  | o :: os, w =>
    let p := (o.perform cx q).run w
    ⟨o, w, p.1, p.2⟩ :: carryOut cx q os p.2

theorem Deed.carryOut_cons {o : Order HostValue} {os : List (Order HostValue)} {w w' : World σ}
    {result : Except (Stop Error) Answer} (ran : (o.perform cx q).run w = (result, w')) :
    carryOut cx q (o :: os) w = ⟨o, w, result, w'⟩ :: carryOut cx q os w' := by
  rw [carryOut, ran]

theorem Deeds.of_carryOut (laws : V.Laws) (os : List (Order HostValue))
    (possible : ∀ o ∈ os, ∀ new, o.value? = some new → new.type.Possible cx new.value) {w : World σ}
    (spans : q.Over V cx kind xs w.guest)
    (room : (xs.length + (os.map Order.added).sum : Nat) ≤ IntType.isize.greatest) :
    Deeds V cx q w.guest (Deed.carryOut cx q os w) := by
  induction os generalizing xs w with
  | nil => exact .nil _
  | cons o os ih =>
      obtain ⟨here, later⟩ := List.forall_mem_cons.mp possible
      rw [List.map_cons, List.sum_cons] at room
      obtain ⟨result, w', xs', ran, follows⟩ :=
        Order.follows laws spans.row spans.ready spans.holds spans.own o here (by omega)
      have grown := follows.length_le
      have replaces := follows.replaces spans.holds
      rw [Deed.carryOut_cons ran]
      have next : q.Over V cx kind xs' w'.guest :=
        ⟨spans.own, spans.row, replaces.ready, replaces.holds⟩
      refine .cons (.refl spans.ready) here ran (ih later next ?_)
      omega

end Sequence

namespace Drawers

open Sequence (Deed Deeds Element)

def world : World Drawers := ⟨initial, [], [.fresh], []⟩

def sequence (r : Ref) : Sequence := ⟨⟨r, 0, none⟩⟩

def bool (b : Bool) : HostValue := ⟨.bool, b⟩

/-- A map with a key that cannot be hashed. -/
def keyed : HostValue := ⟨.map .hashed (.list .bool) .bool, [([], true)]⟩

/-- Indices at both ends, past them, and the least of all. -/
def orders : List (Sequence.Order HostValue) :=
  [.get ⟨2, by decide⟩, .get ⟨-3, by decide⟩, .get ⟨3, by decide⟩, .get ⟨-9223372036854775808, by decide⟩,
    .set ⟨-1, by decide⟩ (bool true), .get ⟨2, by decide⟩, .set ⟨0, by decide⟩ keyed, .push (bool false),
    .get ⟨-1, by decide⟩, .set ⟨4, by decide⟩ keyed, .length]

def looks : List (Sequence.Order HostValue) :=
  [.get ⟨-1, by decide⟩, .get ⟨2, by decide⟩, .set ⟨1, by decide⟩ (bool true), .push (bool true), .isEmpty]

theorem orders_possible (o : Sequence.Order HostValue) (known : o ∈ orders ++ looks) (new : HostValue)
    (value : o.value? = some new) : new.type.Possible ⟨0⟩ new.value := by
  simp only [orders, looks, List.cons_append, List.nil_append, List.mem_cons, List.not_mem_nil,
    or_false] at known
  rcases known with rfl | rfl | rfl | rfl | rfl | rfl | rfl | rfl | rfl | rfl | rfl | rfl | rfl | rfl |
    rfl | rfl
  all_goals cases value <;> simp [HostType.Possible, bool, keyed, HostType.isOrdered]

/-- A sequence that is there from the start, by what it holds. -/
theorem over_initial {r : Ref} {kind : Sequence.Kind} {xs : List Element} (known : kind? r = some kind)
    (elements : initial.elements? r = some xs) : (sequence r).Over catalogue ⟨0⟩ kind xs world.guest :=
  ⟨rfl, rows known, ready_initial, Option.bind_eq_some_iff.mp elements⟩

/-- The exception with which the guest complains. -/
def complaint (c : Sequence.Complaint) : Stop Error :=
  .failed (.foreignException ((⟨0⟩ : Context).handle noneRef) none ⟨c.typeName, c.text, none⟩)

end Drawers

open Drawers in
theorem Sequence.checked_vector_drawers : catalogue.Laws ∧
    (∃ xs, (sequence row).Over catalogue ⟨0⟩ .list xs world.guest ∧
      let ts := Deed.carryOut ⟨0⟩ (sequence row) orders world
      Deeds catalogue ⟨0⟩ (sequence row) world.guest ts ∧ Orderly catalogue ⟨0⟩ .list (sequence row) xs ts ∧
        ts.map Deed.result =
          [.ok (.element ⟨falseRef, 0, none⟩), .ok (.element ⟨noneRef, 0, none⟩),
            .error (.failed (indexError ⟨0⟩ row 3 3)),
            .error (.failed (indexError ⟨0⟩ row (-9223372036854775808) 3)), .ok .done,
            .ok (.element ⟨trueRef, 0, none⟩), .error (.failed (unhashable ⟨0⟩ noneRef "list")), .ok .done,
            .ok (.element ⟨falseRef, 0, none⟩), .error (.failed (indexError ⟨0⟩ row 4 4)), .ok (.count 4)]) ∧
    (∃ xs, (sequence pair).Over catalogue ⟨0⟩ (.fixed "tuple") xs world.guest ∧
      let ts := Deed.carryOut ⟨0⟩ (sequence pair) looks world
      Orderly catalogue ⟨0⟩ (.fixed "tuple") (sequence pair) xs ts ∧ ts.map Deed.result =
        [.ok (.element ⟨noneRef, 0, none⟩), .error (.failed (indexError ⟨0⟩ pair 2 2)),
          .error (complaint ⟨"TypeError", "'tuple' object does not support item assignment"⟩),
          .error (complaint ⟨"AttributeError", "'tuple' object has no attribute 'append'"⟩),
          .ok (.truth false)]) ∧
    (∃ xs, (sequence word).Over catalogue ⟨0⟩ (.fixed "str") xs world.guest ∧
      let ts := Deed.carryOut ⟨0⟩ (sequence word) looks world
      Orderly catalogue ⟨0⟩ (.fixed "str") (sequence word) xs ts ∧ ts.map Deed.result =
        [.ok (.element ⟨⟨append.id + 2⟩, 0, none⟩), .error (.failed (indexError ⟨0⟩ word 2 2)),
          .error (complaint ⟨"TypeError", "'str' object does not support item assignment"⟩),
          .error (complaint ⟨"AttributeError", "'str' object has no attribute 'append'"⟩),
          .ok (.truth false)]) := by
  have list : (sequence row).Over catalogue ⟨0⟩ .list
      [.object noneRef, .object trueRef, .object falseRef] world.guest :=
    over_initial (by decide +kernel) (by decide +kernel)
  have tuple : (sequence pair).Over catalogue ⟨0⟩ (.fixed "tuple")
      [.object trueRef, .object noneRef] world.guest :=
    over_initial (by decide +kernel) (by decide +kernel)
  have string : (sequence word).Over catalogue ⟨0⟩ (.fixed "str")
      [.character 97, .character 98] world.guest :=
    over_initial (by decide +kernel) (by decide +kernel)
  have written (o : Sequence.Order HostValue) (mem : o ∈ orders) :=
    orders_possible o (List.mem_append_left _ mem)
  have asked (o : Sequence.Order HostValue) (mem : o ∈ looks) :=
    orders_possible o (List.mem_append_right _ mem)
  have wrote := Deeds.of_carryOut laws orders written list (by decide)
  have looked := Deeds.of_carryOut laws looks asked tuple (by decide)
  have read := Deeds.of_carryOut laws looks asked string (by decide)
  refine ⟨laws, ⟨_, list, wrote, ?_, ?_⟩, ⟨_, tuple, ?_, ?_⟩, _, string, ?_, ?_⟩
  · exact (checked_vector laws ⟨0⟩ .list).2 _ _ _ _ list (by decide +kernel) wrote
  · decide +kernel
  · exact (checked_vector laws ⟨0⟩ (.fixed "tuple")).2 _ _ _ _ tuple (by decide +kernel) looked
  · decide +kernel
  · exact (checked_vector laws ⟨0⟩ (.fixed "str")).2 _ _ _ _ string (by decide +kernel) read
  · decide +kernel

open Drawers in
/-- A place for the index is not enough: what is to be sent has to be something that can be. -/
theorem Sequence.set_unsendable : (sequence row).Over catalogue ⟨0⟩ .list
      [.object noneRef, .object trueRef, .object falseRef] world.guest ∧
    ¬ ∀ (i : Index) (new : HostValue), new.type.Possible ⟨0⟩ new.value →
      ((((sequence row).set ⟨0⟩ i new).run world).1 = .ok () ↔ -3 ≤ i.toInt ∧ i.toInt < 3) := by
  refine ⟨over_initial (by decide +kernel) (by decide +kernel), fun all => ?_⟩
  have possible := orders_possible (.set ⟨0, by decide⟩ keyed) (by simp [orders]) keyed rfl
  have succeeds := (all ⟨0, by decide⟩ keyed possible).mpr (by decide)
  have failed : (((sequence row).set ⟨0⟩ ⟨0, by decide⟩ keyed).run world).1 =
      .error (.failed (unhashable ⟨0⟩ noneRef "list")) := by decide +kernel
  cases succeeds.symm.trans failed

end GuestBridge.Bridge
