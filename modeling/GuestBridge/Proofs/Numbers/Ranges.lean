import GuestBridge.Proofs.Dictionary.Whole
import GuestBridge.Proofs.Numbers.Abacus

/-!
# What Is Read as a Range

A range is read of a range that goes in steps of one, or of a slice by its bounds. The bounds of a slice are
any objects: each is asked for its position, which may run code of the guest, and what one of them does is
seen by those that are asked after it. `World.Spans` says what is asked, in the order in which it is.

A position is more than an integer of the host: a truth value has one as well, zero or one, though no
integer type of the host reads it.

## Main results

* `extracted_range` — the bounds that are read, for every object of every guest;
* `extracted_slice` — those of a slice whose bounds are integers and truth values;
* `extracted_slice_of_bool` — so a truth value is read as a bound.
-/

namespace GuestBridge.Bridge

open Guest (Ref noneRef boolRef)

section

variable {σ : Type} [GuestState σ]

/-! ### Bounds -/

namespace World

/-- Asked for its position, an object answers. -/
def Points (w : World σ) (q : Ref) (n : Int) (w' : World σ) : Prop := w.ask (.toIndex q) = (.ok n, w')

/-- A step is one, or there is none. -/
def Single (w : World σ) (step : Ref) (w' : World σ) : Prop :=
  step = noneRef ∧ w' = w ∨ step ≠ noneRef ∧ w.Points step 1 w'

/-- A start has a position, or there is none, which is zero. -/
def Starts (w : World σ) (start : Ref) (n : Int) (w' : World σ) : Prop :=
  start = noneRef ∧ n = 0 ∧ w' = w ∨ start ≠ noneRef ∧ w.Points start n w'

/-- An object has the bounds of a range of the host: it is a range, or a slice whose step, start and stop
are asked one after the other. -/
inductive Spans (w : World σ) (r : Ref) (a b : (HostType.int .isize).Value) : Prop
  | range {w' : World σ} (shape : w.ask (.shape r) = (.ok (.range a.val b.val 1), w'))
  | slice {start stop step : Ref} {w₀ w₁ w₂ w₃ : World σ}
      (shape : w.ask (.shape r) = (.ok (.slice start stop step), w₀)) (single : w₀.Single step w₁)
      (starts : w₁.Starts start a.val w₂) (stops : w₂.Points stop b.val w₃)

end World

/-! ### Reading the bounds -/

variable {w w' : World σ} {q r : Ref} {a b : (HostType.int .isize).Value}

omit [GuestState σ] in
theorem fitting_iff {n : Int} : fitting .isize n = some a ↔ a.val = n := by
  refine ⟨Picture.fitting_eq_some, ?_⟩
  rintro rfl
  exact dif_pos a.property

/-- A position is read if the object answers, and the answer fits. -/
theorem readPosition_iff : readPosition q w = (some a, w') ↔ w.Points q a.val w' := by
  rw [readPosition, askOr_apply, World.Points]
  obtain ⟨answer, w₁⟩ := w.ask (.toIndex q)
  cases answer with
  | error e => exact iff_of_false nofun nofun
  | ok n =>
      change (fitting .isize n, w₁) = _ ↔ _
      rw [Prod.mk.injEq, Prod.mk.injEq, Except.ok.injEq, fitting_iff, eq_comm]

theorem isSingle_iff : isSingle q w = (true, w') ↔ w.Single q w' := by
  rw [isSingle, World.Single]
  by_cases none : q = noneRef
  · rw [if_pos (beq_iff_eq.mpr none), and_iff_right none, or_iff_left fun h => h.1 none]
    change (true, w) = _ ↔ _
    rw [Prod.mk.injEq, and_iff_right rfl, eq_comm]
  · rw [if_neg (mt beq_iff_eq.mp none), and_iff_right none, or_iff_right fun h => none h.1, bind_apply]
    change (((readPosition q w).1.map (·.val) == some 1), (readPosition q w).2) = _ ↔ _
    constructor
    · intro one
      obtain ⟨same, rfl⟩ := Prod.mk.inj one
      obtain ⟨a, read, value⟩ := Option.map_eq_some_iff.mp (beq_iff_eq.mp same)
      exact value ▸ readPosition_iff.mp (Prod.ext read rfl)
    · intro points
      have read := readPosition_iff (a := ⟨1, by decide⟩).mpr points
      rw [read]
      rfl

theorem readStart_iff : readStart q w = (some a, w') ↔ w.Starts q a.val w' := by
  rw [readStart, World.Starts]
  by_cases none : q = noneRef
  · rw [if_pos (beq_iff_eq.mpr none), and_iff_right none, or_iff_left fun h => h.1 none]
    change (fitting .isize 0, w) = _ ↔ _
    rw [Prod.mk.injEq, fitting_iff, @eq_comm _ w]
  · rw [if_neg (mt beq_iff_eq.mp none), and_iff_right none, or_iff_right fun h => none h.1]
    exact readPosition_iff

/-- The bounds of a slice, once its step is known to be one. -/
def readBounds (start stop : Ref) : StateM (World σ) (Option HostType.range.Value) := do
  match ← readStart start with
  | none => return none
  | some a => return (← readPosition stop).map fun b => (a, b)

theorem readBounds_iff {start stop : Ref} : (readBounds start stop w).1 = some (a, b) ↔
    ∃ w₁ w₂, w.Starts start a.val w₁ ∧ w₁.Points stop b.val w₂ := by
  rw [readBounds, bind_apply]
  constructor
  · rcases starts : readStart start w with ⟨_ | a', w₁⟩
    · intro read
      cases read
    · intro read
      obtain ⟨b', stops, same⟩ := Option.map_eq_some_iff.mp read
      cases same
      exact ⟨w₁, _, readStart_iff.mp starts, readPosition_iff.mp (Prod.ext stops rfl)⟩
  · rintro ⟨w₁, w₂, starts, stops⟩
    rw [readStart_iff.mpr starts]
    change ((readPosition stop w₁).1.map fun b => (a, b)) = some (a, b)
    rw [readPosition_iff.mpr stops]
    rfl

/-- **The bounds that are read** are those that the object has. -/
theorem readRange_iff : (readRange r w).1 = some (a, b) ↔ w.Spans r a b := by
  rw [readRange, shapeOf, bind_apply, askOr_apply]
  constructor
  · intro read
    rcases shape : w.ask (.shape r) with ⟨e | x, w₀⟩ <;> rw [shape] at read
    · cases read
    cases x with
    | range start stop step =>
        dsimp only [Except.toOption, Option.elim, id] at read
        cases one : step == 1 <;> rw [one] at read
        · cases read
        rcases first : fitting .isize start with _ | a' <;> rw [first] at read
        · cases read
        rcases last : fitting .isize stop with _ | b' <;> rw [last] at read
        · cases read
        cases read
        rw [← fitting_iff.mp first, ← fitting_iff.mp last, beq_iff_eq.mp one] at shape
        exact .range shape
    | slice start stop step =>
        change ((isSingle step >>= fun one => if one = true then readBounds start stop else pure none) w₀).1
          = _ at read
        rw [bind_apply] at read
        rcases single : isSingle step w₀ with ⟨_ | _, w₁⟩ <;> rw [single] at read
        · cases read
        obtain ⟨w₂, w₃, starts, stops⟩ := readBounds_iff.mp read
        exact .slice shape (isSingle_iff.mp single) starts stops
    | _ => cases read
  · rintro (⟨shape⟩ | ⟨shape, single, starts, stops⟩)
    · rw [shape]
      dsimp only [Except.toOption, Option.elim, id]
      rw [fitting_iff.mpr rfl, fitting_iff.mpr rfl]
      rfl
    · rw [shape]
      change ((isSingle _ >>= fun one => if one = true then readBounds _ _ else pure none) _).1 = _
      rw [bind_apply, isSingle_iff.mpr single]
      exact readBounds_iff.mpr ⟨_, _, starts, stops⟩

/-! ### Reading through handles -/

/-- **What is read as a range**: an object that has the bounds of one, and then these. Reading anything else
gives nothing. -/
theorem extracted_range (cx : Context) (r : Ref) (w : World σ) :
    (∃ x?, extracted cx .range r w = .ok x?) ∧
      ∀ a b, extracted cx .range r w = .ok (some (a, b)) ↔ w.Spans r a b := by
  have read : extracted cx .range r w = .ok (readRange r w).1 := extracted_of_run (run_fits (readRange r) w)
  refine ⟨⟨_, read⟩, fun a b => ?_⟩
  rw [read, Except.ok.injEq]
  exact readRange_iff

end

/-! ### Bounds of built-in types -/

namespace Picture

variable {p : Picture} {q r : Ref} {a b : (HostType.int .isize).Value}

theorem position_eq_some_iff : p.position q = some a ↔ p.index q = some a.val := by
  rw [position]
  cases p.index q with
  | none => exact iff_of_false nofun nofun
  | some n => exact fitting_iff.trans ((Option.some.injEq ..).symm ▸ eq_comm)

theorem single_iff : p.single q = true ↔ q = noneRef ∨ p.index q = some 1 := by
  rw [single]
  by_cases none : q = noneRef
  · exact iff_of_true (if_pos none) (.inl none)
  · rw [if_neg none, or_iff_right none, beq_iff_eq, Option.map_eq_some_iff]
    constructor
    · rintro ⟨a, read, value⟩
      exact value ▸ position_eq_some_iff.mp read
    · exact fun index => ⟨⟨1, by decide⟩, position_eq_some_iff.mpr index, rfl⟩

theorem start_iff (raises : p.index noneRef = none) :
    p.start q = some a ↔ q = noneRef ∧ a.val = 0 ∨ p.index q = some a.val := by
  rw [start]
  by_cases none : q = noneRef
  · rw [if_pos none, and_iff_right none, none, raises, or_iff_left (Option.some_ne_none _).symm]
    exact fitting_iff
  · rw [if_neg none, or_iff_right fun h => none h.1]
    exact position_eq_some_iff

theorem range_of_slice {start stop step : Ref} (shape : p.shape r = some (.slice start stop step))
    (raises : p.index noneRef = none) : p.range r = some (a, b) ↔
      (step = noneRef ∨ p.index step = some 1) ∧
      (start = noneRef ∧ a.val = 0 ∨ p.index start = some a.val) ∧ p.index stop = some b.val := by
  rw [range, shape, ← single_iff, ← start_iff raises, ← position_eq_some_iff]
  refine (Option.ite_none_right_eq_some ..).trans (and_congr_right fun _ => ?_)
  refine Option.bind_eq_some_iff.trans ⟨?_, ?_⟩
  · rintro ⟨a', first, rest⟩
    obtain ⟨b', last, same⟩ := Option.map_eq_some_iff.mp rest
    cases same
    exact ⟨first, last⟩
  · rintro ⟨first, last⟩
    exact ⟨a, first, Option.map_eq_some_iff.mpr ⟨b, last, rfl⟩⟩

end Picture

section

variable {σ : Type} [GuestState σ]

/-- `None`, integers and truth values answer for their positions. -/
def Outlook.Positions (V : Outlook σ) : Prop :=
  ∀ {o : Objects} {q : Ref} {x : Shape}, o.shape q = some x →
    (x = .none ∨ (∃ n, x = .int n) ∨ ∃ b, x = .bool b) → V.Settled o (.toIndex q) x.position?

/-- A picture of positions among what is known. -/
def Objects.positions (o : Objects) : Picture where
  toObjects := o
  float _ := none
  equals _ _ := none
  index q := (o.shape q).bind Shape.position?

variable {V : Outlook σ} {o : Objects} {w : World σ} {r start stop step : Ref} {x y z : Shape}

/-- **A slice of integers and truth values is read by their positions**: a truth value counts as zero or
one. -/
theorem extracted_slice (laws : V.Builtins) (positions : V.Positions) (cx : Context)
    (seen : V.Sees o w.guest) (slice : o.shape r = some (.slice start stop step))
    (hx : o.shape start = some x) (hy : o.shape stop = some y) (hz : o.shape step = some z)
    (each : ∀ s ∈ [x, y, z], s = .none ∨ (∃ n, s = .int n) ∨ ∃ b, s = .bool b)
    (a b : (HostType.int .isize).Value) : extracted cx .range r w = .ok (some (a, b)) ↔
      (step = noneRef ∨ z.position? = some 1) ∧
      (start = noneRef ∧ a.val = 0 ∨ x.position? = some a.val) ∧ y.position? = some b.val := by
  have index {q : Ref} {s : Shape} (known : o.shape q = some s) : o.positions.index q = s.position? :=
    congrArg (Option.bind · Shape.position?) known
  have settled {q : Ref} {s : Shape} (known : o.shape q = some s) (hs : s ∈ [x, y, z]) :
      V.Settled o (.toIndex q) (o.positions.index q) := index known ▸ positions known (each s hs)
  have legible : V.Legible o.positions .range r := by
    refine ⟨_, slice, fun _ _ _ same => ?_⟩
    cases same
    exact List.forall_mem_cons.mpr ⟨settled hx (by simp), List.forall_mem_cons.mpr
      ⟨settled hy (by simp), List.forall_mem_singleton.mpr (settled hz (by simp))⟩⟩
  have raises : o.positions.index noneRef = none := by
    change (o.shape noneRef).bind Shape.position? = none
    cases known : o.shape noneRef with
    | none => rfl
    | some s =>
        have same := (laws.noneShape seen.ready).symm.trans (seen.known.shape known)
        cases same
        rfl
  rw [extracted_eq laws legible seen, Except.ok.injEq, ← index hx, ← index hy, ← index hz]
  exact Picture.range_of_slice slice raises

end

/-! ### A slice on the abacus -/

namespace Abacus

theorem positions : outlook.Positions := fun {o q x} known _ => settled fun g there => by
  change ((g.shelf.objects.shape q).bind Shape.position?, g) = _
  rw [there.shape known, Option.bind_some]

/-- An abacus with `slice(True, 5)`. -/
def sliced : Abacus := ⟨(Shelf.initial.set ⟨10⟩ ⟨.int 5, some (.number 5)⟩).set ⟨11⟩
  ⟨.slice (boolRef true) ⟨10⟩ noneRef, none⟩⟩

end Abacus

/-- The session's world with that slice. -/
def slicing : World Abacus := ⟨Abacus.sliced, [], [.fresh], []⟩

set_option maxRecDepth 4096 in
/-- The start of the slice is a truth value, which is not read as an integer, and yet the slice is read. -/
theorem extracted_slice_of_bool :
    Abacus.sliced.shelf.objects.shape ⟨11⟩ = some (.slice (boolRef true) ⟨10⟩ noneRef) ∧
      Abacus.sliced.shelf.objects.shape (boolRef true) = some (.bool true) ∧
      extracted ⟨0⟩ (.int .isize) (boolRef true) slicing = .ok none ∧
      ∃ a b, extracted ⟨0⟩ .range ⟨11⟩ slicing = .ok (some (a, b)) ∧ a.val = 1 ∧ b.val = 5 :=
  ⟨rfl, rfl, rfl, ⟨1, by decide⟩, ⟨5, by decide⟩, rfl, rfl, rfl⟩

end GuestBridge.Bridge
