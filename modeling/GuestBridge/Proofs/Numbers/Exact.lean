import GuestBridge.Proofs.Dictionary.Whole
import GuestBridge.Proofs.Numbers.Abacus
import GuestBridge.Proofs.Numbers.Integers

/-!
# Reading Integers as Floating-Point Numbers

An integer is read as a floating-point number exactly or not at all: it is rounded, compared with what it was
rounded to, and a 64-bit pattern is narrowed only if it widens to the same again. `Outlook.PlainInt` says how
an integer answers whose type changes neither its conversion nor its equality.

## Main results

* `extracted_integer` — an integer is read as the pattern that denotes it, if the format represents it;
  otherwise nothing is read.
-/

namespace GuestBridge.Bridge

open Guest (Ref)
open Number (binary32 binary64 ofInt? toInt?)

section

variable {σ : Type} [GuestState σ]

/-- An integer that is converted to the nearest floating-point number, or raises past the greatest, and
equals those that denote it. -/
structure Outlook.PlainInt (V : Outlook σ) (o : Objects) (r : Ref) (n : Int) : Prop where
  shape : o.shape r = some (.int n)
  float : V.Settled o (.toFloat r) (ofInt? binary64 n)
  equal {o' : Objects} {f : Ref} {bits : Nat} : o.Extends o' → o'.shape f = some (.float bits) →
    V.Settled o' (.equal r f) (some (toInt? binary64 bits = some n))

/-- A picture of an integer among what is known. -/
def Objects.withInt (o : Objects) (n : Int) : Picture where
  toObjects := o
  float _ := ofInt? binary64 n
  equals _ bits := some (toInt? binary64 bits = some n)
  index _ := none

end

/-! ### Integers in a picture -/

section

variable {o : Objects} {r : Ref} {n : Int}

/-- An integer is read as the 64-bit pattern that denotes it. -/
theorem float64_withInt (shape : o.shape r = some (.int n)) {bits : Nat} :
    (o.withInt n).float64 r = some bits ↔ bits < 2 * binary64.signBit ∧ binary64.Denotes bits n := by
  have exact_ : (o.withInt n).float64 r = (o.withInt n).exact r := by
    simp only [Picture.float64, Objects.withInt, shape]
  rw [exact_, ← Number.rounded_exactly_iff (by decide)]
  refine Option.bind_eq_some_iff.trans ⟨?_, ?_⟩
  · rintro ⟨b, rounded, kept⟩
    obtain ⟨equal, same⟩ := (Option.ite_none_right_eq_some ..).mp kept
    cases same
    exact ⟨rounded, of_decide_eq_true (Option.some.inj equal)⟩
  · rintro ⟨rounded, equal⟩
    exact ⟨bits, rounded, if_pos (congrArg some (decide_eq_true equal))⟩

/-- An integer is read as the 32-bit pattern that denotes it. -/
theorem float32_withInt (shape : o.shape r = some (.int n)) {y : UInt32} :
    (o.withInt n).float32 r = some y ↔ binary32.Denotes y.toNat n := by
  have narrow : (o.withInt n).float32 r = ((o.withInt n).float64 r).bind (narrow? true) := by
    have shape' : (o.withInt n).shape r = some (.int n) := shape
    rw [Picture.float32, shape']
  rw [narrow, Option.bind_eq_some_iff]
  constructor
  · rintro ⟨bits, wide, narrowed⟩
    obtain ⟨size, denotes⟩ := (float64_withInt shape).mp wide
    exact (narrow?_eq_some_iff size denotes).mp narrowed
  · intro denotes
    have represented := (Number.exists_denotes_iff (by decide)).mp ⟨_, y.toNat_lt, denotes⟩
    obtain ⟨bits, wide⟩ := (Number.exists_denotes_iff (f := binary64) (by decide)).mpr
      (represented.widen (by decide) (by decide))
    exact ⟨bits, (float64_withInt shape).mpr wide, (narrow?_eq_some_iff wide.1 wide.2).mpr denotes⟩

/-- Reading an integer as a 64-bit number. -/
theorem read_float64_withInt (cx : Context) (shape : o.shape r = some (.int n)) (x : UInt64) :
    (o.withInt n).read cx .float64 r = some x ↔ binary64.Denotes x.toNat n := by
  refine Option.map_eq_some_iff.trans ⟨?_, fun denotes => ?_⟩
  · rintro ⟨bits, wide, rfl⟩
    obtain ⟨size, denotes⟩ := (float64_withInt shape).mp wide
    rwa [UInt64.toNat_ofNat_of_lt' size]
  · exact ⟨x.toNat, (float64_withInt shape).mpr ⟨x.toNat_lt, denotes⟩, UInt64.ofNat_toNat⟩

/-- If what is read are the patterns that denote an integer, something is read where the format represents
it. -/
theorem read_iff_represents {f : Number.Format} (he : 2 ≤ f.exponentBits) {α : Type} {bits : α → Nat}
    (pattern : ∀ b, (∃ a, bits a = b) ↔ b < 2 * f.signBit) {read : Option α}
    (given : ∀ a, read = some a ↔ f.Denotes (bits a) n) :
    ((∃ a, read = some a) ↔ f.Represents n) ∧ (read = none ↔ ¬ f.Represents n) := by
  have represented : (∃ a, read = some a) ↔ f.Represents n := by
    rw [← Number.exists_denotes_iff he]
    constructor
    · rintro ⟨a, read⟩
      exact ⟨bits a, (pattern _).mp ⟨a, rfl⟩, (given a).mp read⟩
    · rintro ⟨b, size, denotes⟩
      obtain ⟨a, rfl⟩ := (pattern b).mpr size
      exact ⟨a, (given a).mpr denotes⟩
  refine ⟨represented, ?_⟩
  rw [← represented, ← Option.ne_none_iff_exists', not_not]

theorem pattern64 (b : Nat) : (∃ x : UInt64, x.toNat = b) ↔ b < 2 * binary64.signBit := by
  constructor
  · rintro ⟨x, rfl⟩
    exact x.toNat_lt
  · exact fun size => ⟨.ofNat b, UInt64.toNat_ofNat_of_lt' size⟩

theorem pattern32 (b : Nat) : (∃ y : UInt32, y.toNat = b) ↔ b < 2 * binary32.signBit := by
  constructor
  · rintro ⟨y, rfl⟩
    exact y.toNat_lt
  · exact fun size => ⟨.ofNat b, UInt32.toNat_ofNat_of_lt' size⟩

end

/-! ### Reading through handles -/

section

variable {σ : Type} [GuestState σ] {V : Outlook σ} {o : Objects} {w : World σ} {r : Ref} {n : Int}

theorem Outlook.PlainInt.numeric (plain : V.PlainInt o r n) : V.Numeric (o.withInt n) r :=
  ⟨plain.float, plain.equal⟩

/-- **An integer is read exactly or not at all.** -/
theorem extracted_integer (laws : V.Builtins) (cx : Context) (plain : V.PlainInt o r n)
    (seen : V.Sees o w.guest) :
    (∀ x : UInt64, extracted cx .float64 r w = .ok (some x) ↔ binary64.Denotes x.toNat n) ∧
    ((∃ x, extracted cx .float64 r w = .ok (some x)) ↔ binary64.Represents n) ∧
    (extracted cx .float64 r w = .ok none ↔ ¬ binary64.Represents n) ∧
    (∀ y : UInt32, extracted cx .float32 r w = .ok (some y) ↔ binary32.Denotes y.toNat n) ∧
    ((∃ y, extracted cx .float32 r w = .ok (some y)) ↔ binary32.Represents n) ∧
    (extracted cx .float32 r w = .ok none ↔ ¬ binary32.Represents n) := by
  have wide : extracted cx .float64 r w = .ok ((o.withInt n).read cx .float64 r) :=
    extracted_eq laws ⟨_, plain.shape, fun _ _ => plain.numeric⟩ seen
  have narrow : extracted cx .float32 r w = .ok ((o.withInt n).read cx .float32 r) :=
    extracted_eq laws ⟨_, plain.shape, fun _ _ => plain.numeric⟩ seen
  simp only [wide, narrow, Except.ok.injEq]
  have given64 := read_float64_withInt cx plain.shape
  have given32 (y : UInt32) : (o.withInt n).read cx .float32 r = some y ↔ binary32.Denotes y.toNat n :=
    float32_withInt plain.shape
  obtain ⟨some64, none64⟩ := read_iff_represents (by decide) pattern64 given64
  obtain ⟨some32, none32⟩ := read_iff_represents (by decide) pattern32 given32
  exact ⟨given64, some64, none64, given32, some32, none32⟩

end

/-! ### Integers on the abacus -/

namespace Abacus

variable {o : Objects}

theorem plainInt {r : Ref} {n : Int} (known : o.shape r = some (.int n)) :
    outlook.PlainInt o r n where
  shape := known
  float := settled fun g there => by
    change ((g.shelf.objects.shape r).bind float?, g) = _
    rw [there.shape known]
    rfl
  equal {o' f bits} later float := settled fun g there => by
    change ((g.shelf.objects.shape r).bind fun x => (g.shelf.objects.shape f).bind (equal? x), g) = _
    rw [there.shape (later.shape known), there.shape float]
    rfl

/-- An abacus with an integer that has one bit too many for the 32-bit format. -/
def odd : Abacus := ⟨Shelf.initial.set ⟨10⟩ ⟨.int 16777217, some (.number 16777217)⟩⟩

theorem stocked_odd : odd.shelf.Stocked :=
  Shelf.stocked_initial.set _ (by decide +kernel) (by decide +kernel)

end Abacus

/-- The session's world with that integer. -/
def counting : World Abacus := ⟨Abacus.odd, [], [.fresh], []⟩

theorem extracted_integer_odd : Abacus.outlook.PlainInt Abacus.odd.shelf.objects ⟨10⟩ 16777217 ∧
    Abacus.outlook.Sees Abacus.odd.shelf.objects counting.guest ∧
    extracted ⟨0⟩ .float64 ⟨10⟩ counting = .ok (some (0x4170000010000000 : UInt64)) ∧
    extracted ⟨0⟩ .float32 ⟨10⟩ counting = .ok none := by
  have plain : Abacus.outlook.PlainInt Abacus.odd.shelf.objects ⟨10⟩ 16777217 := Abacus.plainInt rfl
  have seen : Abacus.outlook.Sees Abacus.odd.shelf.objects counting.guest := ⟨Abacus.stocked_odd, .refl _⟩
  obtain ⟨wide, -, -, -, -, narrow⟩ := extracted_integer Abacus.builtins ⟨0⟩ plain seen
  refine ⟨plain, seen, (wide _).mpr ⟨by decide +kernel, nofun⟩, narrow.mpr ?_⟩
  rintro ⟨-, m, k, moved, short⟩
  have places : k = 0 := by
    by_contra up
    have even : 2 ∣ m * 2 ^ k := Dvd.dvd.mul_left (dvd_pow_self 2 up) m
    rw [← moved] at even
    exact absurd even (by decide)
  rw [places, Nat.pow_zero, Nat.mul_one] at moved
  exact absurd (moved ▸ short) (by decide)

end GuestBridge.Bridge
