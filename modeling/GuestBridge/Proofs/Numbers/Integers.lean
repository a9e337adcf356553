import GuestBridge.Proofs.RoundTrip.Floats

/-!
# Integers as Floating-Point Numbers

A format represents an integer exactly if the integer is a short mantissa moved up by some places and
lies within the range of the format. That is said in integers alone (`Format.Represents`). Rounding such
an integer gives the one pattern that denotes it, and no pattern denotes any other integer.

The 32-bit numbers are among the 64-bit numbers, so an integer is narrowed without loss exactly if the
32-bit format represents it: what is too large is refused by its size or becomes infinite, and everything
else that does not fit is found out by widening it again.

## Main results

* `exists_denotes_iff` — the integers that have a pattern are those that the format represents;
* `rounded_exactly_iff` — rounding an integer without loss gives its pattern;
* `narrow?_eq_some_iff` — what narrowing makes of the 64-bit pattern of an integer.
-/

namespace GuestBridge.Number

/-- An integer is a short mantissa, moved up by some places, within the range of a format. -/
def Format.Represents (f : Format) (n : Int) : Prop :=
  n.natAbs < 2 ^ 2 ^ (f.exponentBits - 1) ∧
    ∃ m k : Nat, n.natAbs = m * 2 ^ k ∧ m < 2 ^ (f.mantissaBits + 1)

/-- A pattern denotes an integer exactly; of the two zeros it is the positive one. -/
def Format.Denotes (f : Format) (bits : Nat) (n : Int) : Prop :=
  toInt? f bits = some n ∧ (n = 0 → bits = 0)

section

variable {f : Format} {bits x : Nat} {n : Int}

/-! ### What a pattern denotes -/

theorem signed_eq_iff (negative : Bool) (k : Nat) : (if negative then -(k : ℤ) else k) = n ↔
    k = n.natAbs ∧ if negative then n ≤ 0 else 0 ≤ n := by
  cases negative with
  | false =>
      rw [if_neg Bool.false_ne_true, if_neg Bool.false_ne_true]
      omega
  | true =>
      rw [if_pos rfl, if_pos rfl]
      omega

/-- A pattern denotes the integer that has its value and its sign. -/
theorem toInt?_eq_some_iff : toInt? f bits = some n ↔ f.isFinite bits = true ∧
    f.value bits = n.natAbs ∧ if f.isNegative bits then n ≤ 0 else 0 ≤ n := by
  obtain ⟨hd, value⟩ := toRatio_value f bits
  rw [← value, toInt?]
  generalize toRatio f bits = q at *
  obtain ⟨a, d⟩ := q
  have whole : (a : ℚ) / d = n.natAbs ↔ a % d = 0 ∧ a / d = n.natAbs := by
    rw [div_eq_iff (by exact_mod_cast Nat.pos_iff_ne_zero.mp hd)]
    constructor
    · intro multiple
      have exact_ : a = n.natAbs * d := by exact_mod_cast multiple
      rw [exact_]
      exact ⟨Nat.mul_mod_left _ _, Nat.mul_div_cancel _ hd⟩
    · rintro ⟨divides, quotient⟩
      rw [← quotient]
      exact_mod_cast (Nat.div_mul_cancel (Nat.dvd_of_mod_eq_zero divides)).symm
  dsimp only
  rw [Option.ite_none_right_eq_some, Option.ite_none_right_eq_some, Option.some.injEq, signed_eq_iff,
    whole, beq_iff_eq, and_assoc]

theorem value_withSign (f : Format) (negative : Bool) (x : Nat) :
    f.value (withSign f negative x) = f.value x := by
  obtain ⟨exponent, mantissa⟩ := fields_withSign f negative x
  unfold Format.value Format.mantissa Format.exponent
  rw [exponent, mantissa]

/-- What a finite pattern denotes is told by its sign and the rest. -/
theorem toInt?_withSign (negative : Bool) (hx : x < f.infinity) :
    toInt? f (withSign f negative x) = some n ↔
      f.value x = n.natAbs ∧ if negative then n ≤ 0 else 0 ≤ n := by
  rw [toInt?_eq_some_iff, isFinite_withSign, isFinite_of_lt hx, value_withSign,
    isNegative_withSign negative (Nat.lt_of_lt_of_le hx (infinity_le_signBit f))]
  exact and_iff_right rfl

/-- The unsigned part of a finite pattern lies below infinity. -/
theorem mod_lt_infinity (finite : f.isFinite bits = true) : bits % f.signBit < f.infinity := by
  have most : bits % f.signBit / 2 ^ f.mantissaBits = f.exponentField bits := by
    rw [signBit_eq, Nat.mod_mul_right_div_self]
    rfl
  have below : f.exponentField bits < f.special := by
    refine Nat.lt_of_le_of_ne (Nat.le_sub_one_of_lt ?_) (bne_iff_ne.mp finite)
    exact Nat.mod_lt _ (Nat.two_pow_pos _)
  rw [← most] at below
  exact (Nat.div_lt_iff_lt_mul (Nat.two_pow_pos _)).mp below

theorem mantissa_pos {N : Nat} (hN : 0 < N) (value : f.value x = N) : 0 < f.mantissa x := by
  refine Nat.pos_iff_ne_zero.mpr fun zero => ?_
  rw [Format.value, zero, Nat.cast_zero, zero_mul] at value
  exact Nat.pos_iff_ne_zero.mp hN (by exact_mod_cast value.symm)

/-- A number that a pattern denotes is rounded to that pattern. -/
theorem ofRatio?_of_value {N : Nat} (hN : 0 < N) (hx : x < f.infinity) (value : f.value x = N) :
    ofRatio? f N 1 = some x := by
  have exact_ := ofRatio?_pack hN Nat.one_pos (mantissa_pos hN value)
    (by rw [Nat.cast_one, div_one, ← value, Format.value]) (writes_fields hx)
  rw [pack_fields hx, if_pos hx] at exact_
  exact exact_

theorem withSign_lt_of_lt (negative : Bool) (hx : x < f.infinity) :
    withSign f negative x < 2 * f.signBit :=
  withSign_lt negative (Nat.lt_of_lt_of_le hx (infinity_le_signBit f))

/-- The pattern of an integer other than zero has the sign of the integer, and its size. -/
theorem denotes_iff (something : n ≠ 0) : bits < 2 * f.signBit ∧ f.Denotes bits n ↔
    ∃ x < f.infinity, f.value x = n.natAbs ∧ withSign f (n < 0) x = bits := by
  constructor
  · rintro ⟨size, denoted, -⟩
    obtain ⟨finite, value, sign⟩ := toInt?_eq_some_iff.mp denoted
    have split := withSign_mod f size
    have same : decide (n < 0) = f.isNegative bits := by
      cases negative : f.isNegative bits with
      | false =>
          rw [negative, if_neg Bool.false_ne_true] at sign
          exact decide_eq_false (Int.not_lt.mpr sign)
      | true =>
          rw [negative, if_pos rfl] at sign
          exact decide_eq_true (lt_of_le_of_ne sign something)
    rw [← split, value_withSign] at value
    exact ⟨_, mod_lt_infinity finite, value, by rw [same, split]⟩
  · rintro ⟨x, hx, value, rfl⟩
    refine ⟨withSign_lt_of_lt _ hx, (toInt?_withSign _ hx).mpr ⟨value, ?_⟩, (absurd · something)⟩
    by_cases negative : n < 0
    · rw [if_pos (decide_eq_true negative)]
      exact negative.le
    · rw [if_neg (by simpa using negative)]
      exact Int.not_lt.mp negative

/-- There is one pattern at most that denotes an integer: what the integer is rounded to. -/
theorem ofInt?_of_denotes (size : bits < 2 * f.signBit) (denotes : f.Denotes bits n) :
    ofInt? f n = some bits := by
  rcases eq_or_ne n 0 with rfl | something
  · rw [denotes.2 rfl]
    rfl
  · obtain ⟨x, hx, value, rfl⟩ := (denotes_iff something).mp ⟨size, denotes⟩
    rw [ofInt?, ofRatio?_of_value (Int.natAbs_pos.mpr something) hx value, Option.map_some]

/-! ### What a format represents -/

/-- The fields of a format of at least two exponent bits, by the power of two that bounds its range. -/
theorem special_lowest (he : 2 ≤ f.exponentBits) : 2 ≤ 2 ^ (f.exponentBits - 1) ∧
    f.special = 2 * 2 ^ (f.exponentBits - 1) - 1 ∧
    f.lowest = 2 ^ (f.exponentBits - 1) - 2 + f.mantissaBits := by
  have double : 2 ^ f.exponentBits = 2 * 2 ^ (f.exponentBits - 1) := by
    rw [← Nat.pow_succ', Nat.succ_eq_add_one, Nat.sub_add_cancel (by omega)]
  refine ⟨?_, ?_, rfl⟩
  · exact Nat.le_self_pow (by omega) 2
  · rw [← double]
    rfl

theorem exponent_le (he : 2 ≤ f.exponentBits) (hx : x < f.infinity) :
    f.exponent x + f.mantissaBits + 1 ≤ 2 ^ (f.exponentBits - 1) := by
  obtain ⟨large, special, lowest⟩ := special_lowest he
  have cast : ((2 ^ (f.exponentBits - 1) : ℕ) : ℤ) = 2 ^ (f.exponentBits - 1) := by push_cast; rfl
  rw [← cast]
  generalize 2 ^ (f.exponentBits - 1) = top at *
  rcases Nat.lt_or_ge x (2 ^ f.mantissaBits) with small | full
  · rw [(fields_small small).2, lowest]
    omega
  · have below := (exponentField_of_lt hx).2
    rw [(fields_full hx full).2, lowest]
    omega

/-- What a pattern denotes is represented. -/
theorem represents_of_value (he : 2 ≤ f.exponentBits) (hx : x < f.infinity)
    (value : f.value x = n.natAbs) : f.Represents n := by
  obtain ⟨short, -, -⟩ := writes_fields hx
  have most := exponent_le he hx
  rw [Format.value] at value
  generalize f.mantissa x = m at *
  generalize f.exponent x = q at *
  constructor
  · have bound : (n.natAbs : ℚ) < 2 ^ 2 ^ (f.exponentBits - 1) := by
      calc (n.natAbs : ℚ) = m * 2 ^ q := value.symm
        _ < 2 ^ (f.mantissaBits + 1) * 2 ^ q :=
          mul_lt_mul_of_pos_right (by exact_mod_cast short) (by positivity)
        _ = 2 ^ (q + f.mantissaBits + 1) := by
          rw [← zpow_natCast, ← zpow_add₀ two_ne_zero]
          congr 1
          push_cast
          ring
        _ ≤ 2 ^ ((2 ^ (f.exponentBits - 1) : ℕ) : ℤ) :=
          zpow_le_zpow_right₀ one_le_two (by exact_mod_cast most)
        _ = 2 ^ 2 ^ (f.exponentBits - 1) := zpow_natCast _ _
    exact_mod_cast bound
  · rcases le_total 0 q with up | down
    · refine ⟨m, q.toNat, ?_, short⟩
      rw [← Int.toNat_of_nonneg up, zpow_natCast] at value
      exact_mod_cast value.symm
    · refine ⟨n.natAbs, 0, by rw [Nat.pow_zero, Nat.mul_one], Nat.lt_of_le_of_lt ?_ short⟩
      have less : (n.natAbs : ℚ) ≤ m := by
        rw [← value]
        exact mul_le_of_le_one_right (Nat.cast_nonneg m) (zpow_le_one_of_nonpos₀ one_le_two down)
      exact_mod_cast less

/-- A represented number has a full mantissa. -/
theorem exists_full_mantissa {N m k : Nat} (hN : 0 < N) (moved : N = m * 2 ^ k)
    (short : m < 2 ^ (f.mantissaBits + 1)) : ∃ m', N * 2 ^ f.mantissaBits = m' * 2 ^ N.log2 ∧
      2 ^ f.mantissaBits ≤ m' ∧ m' < 2 ^ (f.mantissaBits + 1) := by
  have low : 2 ^ N.log2 ≤ N := Nat.log2_self_le (Nat.pos_iff_ne_zero.mp hN)
  have high : N < 2 ^ (N.log2 + 1) := Nat.lt_log2_self
  have places : N.log2 ≤ k + f.mantissaBits := by
    have bound : N < 2 ^ (k + f.mantissaBits + 1) := by
      rw [moved, Nat.add_assoc, Nat.pow_add 2 k, Nat.mul_comm]
      exact Nat.mul_lt_mul_of_pos_left short (Nat.two_pow_pos k)
    have := (Nat.log2_lt (Nat.pos_iff_ne_zero.mp hN)).mpr bound
    omega
  have divides : 2 ^ N.log2 ∣ N * 2 ^ f.mantissaBits := by
    conv_rhs => rw [moved, Nat.mul_assoc, ← Nat.pow_add]
    exact Dvd.dvd.mul_left (Nat.pow_dvd_pow 2 places) m
  obtain ⟨m', whole⟩ := divides
  have pos := Nat.two_pow_pos N.log2
  refine ⟨m', by rw [whole, Nat.mul_comm], ?_, ?_⟩
  · refine Nat.le_of_mul_le_mul_left ?_ pos
    rw [← whole]
    exact Nat.mul_le_mul_right _ low
  · have bound : 2 ^ N.log2 * m' < 2 ^ N.log2 * 2 ^ (f.mantissaBits + 1) := by
      calc 2 ^ N.log2 * m' = N * 2 ^ f.mantissaBits := whole.symm
        _ < 2 ^ (N.log2 + 1) * 2 ^ f.mantissaBits := Nat.mul_lt_mul_of_pos_right high (Nat.two_pow_pos _)
        _ = 2 ^ N.log2 * 2 ^ (f.mantissaBits + 1) := by
          rw [← Nat.pow_add, ← Nat.pow_add, Nat.add_assoc, Nat.add_comm 1]
    exact Nat.lt_of_mul_lt_mul_left bound

/-- Every integer that a format represents is denoted. -/
theorem exists_value (he : 2 ≤ f.exponentBits) (represented : f.Represents n) (something : n ≠ 0) :
    ∃ x < f.infinity, f.value x = n.natAbs := by
  obtain ⟨range, m, k, moved, short⟩ := represented
  have hN : 0 < n.natAbs := Int.natAbs_pos.mpr something
  obtain ⟨m', whole, full, short'⟩ := exists_full_mantissa hN moved short
  generalize n.natAbs = N at *
  obtain ⟨large, special, lowest⟩ := special_lowest he
  have top : N.log2 < 2 ^ (f.exponentBits - 1) := (Nat.log2_lt (Nat.pos_iff_ne_zero.mp hN)).mpr range
  generalize 2 ^ (f.exponentBits - 1) = E at *
  have writes : f.Writes m' (N.log2 - f.mantissaBits) := ⟨short', by omega, .inl full⟩
  have below : f.pack m' (N.log2 - f.mantissaBits) < f.infinity := by
    have place : ((N.log2 : ℤ) - f.mantissaBits + f.lowest).toNat + 1 ≤ 2 * E - 2 := by omega
    have rest : m' - 2 ^ f.mantissaBits < 2 ^ f.mantissaBits := by
      rw [Nat.pow_succ'] at short'
      omega
    calc f.pack m' (N.log2 - f.mantissaBits)
        = (((N.log2 : ℤ) - f.mantissaBits + f.lowest).toNat + 1) * 2 ^ f.mantissaBits +
          (m' - 2 ^ f.mantissaBits) := if_neg (Nat.not_lt.mpr full)
      _ < (2 * E - 2) * 2 ^ f.mantissaBits + 2 ^ f.mantissaBits :=
        Nat.add_lt_add_of_le_of_lt (Nat.mul_le_mul_right _ place) rest
      _ = f.infinity := by
        rw [← Nat.succ_mul, Format.infinity, special, show (2 * E - 2).succ = 2 * E - 1 by omega]
        rfl
  obtain ⟨mantissa, exponent⟩ := fields_pack writes below
  refine ⟨_, below, ?_⟩
  rw [Format.value, mantissa, exponent, zpow_sub₀ two_ne_zero, zpow_natCast, zpow_natCast,
    ← mul_div_assoc, div_eq_iff (by positivity)]
  exact_mod_cast whole.symm

theorem infinity_pos (he : 2 ≤ f.exponentBits) : 0 < f.infinity := by
  obtain ⟨large, special, -⟩ := special_lowest he
  exact Nat.mul_pos (by omega) (Nat.two_pow_pos _)

/-- What is rounded to something finite has a pattern below infinity. -/
theorem ofRatio?_lt (he : 2 ≤ f.exponentBits) {a d : Nat} (rounded : ofRatio? f a d = some x) :
    x < f.infinity := by
  unfold ofRatio? at rounded
  split at rounded
  · cases rounded
    exact infinity_pos he
  · obtain ⟨below, same⟩ := Option.ite_none_right_eq_some.mp rounded
    exact Option.some.inj same ▸ below

/-- **The integers that have a pattern are those that the format represents.** -/
theorem exists_denotes_iff (he : 2 ≤ f.exponentBits) :
    (∃ bits < 2 * f.signBit, f.Denotes bits n) ↔ f.Represents n := by
  constructor
  · rintro ⟨bits, size, denoted, -⟩
    obtain ⟨finite, value, -⟩ := toInt?_eq_some_iff.mp denoted
    rw [← withSign_mod f size, value_withSign] at value
    exact represents_of_value he (mod_lt_infinity finite) value
  · intro represented
    rcases eq_or_ne n 0 with rfl | something
    · have zero : f.value 0 = 0 := by
        rw [Format.value, (fields_small (Nat.two_pow_pos _)).1, Nat.cast_zero, zero_mul]
      have denoted := toInt?_withSign (n := 0) false (infinity_pos he)
      exact ⟨0, withSign_lt_of_lt false (infinity_pos he), denoted.mpr ⟨by simpa using zero, le_refl 0⟩,
        fun _ => rfl⟩
    · obtain ⟨x, hx, value⟩ := exists_value he represented something
      exact ⟨_, (denotes_iff something).mpr ⟨x, hx, value, rfl⟩⟩

/-- **Rounding an integer without loss gives its pattern**, and loses nothing if there is one. -/
theorem rounded_exactly_iff (he : 2 ≤ f.exponentBits) :
    (ofInt? f n = some bits ∧ toInt? f bits = some n) ↔ bits < 2 * f.signBit ∧ f.Denotes bits n := by
  constructor
  · rintro ⟨rounded, denoted⟩
    obtain ⟨x, nearest, rfl⟩ := Option.map_eq_some_iff.mp rounded
    refine ⟨withSign_lt_of_lt _ (ofRatio?_lt he nearest), denoted, ?_⟩
    rintro rfl
    exact (Option.some.inj nearest).symm
  · exact fun ⟨size, denotes⟩ => ⟨ofInt?_of_denotes size denotes, denotes.1⟩

/-- A wider format represents more. -/
theorem Format.Represents.widen {g : Format} (represented : f.Represents n)
    (hm : f.mantissaBits ≤ g.mantissaBits) (he : f.exponentBits ≤ g.exponentBits) : g.Represents n := by
  obtain ⟨range, m, k, moved, short⟩ := represented
  have two : 0 < 2 := Nat.two_pos
  refine ⟨Nat.lt_of_lt_of_le range ?_, m, k, moved, Nat.lt_of_lt_of_le short ?_⟩
  · exact Nat.pow_le_pow_right two (Nat.pow_le_pow_right two (Nat.sub_le_sub_right he 1))
  · exact Nat.pow_le_pow_right two (Nat.succ_le_succ hm)

end

/-! ### Narrowing integers -/

variable {v x N : Nat}

/-- A 64-bit number that is a 32-bit number is narrowed to that, which is widened to it again. -/
theorem narrowed_of_value (hv : v < binary64.infinity) (hx : x < binary32.infinity) (hN : 0 < N)
    (wide : binary64.value v = N) (narrow : binary32.value x = N) :
    v ≤ greatest ∧ convert binary64 binary32 v = x ∧ convert binary32 binary64 x = v := by
  have widens : convert binary32 binary64 x = v :=
    convert_finite hx (ofRatio?_toRatio (mantissa_pos hN narrow) hv (narrow.trans wide.symm))
  obtain ⟨-, bounded, back, -⟩ := returns_finite hx
  rw [widens] at bounded back
  exact ⟨bounded (isFinite_of_lt hv), back (isNaN_eq_false_of_lt hx), widens⟩

theorem convert_le_infinity {f g : Format} (he : 2 ≤ g.exponentBits) (hx : x < f.infinity) :
    convert f g x ≤ g.infinity := by
  rw [convert_of_lt hx]
  cases rounded : ofRatio? g (toRatio f x).1 (toRatio f x).2 with
  | none => exact Nat.le_refl _
  | some y => exact (ofRatio?_lt he rounded).le

/-- If narrowing loses nothing, what comes of it has the same value. -/
theorem value_of_narrowed (hv : v < binary64.infinity) (hN : 0 < N) (wide : binary64.value v = N)
    (again : convert binary32 binary64 (convert binary64 binary32 v) = v) :
    convert binary64 binary32 v < binary32.infinity ∧
      binary32.value (convert binary64 binary32 v) = N := by
  have most := convert_le_infinity (g := binary32) (by decide) hv
  generalize convert binary64 binary32 v = x at *
  have hx : x < binary32.infinity := by
    refine Nat.lt_of_le_of_ne most ?_
    rintro rfl
    exact absurd hv (again ▸ by decide)
  have full : 0 < binary32.mantissa x := by
    refine Nat.pos_iff_ne_zero.mpr fun zero => ?_
    rw [eq_zero_of_mantissa hx zero] at again
    refine Nat.pos_iff_ne_zero.mp (mantissa_pos hN wide) (again ▸ ?_)
    decide
  obtain ⟨y, hy, same, -⟩ := widened hx full
  have widens := convert_finite hx (ofRatio?_toRatio full hy same)
  rw [again] at widens
  rw [same, ← widens]
  exact ⟨hx, wide⟩

theorem withSign_inj {f : Format} {negative : Bool} {x y : Nat} :
    withSign f negative x = withSign f negative y ↔ x = y := by
  cases negative with
  | false => exact Iff.rfl
  | true => exact Nat.add_right_cancel_iff

end GuestBridge.Number

namespace GuestBridge.Bridge

open Number

variable {bits : Nat} {n : Int} {y : UInt32}

/-- An integer is narrowed if it is within the range and widens to the same again. -/
theorem narrow?_true : narrow? true bits = some y ↔
    ¬ (binary64.isFinite bits = true ∧ greatest < bits % binary64.signBit) ∧
      convert binary32 binary64 (convert binary64 binary32 bits) = bits ∧
      UInt32.ofNat (convert binary64 binary32 bits) = y := by
  have largest : convert binary32 binary64 (binary32.infinity - 1) = greatest := rfl
  rw [narrow?, largest, Option.ite_none_left_eq_some, Option.ite_none_left_eq_some, Option.some.injEq]
  simp only [Bool.and_eq_true, decide_eq_true_eq, gt_iff_lt, Bool.true_and, bne_iff_ne, ne_eq, not_not]

/-- **The 64-bit pattern of an integer is narrowed exactly if the 32-bit format represents the integer**,
and to the pattern that denotes it there. -/
theorem narrow?_eq_some_iff (size : bits < 2 * binary64.signBit) (denotes : binary64.Denotes bits n) :
    narrow? true bits = some y ↔ binary32.Denotes y.toNat n := by
  rcases eq_or_ne n 0 with rfl | something
  · have zero : narrow? true 0 = some 0 := by decide
    rw [denotes.2 rfl, zero, Option.some.injEq]
    constructor
    · rintro rfl
      exact ⟨by decide, fun _ => rfl⟩
    · exact fun denoted => (UInt32.toNat_inj.mp (denoted.2 rfl)).symm
  have hN : 0 < n.natAbs := Int.natAbs_pos.mpr something
  obtain ⟨v, hv, wide, rfl⟩ := (denotes_iff something).mp ⟨size, denotes⟩
  have short : v < binary64.signBit := Nat.lt_of_lt_of_le hv (infinity_le_signBit _)
  have short' : convert binary64 binary32 v < binary32.signBit :=
    Nat.lt_of_le_of_lt (convert_le_infinity (by decide) hv) (by decide)
  rw [narrow?_true, isFinite_withSign, isFinite_of_lt hv, unsigned_withSign _ short, convert_withSign _ short,
    convert_withSign _ short', withSign_inj]
  constructor
  · rintro ⟨-, again, rfl⟩
    obtain ⟨hx, narrow⟩ := value_of_narrowed hv hN wide again
    obtain ⟨size', denotes'⟩ := (denotes_iff something).mpr ⟨_, hx, narrow, rfl⟩
    rwa [UInt32.toNat_ofNat_of_lt' size']
  · intro denotes'
    obtain ⟨x, hx, narrow, same⟩ := (denotes_iff something).mp ⟨y.toNat_lt, denotes'⟩
    obtain ⟨bounded, back, again⟩ := narrowed_of_value hv hx hN wide narrow
    refine ⟨fun h => Nat.not_le.mpr h.2 bounded, by rw [back, again], ?_⟩
    rw [back, same, UInt32.ofNat_toNat]

end GuestBridge.Bridge
