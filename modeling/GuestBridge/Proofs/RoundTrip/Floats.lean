import GuestBridge.Bridge.Convert
import Mathlib.Algebra.Order.Field.Power
import Mathlib.Data.Rat.Floor
import Mathlib.Tactic.Linarith
import Mathlib.Tactic.NormNum
import Mathlib.Tactic.Ring
import Mathlib.Tactic.FieldSimp

/-!
# Exact Conversion of Floating-Point Numbers

A 32-bit number is also a 64-bit number, so converting it there and back changes nothing. The proof
is on values: `Format.value` is the number that a pattern denotes, up to its sign, and rounding a
quotient that a format can denote gives the pattern of that number (`ofRatio?_pack`).
-/

namespace GuestBridge.Number

/-- The number that a finite pattern denotes, up to its sign. -/
def Format.value (f : Format) (bits : Nat) : ℚ := f.mantissa bits * 2 ^ f.exponent bits

/-- Whether a format writes `m · 2^q` with this mantissa and exponent. -/
def Format.Writes (f : Format) (m : Nat) (q : ℤ) : Prop :=
  m < 2 ^ (f.mantissaBits + 1) ∧ -(f.lowest : ℤ) ≤ q ∧
    (2 ^ f.mantissaBits ≤ m ∨ q = -(f.lowest : ℤ))

/-- The pattern with a mantissa and exponent. -/
def Format.pack (f : Format) (m : Nat) (q : ℤ) : Nat :=
  if m < 2 ^ f.mantissaBits then m
  else ((q + f.lowest).toNat + 1) * 2 ^ f.mantissaBits + (m - 2 ^ f.mantissaBits)

/-! ### Rounding what is exact -/

/-- A positive number lies between two neighbouring powers of two only. -/
theorem zpow_unique {a b : ℤ} {x : ℚ} (ha : 2 ^ a ≤ x) (ha' : x < 2 ^ (a + 1)) (hb : 2 ^ b ≤ x)
    (hb' : x < 2 ^ (b + 1)) : a = b := by
  have h₁ : (2 : ℚ) ^ a < 2 ^ (b + 1) := lt_of_le_of_lt ha hb'
  have h₂ : (2 : ℚ) ^ b < 2 ^ (a + 1) := lt_of_le_of_lt hb ha'
  rw [zpow_lt_zpow_iff_right₀ one_lt_two] at h₁ h₂
  omega

theorem log2_bounds {n : Nat} (hn : 0 < n) :
    (2 : ℚ) ^ (n.log2 : ℤ) ≤ n ∧ (n : ℚ) < 2 ^ ((n.log2 : ℤ) + 1) := by
  have low : 2 ^ n.log2 ≤ n := Nat.log2_self_le (Nat.pos_iff_ne_zero.mp hn)
  have high : n < 2 ^ (n.log2 + 1) := Nat.lt_log2_self
  constructor
  · rw [zpow_natCast]
    exact_mod_cast low
  · rw [show (n.log2 : ℤ) + 1 = ((n.log2 + 1 : ℕ) : ℤ) by push_cast; rfl, zpow_natCast]
    exact_mod_cast high

/-- The logarithms of a quotient's parts tell its own up to one. -/
theorem guess_bounds {n d : Nat} (hn : 0 < n) (hd : 0 < d) :
    (2 : ℚ) ^ ((n.log2 : ℤ) - d.log2 - 1) ≤ (n : ℚ) / d ∧
      (n : ℚ) / d < 2 ^ ((n.log2 : ℤ) - d.log2 + 1) := by
  obtain ⟨lowN, highN⟩ := log2_bounds hn
  obtain ⟨lowD, highD⟩ := log2_bounds hd
  have pos : (0 : ℚ) < d := by exact_mod_cast hd
  constructor
  · rw [le_div_iff₀ pos]
    calc (2 : ℚ) ^ ((n.log2 : ℤ) - d.log2 - 1) * d
        ≤ 2 ^ ((n.log2 : ℤ) - d.log2 - 1) * 2 ^ ((d.log2 : ℤ) + 1) :=
          mul_le_mul_of_nonneg_left highD.le (by positivity)
      _ = 2 ^ (n.log2 : ℤ) := by
          rw [← zpow_add₀ two_ne_zero]
          congr 1
          ring
      _ ≤ n := lowN
  · rw [div_lt_iff₀ pos]
    calc (n : ℚ) < 2 ^ ((n.log2 : ℤ) + 1) := highN
      _ = 2 ^ ((n.log2 : ℤ) - d.log2 + 1) * 2 ^ (d.log2 : ℤ) := by
          rw [← zpow_add₀ two_ne_zero]
          congr 1
          ring
      _ ≤ 2 ^ ((n.log2 : ℤ) - d.log2 + 1) * d :=
          mul_le_mul_of_nonneg_left lowD (by positivity)

/-- The last place goes by the power of two below a quotient. -/
theorem lastPlace_eq (f : Format) {n d : Nat} (hn : 0 < n) (hd : 0 < d) {t : ℤ}
    (low : (2 : ℚ) ^ t ≤ (n : ℚ) / d) (high : (n : ℚ) / d < 2 ^ (t + 1)) :
    lastPlace f n d = max (t - f.mantissaBits) (-(f.lowest : ℤ)) := by
  obtain ⟨lowG, highG⟩ := guess_bounds hn hd
  have pos : (0 : ℚ) < d := by exact_mod_cast hd
  unfold lastPlace
  dsimp only
  generalize hg : (n.log2 : ℤ) - d.log2 = guess at lowG highG
  have test : (n : ℚ) / d < 2 ^ guess ∧ t = guess - 1 ∨ ¬ (n : ℚ) / d < 2 ^ guess ∧ t = guess := by
    by_cases below : (n : ℚ) / d < 2 ^ guess
    · refine .inl ⟨below, zpow_unique low high lowG ?_⟩
      rwa [sub_add_cancel]
    · exact .inr ⟨below, zpow_unique low high (not_lt.mp below) highG⟩
  congr 2
  by_cases sign : guess ≥ 0
  · rw [if_pos sign]
    have pow : (2 : ℚ) ^ guess = ((2 ^ guess.toNat : ℕ) : ℚ) := by
      conv_lhs => rw [← Int.toNat_of_nonneg sign]
      rw [zpow_natCast]
      push_cast
      rfl
    have same : (n : ℚ) / d < 2 ^ guess ↔ n < d * Nat.pow 2 guess.toNat := by
      rw [div_lt_iff₀ pos, pow, mul_comm]
      norm_cast
    rw [same] at test
    rcases test with ⟨below, rfl⟩ | ⟨below, rfl⟩
    · rw [if_pos below]
    · rw [if_neg below]
  · rw [if_neg sign]
    have pow : (2 : ℚ) ^ guess = ((2 ^ (-guess).toNat : ℕ) : ℚ)⁻¹ := by
      rw [← neg_neg guess, zpow_neg, neg_neg]
      congr 1
      conv_lhs => rw [← Int.toNat_of_nonneg (a := -guess) (by omega)]
      rw [zpow_natCast]
      push_cast
      rfl
    have same : (n : ℚ) / d < 2 ^ guess ↔ n * Nat.pow 2 (-guess).toNat < d := by
      have positive : (0 : ℚ) < ((2 ^ (-guess).toNat : ℕ) : ℚ) := by positivity
      rw [pow, div_lt_iff₀ pos, inv_mul_eq_div, lt_div_iff₀ positive]
      norm_cast
    rw [same] at test
    rcases test with ⟨below, rfl⟩ | ⟨below, rfl⟩
    · rw [if_pos below]
    · rw [if_neg below]

theorem roundHalfEven_mul (m : Nat) {k : Nat} (hk : 0 < k) : roundHalfEven (m * k) k = m := by
  unfold roundHalfEven
  dsimp only
  rw [Nat.mul_mod_left, Nat.mul_div_cancel m hk, if_pos (by omega)]

theorem log2_eq {m k : Nat} (low : 2 ^ k ≤ m) (high : m < 2 ^ (k + 1)) : m.log2 = k := by
  have pos : m ≠ 0 := by
    rintro rfl
    exact absurd low (Nat.not_le.mpr (Nat.two_pow_pos k))
  have h₁ : k ≤ m.log2 := (Nat.le_log2 pos).mpr low
  have h₂ : m.log2 < k + 1 := (Nat.log2_lt pos).mpr high
  omega

/-- The last place of a number that the format can write. -/
theorem lastPlace_of_writes {f : Format} {n d m : Nat} {q : ℤ} (hn : 0 < n) (hd : 0 < d)
    (hm : 0 < m) (value : (n : ℚ) / d = m * 2 ^ q) (writes : f.Writes m q) :
    lastPlace f n d = q := by
  obtain ⟨low, high⟩ := log2_bounds hm
  have pos : (0 : ℚ) < 2 ^ q := by positivity
  have place := lastPlace_eq f hn hd (t := (m.log2 : ℤ) + q)
    (by rw [value, zpow_add₀ two_ne_zero]; exact mul_le_mul_of_nonneg_right low pos.le)
    (by
      rw [value, add_right_comm, zpow_add₀ two_ne_zero]
      exact mul_lt_mul_of_pos_right high pos)
  rw [place]
  obtain ⟨short, least, full | lowest⟩ := writes
  · rw [log2_eq full short]
    omega
  · rcases Nat.lt_or_ge m (2 ^ f.mantissaBits) with small | full
    · have fewer : m.log2 < f.mantissaBits := (Nat.log2_lt (Nat.pos_iff_ne_zero.mp hm)).mpr small
      omega
    · rw [log2_eq full short]
      omega

/-- **Rounding what a format can write gives its pattern.** -/
theorem ofRatio?_pack {f : Format} {n d m : Nat} {q : ℤ} (hn : 0 < n) (hd : 0 < d) (hm : 0 < m)
    (value : (n : ℚ) / d = m * 2 ^ q) (writes : f.Writes m q) :
    ofRatio? f n d = if f.pack m q < f.infinity then some (f.pack m q) else none := by
  have place := lastPlace_of_writes hn hd hm value writes
  have pos : (d : ℚ) ≠ 0 := by exact_mod_cast Nat.pos_iff_ne_zero.mp hd
  have number : (if q ≥ 0 then roundHalfEven n (d * Nat.pow 2 q.toNat)
      else roundHalfEven (n * Nat.pow 2 (-q).toNat) d) = m := by
    by_cases sign : q ≥ 0
    · rw [if_pos sign]
      have exact_ : n = m * (d * Nat.pow 2 q.toNat) := by
        rw [div_eq_iff pos, ← Int.toNat_of_nonneg sign, zpow_natCast] at value
        have cast : n = m * 2 ^ q.toNat * d := by exact_mod_cast value
        rw [cast, Nat.mul_assoc, Nat.mul_comm d]
        rfl
      rw [exact_]
      exact roundHalfEven_mul m (Nat.mul_pos hd (Nat.two_pow_pos _))
    · rw [if_neg sign]
      have exact_ : n * Nat.pow 2 (-q).toNat = m * d := by
        have flip : (2 : ℚ) ^ q = ((2 : ℚ) ^ (-q).toNat)⁻¹ := by
          rw [← zpow_natCast, Int.toNat_of_nonneg (by omega), zpow_neg, inv_inv]
        rw [div_eq_iff pos, flip] at value
        have power : ((2 : ℚ) ^ (-q).toNat) ≠ 0 := by positivity
        have cast : (n : ℚ) * 2 ^ (-q).toNat = m * d := by
          rw [value]
          field_simp
        exact_mod_cast cast
      rw [exact_]
      exact roundHalfEven_mul m hd
  unfold ofRatio?
  rw [if_neg (by omega)]
  dsimp only
  rw [place, number]
  rfl

/-! ### Patterns and what they write -/

section

variable {f : Format} {x : Nat}

/-- The exponent field of an unsigned pattern below infinity. -/
theorem exponentField_of_lt (hx : x < f.infinity) :
    f.exponentField x = x / 2 ^ f.mantissaBits ∧ x / 2 ^ f.mantissaBits < f.special := by
  have below : x / 2 ^ f.mantissaBits < f.special := Nat.div_lt_of_lt_mul (by
    rw [Nat.mul_comm]
    exact hx)
  refine ⟨Nat.mod_eq_of_lt (Nat.lt_of_lt_of_le below (Nat.sub_le _ _)), below⟩

/-- Small numbers have the least exponent. -/
theorem fields_small (small : x < 2 ^ f.mantissaBits) :
    f.mantissa x = x ∧ f.exponent x = -(f.lowest : ℤ) := by
  have field : f.exponentField x = 0 := by
    unfold Format.exponentField
    simp only [Nat.pow_eq]
    rw [Nat.div_eq_of_lt small, Nat.zero_mod]
  unfold Format.mantissa Format.exponent Format.mantissaField
  rw [field]
  refine ⟨Nat.mod_eq_of_lt small, ?_⟩
  push_cast
  omega

/-- The others have a full mantissa. -/
theorem fields_full (hx : x < f.infinity) (full : 2 ^ f.mantissaBits ≤ x) :
    f.mantissa x = x % 2 ^ f.mantissaBits + 2 ^ f.mantissaBits ∧
      f.exponent x = (x / 2 ^ f.mantissaBits : ℕ) - 1 - (f.lowest : ℤ) := by
  have field := (exponentField_of_lt hx).1
  have positive : 0 < x / 2 ^ f.mantissaBits := Nat.div_pos full (Nat.two_pow_pos _)
  unfold Format.mantissa Format.exponent Format.mantissaField
  simp only [Nat.pow_eq]
  rw [field, if_neg (by simpa using Nat.pos_iff_ne_zero.mp positive)]
  refine ⟨rfl, ?_⟩
  omega

theorem writes_fields (hx : x < f.infinity) : f.Writes (f.mantissa x) (f.exponent x) := by
  have part : x % 2 ^ f.mantissaBits < 2 ^ f.mantissaBits := Nat.mod_lt _ (Nat.two_pow_pos _)
  have double : 2 ^ (f.mantissaBits + 1) = 2 * 2 ^ f.mantissaBits := Nat.pow_succ'
  unfold Format.Writes
  rw [double]
  rcases Nat.lt_or_ge x (2 ^ f.mantissaBits) with small | full
  · obtain ⟨mantissa, exponent⟩ := fields_small small
    rw [mantissa, exponent]
    omega
  · have positive : 0 < x / 2 ^ f.mantissaBits := Nat.div_pos full (Nat.two_pow_pos _)
    obtain ⟨mantissa, exponent⟩ := fields_full hx full
    rw [mantissa, exponent]
    omega

theorem pack_fields (hx : x < f.infinity) : f.pack (f.mantissa x) (f.exponent x) = x := by
  unfold Format.pack
  rcases Nat.lt_or_ge x (2 ^ f.mantissaBits) with small | full
  · rw [(fields_small small).1, if_pos small]
  · obtain ⟨mantissa, exponent⟩ := fields_full hx full
    have positive : 0 < x / 2 ^ f.mantissaBits := Nat.div_pos full (Nat.two_pow_pos _)
    rw [mantissa, exponent, if_neg (by omega), Nat.add_sub_cancel, Int.sub_add_cancel]
    have place : (((x / 2 ^ f.mantissaBits : ℕ) : ℤ) - 1).toNat + 1 = x / 2 ^ f.mantissaBits := by
      omega
    rw [place, Nat.mul_comm, Nat.div_add_mod]

theorem fields_pack {m : Nat} {q : ℤ} (writes : f.Writes m q) (hx : f.pack m q < f.infinity) :
    f.mantissa (f.pack m q) = m ∧ f.exponent (f.pack m q) = q := by
  obtain ⟨short, least, full⟩ := writes
  have double : 2 ^ (f.mantissaBits + 1) = 2 * 2 ^ f.mantissaBits := Nat.pow_succ'
  rw [double] at short
  rcases Nat.lt_or_ge m (2 ^ f.mantissaBits) with small | large
  · have packed : f.pack m q = m := if_pos small
    rw [packed]
    obtain ⟨mantissa, exponent⟩ := fields_small small
    exact ⟨mantissa, exponent.trans (full.resolve_left (Nat.not_le.mpr small)).symm⟩
  · have packed : f.pack m q =
        2 ^ f.mantissaBits * ((q + f.lowest).toNat + 1) + (m - 2 ^ f.mantissaBits) := by
      rw [Format.pack, if_neg (Nat.not_lt.mpr large), Nat.mul_comm]
    have part : m - 2 ^ f.mantissaBits < 2 ^ f.mantissaBits := by omega
    have above : 2 ^ f.mantissaBits ≤ f.pack m q := by
      rw [packed]
      exact Nat.le_add_right_of_le (Nat.le_mul_of_pos_right _ (Nat.succ_pos _))
    obtain ⟨mantissa, exponent⟩ := fields_full hx above
    rw [mantissa, exponent, packed, Nat.mul_add_mod, Nat.mod_eq_of_lt part,
      Nat.mul_add_div (Nat.two_pow_pos _), Nat.div_eq_of_lt part]
    omega

end

/-! ### Converting what is exact -/

section

variable {f g : Format} {x y : Nat}

theorem toRatio_value (f : Format) (bits : Nat) :
    0 < (toRatio f bits).2 ∧ ((toRatio f bits).1 : ℚ) / (toRatio f bits).2 = f.value bits := by
  unfold toRatio Format.value
  dsimp only
  by_cases sign : f.exponent bits ≥ 0
  · rw [if_pos sign]
    refine ⟨Nat.one_pos, ?_⟩
    conv_rhs => rw [← Int.toNat_of_nonneg sign, zpow_natCast]
    change ((f.mantissa bits * 2 ^ (f.exponent bits).toNat : ℕ) : ℚ) / ((1 : ℕ) : ℚ) = _
    push_cast
    rw [div_one]
  · rw [if_neg sign]
    refine ⟨Nat.two_pow_pos _, ?_⟩
    have flip : (2 : ℚ) ^ f.exponent bits = ((2 : ℚ) ^ (-f.exponent bits).toNat)⁻¹ := by
      rw [← zpow_natCast, Int.toNat_of_nonneg (by omega), zpow_neg, inv_inv]
    rw [flip, div_eq_mul_inv]
    change _ * (((2 ^ (-f.exponent bits).toNat : ℕ) : ℚ))⁻¹ = _
    push_cast
    rfl

theorem value_pos (h : 0 < f.mantissa x) : 0 < f.value x := by
  have cast : (0 : ℚ) < f.mantissa x := by exact_mod_cast h
  unfold Format.value
  positivity

/-- A number that another format can write has its pattern there. -/
theorem ofRatio?_toRatio (hm : 0 < f.mantissa x) (hy : y < g.infinity)
    (same : f.value x = g.value y) : ofRatio? g (toRatio f x).1 (toRatio f x).2 = some y := by
  obtain ⟨hd, value⟩ := toRatio_value f x
  have positive : 0 < f.value x := value_pos hm
  have hn : 0 < (toRatio f x).1 := by
    refine Nat.pos_iff_ne_zero.mpr fun zero => ?_
    rw [zero, Nat.cast_zero, zero_div] at value
    exact absurd value (ne_of_lt positive)
  have hm' : 0 < g.mantissa y := by
    refine Nat.pos_iff_ne_zero.mpr fun zero => ?_
    have nothing : g.value y = 0 := by rw [Format.value, zero, Nat.cast_zero, zero_mul]
    rw [same, nothing] at positive
    exact absurd positive (lt_irrefl 0)
  have exact_ := ofRatio?_pack hn hd hm' (value.trans same) (writes_fields hy)
  rw [pack_fields hy, if_pos hy] at exact_
  exact exact_

end

/-! ### Signs -/

section

variable {f g : Format} {x : Nat}

theorem signBit_eq (f : Format) : f.signBit = 2 ^ f.mantissaBits * 2 ^ f.exponentBits :=
  Nat.pow_add 2 f.mantissaBits f.exponentBits

theorem infinity_le_signBit (f : Format) : f.infinity ≤ f.signBit := by
  rw [signBit_eq, Nat.mul_comm]
  exact Nat.mul_le_mul_right _ (Nat.sub_le _ _)

theorem isFinite_of_lt (hx : x < f.infinity) : f.isFinite x = true := by
  obtain ⟨field, below⟩ := exponentField_of_lt hx
  rw [Format.isFinite, field]
  exact bne_iff_ne.mpr (Nat.ne_of_lt below)

theorem isNaN_eq_false_of_lt (hx : x < f.infinity) : f.isNaN x = false := by
  rw [Format.isNaN, Bool.and_eq_false_iff]
  exact .inl (beq_false_of_ne (bne_iff_ne.mp (isFinite_of_lt hx)))

/-- The sign is apart from the other fields. -/
theorem fields_withSign (f : Format) (negative : Bool) (x : Nat) :
    f.exponentField (withSign f negative x) = f.exponentField x ∧
      f.mantissaField (withSign f negative x) = f.mantissaField x := by
  cases negative with
  | false => exact ⟨rfl, rfl⟩
  | true =>
      have sum : withSign f true x = x + 2 ^ f.mantissaBits * 2 ^ f.exponentBits := by
        rw [withSign, if_pos rfl, signBit_eq]
      rw [sum]
      unfold Format.exponentField Format.mantissaField
      simp only [Nat.pow_eq]
      rw [Nat.add_mul_div_left _ _ (Nat.two_pow_pos _), Nat.add_mod_right, Nat.add_mul_mod_self_left]
      exact ⟨rfl, rfl⟩

theorem isNegative_withSign (negative : Bool) (hx : x < f.signBit) :
    f.isNegative (withSign f negative x) = negative := by
  unfold Format.isNegative
  cases negative with
  | false =>
      rw [withSign, if_neg Bool.false_ne_true, Nat.div_eq_of_lt hx]
      rfl
  | true =>
      rw [withSign, if_pos rfl, Nat.add_div_right _ (Nat.zero_lt_of_lt hx), Nat.div_eq_of_lt hx]
      rfl

theorem withSign_lt (negative : Bool) (hx : x < f.signBit) : withSign f negative x < 2 * f.signBit := by
  cases negative with
  | false => exact Nat.lt_of_lt_of_le hx (Nat.le_mul_of_pos_left _ Nat.two_pos)
  | true =>
      rw [Nat.two_mul]
      exact Nat.add_lt_add_right hx _

theorem unsigned_withSign (negative : Bool) (hx : x < f.signBit) :
    withSign f negative x % f.signBit = x := by
  cases negative with
  | false => exact Nat.mod_eq_of_lt hx
  | true => exact (Nat.add_mod_right _ _).trans (Nat.mod_eq_of_lt hx)

theorem isFinite_withSign (f : Format) (negative : Bool) (x : Nat) :
    f.isFinite (withSign f negative x) = f.isFinite x := by
  rw [Format.isFinite, (fields_withSign f negative x).1, Format.isFinite]

theorem isNaN_withSign (f : Format) (negative : Bool) (x : Nat) :
    f.isNaN (withSign f negative x) = f.isNaN x := by
  rw [Format.isNaN, (fields_withSign f negative x).1, (fields_withSign f negative x).2,
    Format.isNaN]

theorem toRatio_withSign (f : Format) (negative : Bool) (x : Nat) :
    toRatio f (withSign f negative x) = toRatio f x := by
  obtain ⟨exponent, mantissa⟩ := fields_withSign f negative x
  unfold toRatio Format.exponent Format.mantissa
  rw [exponent, mantissa]

theorem convert_withSign (negative : Bool) (hx : x < f.signBit) :
    convert f g (withSign f negative x) = withSign g negative (convert f g x) := by
  have plain : f.isNegative x = false := isNegative_withSign false hx
  unfold convert
  rw [isNegative_withSign negative hx, isNaN_withSign, isFinite_withSign, toRatio_withSign,
    (fields_withSign f negative x).2, plain]
  rfl

/-- A pattern is a sign and the rest. -/
theorem withSign_mod (f : Format) {bits : Nat} (h : bits < 2 * f.signBit) :
    withSign f (f.isNegative bits) (bits % f.signBit) = bits := by
  have whole := Nat.div_add_mod bits f.signBit
  have few : bits / f.signBit < 2 := Nat.div_lt_of_lt_mul (by rwa [Nat.mul_comm] at h)
  unfold Format.isNegative withSign
  rcases Nat.lt_or_ge (bits / f.signBit) 1 with zero | one
  · have none : bits / f.signBit = 0 := Nat.lt_one_iff.mp zero
    rw [none] at whole ⊢
    rw [if_neg (by decide)]
    omega
  · have sign : bits / f.signBit = 1 := Nat.le_antisymm (Nat.le_of_lt_succ few) one
    rw [sign] at whole ⊢
    rw [if_pos (by decide)]
    omega

end

/-! ### There and back -/

/-- The 64-bit pattern of the greatest finite 32-bit number. -/
def greatest : Nat := 5183643170566569984

/-- A positive 32-bit number is a 64-bit number, no greater than the greatest. -/
theorem widened {x : Nat} (hx : x < binary32.infinity) (hm : 0 < binary32.mantissa x) :
    ∃ y < binary64.infinity, binary32.value x = binary64.value y ∧ 0 < binary64.mantissa y ∧
      y ≤ greatest := by
  obtain ⟨short, least, -⟩ := writes_fields hx
  have most : binary32.exponent x ≤ 104 := by
    rcases Nat.lt_or_ge x (2 ^ binary32.mantissaBits) with small | full
    · rw [(fields_small small).2]
      decide
    · have field := (exponentField_of_lt hx).2
      rw [(fields_full hx full).2]
      change x / 2 ^ binary32.mantissaBits < 255 at field
      change ((x / 2 ^ binary32.mantissaBits : ℕ) : ℤ) - 1 - 149 ≤ 104
      omega
  change -149 ≤ binary32.exponent x at least
  change binary32.mantissa x < 16777216 at short
  rw [Format.value]
  generalize binary32.mantissa x = m at *
  generalize binary32.exponent x = e at *
  have few : m.log2 < 24 := (Nat.log2_lt (Nat.pos_iff_ne_zero.mp hm)).mpr short
  -- the mantissa is moved up until it is full
  obtain ⟨s, shift⟩ : ∃ s, m.log2 + s = 52 := ⟨52 - m.log2, by omega⟩
  have low : 2 ^ 52 ≤ m * 2 ^ s := by
    rw [← shift, Nat.pow_add]
    exact Nat.mul_le_mul_right _ (Nat.log2_self_le (Nat.pos_iff_ne_zero.mp hm))
  have high : m * 2 ^ s < 2 ^ 53 := by
    rw [← show m.log2 + 1 + s = 53 by omega, Nat.pow_add]
    exact Nat.mul_lt_mul_of_pos_right Nat.lt_log2_self (Nat.two_pow_pos s)
  have top : s = 29 → m * 2 ^ s ≤ 16777215 * 2 ^ 29 := by
    rintro rfl
    exact Nat.mul_le_mul_right _ (Nat.le_of_lt_succ short)
  have value : (m : ℚ) * 2 ^ e = (m * 2 ^ s : ℕ) * 2 ^ (e - s) := by
    push_cast
    rw [mul_assoc, ← zpow_natCast, ← zpow_add₀ two_ne_zero]
    congr 2
    ring
  generalize m * 2 ^ s = full at *
  have writes : binary64.Writes full (e - s) := by
    refine ⟨high, ?_, .inl low⟩
    change -1074 ≤ e - s
    omega
  have packed : binary64.pack full (e - s) =
      ((e - s + 1074).toNat + 1) * 4503599627370496 + (full - 4503599627370496) :=
    if_neg (Nat.not_lt.mpr low)
  have bound : binary64.pack full (e - s) ≤ greatest := by
    rw [packed, greatest]
    omega
  have below : binary64.pack full (e - s) < binary64.infinity :=
    Nat.lt_of_le_of_lt bound (by decide)
  obtain ⟨mantissa, exponent⟩ := fields_pack writes below
  refine ⟨_, below, ?_, ?_, bound⟩
  · rw [value, Format.value, mantissa, exponent]
  · rw [mantissa]
    omega

/-- What becomes of an unsigned 32-bit pattern on its way to 64 bits and back. -/
structure Returns (x : Nat) : Prop where
  short : convert binary32 binary64 x < binary64.signBit
  bounded : binary64.isFinite (convert binary32 binary64 x) = true →
    convert binary32 binary64 x ≤ greatest
  back : binary32.isNaN x = false →
    convert binary64 binary32 (convert binary32 binary64 x) = x
  nan : binary32.isNaN x = true →
    convert binary64 binary32 (convert binary32 binary64 x) < binary32.signBit ∧
      binary32.isNaN (convert binary64 binary32 (convert binary32 binary64 x)) = true

/-- What an unsigned finite pattern is converted to: the nearest finite one, or infinity. -/
theorem convert_of_lt {f g : Format} {x : Nat} (hx : x < f.infinity) :
    convert f g x = (ofRatio? g (toRatio f x).1 (toRatio f x).2).getD g.infinity := by
  have plain : f.isNegative x = false :=
    isNegative_withSign false (Nat.lt_of_lt_of_le hx (infinity_le_signBit f))
  unfold convert
  rw [plain, isNaN_eq_false_of_lt hx, isFinite_of_lt hx]
  rfl

theorem convert_finite {f g : Format} {x y : Nat} (hx : x < f.infinity)
    (ratio : ofRatio? g (toRatio f x).1 (toRatio f x).2 = some y) : convert f g x = y := by
  rw [convert_of_lt hx, ratio, Option.getD_some]

theorem eq_zero_of_mantissa {f : Format} {x : Nat} (hx : x < f.infinity) (zero : f.mantissa x = 0) :
    x = 0 := by
  have packed := pack_fields hx
  rw [zero, Format.pack, if_pos (Nat.two_pow_pos _)] at packed
  exact packed.symm

theorem returns_finite {x : Nat} (hx : x < binary32.infinity) : Returns x := by
  rcases Nat.eq_zero_or_pos (binary32.mantissa x) with zero | positive
  · obtain rfl := eq_zero_of_mantissa hx zero
    exact ⟨by decide, fun _ => by decide, fun _ => by decide, fun h => absurd h (by decide)⟩
  · obtain ⟨y, hy, same, positive', bound⟩ := widened hx positive
    have there : convert binary32 binary64 x = y :=
      convert_finite hx (ofRatio?_toRatio positive hy same)
    have back : convert binary64 binary32 y = x :=
      convert_finite hy (ofRatio?_toRatio positive' hx same.symm)
    rw [← there] at back bound hy
    refine ⟨Nat.lt_trans hy (by decide), fun _ => bound, fun _ => back, fun nan => ?_⟩
    rw [isNaN_eq_false_of_lt hx] at nan
    cases nan

/-- A pattern above infinity is not a number. -/
theorem isNaN_of_lt {f : Format} {part : Nat} (positive : 0 < part)
    (hp : part < 2 ^ f.mantissaBits) :
    f.isNaN (f.infinity + part) = true ∧ f.mantissaField (f.infinity + part) = part ∧
      f.exponentField (f.infinity + part) = f.special := by
  have sum : f.infinity + part = 2 ^ f.mantissaBits * f.special + part := by
    rw [Format.infinity, Nat.mul_comm]
    rfl
  have special : f.special < 2 ^ f.exponentBits := Nat.sub_lt (Nat.two_pow_pos _) Nat.one_pos
  have mantissa : f.mantissaField (f.infinity + part) = part := by
    rw [sum, Format.mantissaField, Nat.pow_eq, Nat.mul_add_mod, Nat.mod_eq_of_lt hp]
  have exponent : f.exponentField (f.infinity + part) = f.special := by
    rw [sum, Format.exponentField, Nat.pow_eq, Nat.pow_eq, Nat.mul_add_div (Nat.two_pow_pos _),
      Nat.div_eq_of_lt hp, Nat.add_zero, Nat.mod_eq_of_lt special]
  refine ⟨?_, mantissa, exponent⟩
  rw [Format.isNaN, mantissa, exponent, beq_self_eq_true, Bool.true_and, bne_iff_ne]
  exact Nat.pos_iff_ne_zero.mp positive

/-- What a pattern that is not a number is converted to: at least the quiet bit is set. -/
theorem convert_nan {f g : Format} {x : Nat} (plain : f.isNegative x = false)
    (nan : f.isNaN x = true) : convert f g x = g.infinity + max (2 ^ (g.mantissaBits - 1))
      (if g.mantissaBits ≤ f.mantissaBits then
        f.mantissaField x / 2 ^ (f.mantissaBits - g.mantissaBits)
      else f.mantissaField x * 2 ^ (g.mantissaBits - f.mantissaBits)) := by
  unfold convert
  rw [plain, nan]
  rfl

/-- A pattern that is not a number becomes another one. -/
theorem returns_nan {part : Nat} (positive : 0 < part) (hp : part < 2 ^ binary32.mantissaBits) :
    Returns (binary32.infinity + part) := by
  obtain ⟨nan, mantissa, -⟩ := isNaN_of_lt positive hp
  have plain : binary32.isNegative (binary32.infinity + part) = false := by
    refine isNegative_withSign false (Nat.lt_of_lt_of_le (Nat.add_lt_add_left hp _) ?_)
    decide
  have there := convert_nan (g := binary64) plain nan
  rw [mantissa, if_neg (by decide)] at there
  have short : max (2 ^ (binary64.mantissaBits - 1))
      (part * 2 ^ (binary64.mantissaBits - binary32.mantissaBits)) < 2 ^ binary64.mantissaBits := by
    refine Nat.max_lt.mpr ⟨by decide, ?_⟩
    have product := Nat.mul_lt_mul_of_pos_right hp
      (Nat.two_pow_pos (binary64.mantissaBits - binary32.mantissaBits))
    exact Nat.lt_of_lt_of_le product (by decide)
  have full : 0 < max (2 ^ (binary64.mantissaBits - 1))
      (part * 2 ^ (binary64.mantissaBits - binary32.mantissaBits)) :=
    Nat.lt_of_lt_of_le (Nat.two_pow_pos _) (Nat.le_max_left _ _)
  generalize max (2 ^ (binary64.mantissaBits - 1))
    (part * 2 ^ (binary64.mantissaBits - binary32.mantissaBits)) = wide at *
  obtain ⟨nan', mantissa', exponent'⟩ := isNaN_of_lt full short
  have below : binary64.infinity + wide < binary64.signBit :=
    Nat.lt_of_lt_of_le (Nat.add_lt_add_left short _) (by decide)
  have back := convert_nan (g := binary32) (isNegative_withSign false below) nan'
  rw [withSign, if_neg Bool.false_ne_true, mantissa', if_pos (by decide)] at back
  have narrow : max (2 ^ (binary32.mantissaBits - 1))
      (wide / 2 ^ (binary64.mantissaBits - binary32.mantissaBits)) < 2 ^ binary32.mantissaBits := by
    refine Nat.max_lt.mpr ⟨by decide, Nat.div_lt_of_lt_mul (Nat.lt_of_lt_of_le short ?_)⟩
    decide
  have quiet : 0 < max (2 ^ (binary32.mantissaBits - 1))
      (wide / 2 ^ (binary64.mantissaBits - binary32.mantissaBits)) :=
    Nat.lt_of_lt_of_le (Nat.two_pow_pos _) (Nat.le_max_left _ _)
  refine ⟨there ▸ below, fun finite => ?_, fun h => ?_, fun _ => ?_⟩
  · rw [there, Format.isFinite, exponent', bne_self_eq_false] at finite
    cases finite
  · rw [nan] at h
    cases h
  · rw [there, back]
    exact ⟨Nat.lt_of_lt_of_le (Nat.add_lt_add_left narrow _) (by decide),
      (isNaN_of_lt quiet narrow).1⟩

theorem returns {x : Nat} (hx : x < binary32.signBit) : Returns x := by
  rcases Nat.lt_or_ge x binary32.infinity with finite | above
  · exact returns_finite finite
  · obtain ⟨part, rfl⟩ := Nat.exists_eq_add_of_le above
    rcases Nat.eq_zero_or_pos part with rfl | positive
    · refine ⟨by decide, fun h => absurd h (by decide), fun _ => by decide, fun h => ?_⟩
      exact absurd h (by decide)
    · refine returns_nan positive ?_
      change 2139095040 + part < 2147483648 at hx
      change part < 8388608
      omega

end GuestBridge.Number

namespace GuestBridge.Bridge

open Number

/-- **A 32-bit number comes back from 64 bits as it was**, and what is not a number as what is not
one. -/
theorem narrow?_widen (b : UInt32) : ∃ c, narrow? false (widen b) = some c ∧
    (binary32.isNaN b.toNat = false → c = b) ∧
    (binary32.isNaN b.toNat = true → binary32.isNaN c.toNat = true) := by
  have size : b.toNat < 2 * binary32.signBit := b.toNat_lt
  have hx : b.toNat % binary32.signBit < binary32.signBit := Nat.mod_lt _ (by decide)
  have split := withSign_mod binary32 size
  generalize hs : binary32.isNegative b.toNat = negative at split
  generalize b.toNat % binary32.signBit = x at split hx
  obtain ⟨short, bounded, back, nan⟩ := returns hx
  have wide : widen b = withSign binary64 negative (convert binary32 binary64 x) := by
    rw [widen, ← split, convert_withSign negative hx]
  have fits : ¬ (binary64.isFinite (widen b) = true ∧
      greatest < widen b % binary64.signBit) := by
    rw [wide, unsigned_withSign negative short, isFinite_withSign]
    exact fun h => Nat.not_le.mpr h.2 (bounded h.1)
  refine ⟨UInt32.ofNat (withSign binary32 negative
    (convert binary64 binary32 (convert binary32 binary64 x))), ?_, fun plain => ?_, fun h => ?_⟩
  · have same : convert binary64 binary32 (widen b) = withSign binary32 negative
        (convert binary64 binary32 (convert binary32 binary64 x)) := by
      rw [wide, convert_withSign negative short]
    rw [← same]
    have largest : convert binary32 binary64 (binary32.infinity - 1) = greatest := rfl
    have within : (binary64.isFinite (widen b) &&
        decide (widen b % binary64.signBit > greatest)) = false := by
      rw [Bool.and_eq_false_iff, decide_eq_false_iff_not]
      by_cases finite : binary64.isFinite (widen b) = true
      · exact .inr fun h => fits ⟨finite, h⟩
      · exact .inl (Bool.eq_false_iff.mpr finite)
    simp only [narrow?, largest, within, Bool.false_eq_true, if_false, Bool.false_and]
  · rw [← split, isNaN_withSign] at plain
    rw [back plain, split]
    exact UInt32.ofNat_toNat
  · rw [← split, isNaN_withSign] at h
    obtain ⟨narrow, stays⟩ := nan h
    rw [UInt32.toNat_ofNat_of_lt' (withSign_lt negative narrow), isNaN_withSign]
    exact stays

end GuestBridge.Bridge
