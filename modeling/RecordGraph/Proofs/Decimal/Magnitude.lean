import RecordGraph.Decimal.Double
import Mathlib.Algebra.Order.Field.Power
import Mathlib.Tactic.Positivity
import Mathlib.Tactic.Ring

namespace RecordGraph.Decimal

theorem roundHalfEven_le {num den b : Nat} (h : num < b * den) : roundHalfEven num den ≤ b := by
  have hq : num / den < b := Nat.div_lt_of_lt_mul (Nat.mul_comm b den ▸ h)
  unfold roundHalfEven
  dsimp only
  split
  · omega
  split
  · omega
  · omega

namespace Double

variable {num den b m e n : Nat} {q : Int} {x y : Double} {negative : Bool}

theorem magnitude_ofMagnitude (h : m < signBit) : (ofMagnitude negative m).magnitude = m := by
  have hbits : (UInt64.ofNat (if negative then signBit + m else m)).toNat = if negative then signBit + m else m := by
    rw [UInt64.toNat_ofNat']
    refine Nat.mod_eq_of_lt ?_
    unfold signBit at h ⊢
    split
    · omega
    · omega
  rw [magnitude, ofMagnitude, hbits]
  split
  · rw [Nat.add_mod_left, Nat.mod_eq_of_lt h]
  · exact Nat.mod_eq_of_lt h

theorem isFinite_iff : x.isFinite = true ↔ x.magnitude < infinityBits := by simp [isFinite]

theorem isFinite_ofMagnitude (h : x.isFinite = true) : (ofMagnitude negative x.magnitude).isFinite = true := by
  have hx := isFinite_iff.mp h
  rw [isFinite_iff, magnitude_ofMagnitude (hx.trans (by decide))]
  exact hx

theorem scaleRatio_pos (h : 0 < den) : 0 < (scaleRatio num den q).2 := by
  unfold scaleRatio
  split
  · exact h
  · rw [Nat.shiftLeft_eq]
    positivity

theorem div_scaleRatio (num den : Nat) (q : Int) :
    ((scaleRatio num den q).1 : ℚ) / (scaleRatio num den q).2 = num / den * 2 ^ q := by
  unfold scaleRatio
  split
  · next h =>
    have hq : (2 : ℚ) ^ q = 2 ^ q.toNat := by rw [← zpow_natCast, Int.toNat_of_nonneg h]
    rw [Nat.shiftLeft_eq, hq]
    push_cast
    rw [mul_div_right_comm]
  · next h =>
    have hq : (2 : ℚ) ^ q = (2 ^ (-q).toNat)⁻¹ := by
      rw [← zpow_natCast, Int.toNat_of_nonneg (by omega), zpow_neg, inv_inv]
    rw [Nat.shiftLeft_eq, hq]
    push_cast
    rw [div_mul_eq_div_div, div_eq_mul_inv _ ((2 : ℚ) ^ (-q).toNat)]

theorem scaleRatio_lt (hd : 0 < den) (h : (num : ℚ) / den * 2 ^ q < 2 ^ b) :
    (scaleRatio num den q).1 < 2 ^ b * (scaleRatio num den q).2 := by
  have hpos : (0 : ℚ) < (scaleRatio num den q).2 := by exact_mod_cast scaleRatio_pos hd
  rw [← div_scaleRatio, div_lt_iff₀ hpos] at h
  exact_mod_cast h

theorem div_lt_binaryExponent (h : 0 < den) : (num : ℚ) / den < 2 ^ (binaryExponent num den + 1) := by
  have hden : (0 : ℚ) < den := by exact_mod_cast h
  unfold binaryExponent
  generalize hk : (Nat.log2 num : Int) - Nat.log2 den = k
  dsimp only
  split
  · -- by the numbers of bits alone
    have hnum : (num : ℚ) < 2 ^ (Nat.log2 num + 1) := by exact_mod_cast Nat.lt_log2_self
    have hlog : (2 : ℚ) ^ Nat.log2 den ≤ den := by exact_mod_cast Nat.log2_self_le h.ne'
    have hpow : (2 : ℚ) ^ (Nat.log2 num + 1) = 2 ^ (k + 1) * 2 ^ Nat.log2 den := by
      rw [← zpow_natCast, ← zpow_natCast, ← zpow_add₀ two_ne_zero]
      congr 1
      push_cast
      omega
    rw [div_lt_iff₀ hden]
    calc (num : ℚ) < 2 ^ (k + 1) * 2 ^ Nat.log2 den := hpow ▸ hnum
      _ ≤ 2 ^ (k + 1) * den := by gcongr
  · next hlt =>
    have hd : (0 : ℚ) < (scaleRatio num den (-k)).2 := by exact_mod_cast scaleRatio_pos h
    have hscaled : ((scaleRatio num den (-k)).1 : ℚ) / (scaleRatio num den (-k)).2 < 1 := by
      rw [div_lt_one hd]
      exact_mod_cast Nat.lt_of_not_le hlt
    rw [div_scaleRatio, zpow_neg, ← div_eq_mul_inv, div_lt_one (by positivity)] at hscaled
    rwa [Int.sub_add_cancel]

theorem binaryExponent_le (h : num < 2 ^ b * den) : binaryExponent num den ≤ b := by
  have hlog : Nat.log2 num ≤ b + Nat.log2 den := by
    by_cases h0 : num = 0
    · simp [h0]
    refine Nat.lt_succ_iff.mp ((Nat.log2_lt h0).mpr (h.trans_le ?_))
    calc 2 ^ b * den ≤ 2 ^ b * 2 ^ (Nat.log2 den + 1) := Nat.mul_le_mul_left _ Nat.lt_log2_self.le
      _ = 2 ^ (b + Nat.log2 den + 1) := by rw [← Nat.pow_add, Nat.add_assoc]
  unfold binaryExponent
  dsimp only
  split
  · omega
  · omega

/-- The nearest number to a quotient below `2 ^ b` has at most that exponent; 1023 is the exponent field of 1. -/
theorem magnitude_ofRatio_le (hd : 0 < den) (h : num < 2 ^ b * den) :
    (ofRatio negative num den).magnitude ≤ (b + 1024) * fractions := by
  unfold ofRatio
  split
  · rw [magnitude_ofMagnitude (by decide)]
    exact Nat.zero_le _
  generalize hq : max (binaryExponent num den - 52) (-1074) = q
  dsimp only
  have hround : roundHalfEven (scaleRatio num den (-q)).1 (scaleRatio num den (-q)).2 ≤ 2 ^ 53 := by
    apply roundHalfEven_le
    apply scaleRatio_lt hd
    calc (num : ℚ) / den * 2 ^ (-q) < 2 ^ (binaryExponent num den + 1) * 2 ^ (-q) := by
          gcongr
          exact div_lt_binaryExponent hd
      _ = 2 ^ (binaryExponent num den + 1 + -q) := (zpow_add₀ two_ne_zero _ _).symm
      _ ≤ 2 ^ (53 : Int) := zpow_le_zpow_right₀ one_le_two (by omega)
      _ = 2 ^ 53 := by norm_cast
  have hexp : (q + 1074).toNat ≤ b + 1022 := by
    have := binaryExponent_le h
    omega
  rw [magnitude_ofMagnitude]
  · calc min _ infinityBits ≤ (q + 1074).toNat * fractions + 2 ^ 53 :=
          (Nat.min_le_left _ _).trans (Nat.add_le_add_left hround _)
      _ ≤ (b + 1022) * fractions + 2 * fractions := Nat.add_le_add (Nat.mul_le_mul_right _ hexp) (by decide)
      _ = (b + 1024) * fractions := by rw [← Nat.add_mul]
  · exact (Nat.min_le_right _ _).trans_lt (by decide)

theorem scaled_fst_lt : x.scaled.1 < 2 ^ 53 := by
  have hf : x.magnitude % fractions < fractions := Nat.mod_lt _ (by decide)
  have h2 : 2 * fractions = 2 ^ 53 := by decide
  unfold scaled
  dsimp only
  split
  · omega
  · dsimp only
    omega

theorem scaled_snd_le (he : 0 < e) (h : x.magnitude ≤ e * fractions) : x.scaled.2 ≤ (e : Int) - 1075 := by
  have hdiv : x.magnitude / fractions ≤ e := Nat.div_le_of_le_mul (Nat.mul_comm e fractions ▸ h)
  unfold scaled
  dsimp only
  split
  · omega
  · simp only [Int.ofNat_eq_natCast]
    omega

theorem scaled_of_le (he : 0 < e) (h : e * fractions ≤ x.magnitude) :
    fractions ≤ x.scaled.1 ∧ (e : Int) - 1075 ≤ x.scaled.2 := by
  have hdiv : e ≤ x.magnitude / fractions := (Nat.le_div_iff_mul_le (by decide)).mpr h
  unfold scaled
  dsimp only
  rw [if_neg (by omega)]
  simp only [Int.ofNat_eq_natCast]
  exact ⟨Nat.le_add_right _ _, by omega⟩

/-- Division by a number of at least 8, of which 1026 is the exponent field, makes the exponent smaller. -/
theorem magnitude_div_le (hx : x.magnitude ≤ (b + 1025) * fractions) (hy : 1026 * fractions ≤ y.magnitude) :
    (x.div y).magnitude ≤ (b + 1024) * fractions := by
  have hxm : x.scaled.1 < 2 ^ 53 := scaled_fst_lt
  have hxq : x.scaled.2 ≤ ((b + 1025 : Nat) : Int) - 1075 := scaled_snd_le (Nat.succ_pos _) hx
  obtain ⟨hym, hyq⟩ := scaled_of_le (by decide) hy
  have hfractions : 2 * fractions = 2 ^ 53 := by decide
  have hnpos : 0 < y.scaled.1 := by omega
  have hquot : (x.scaled.1 : ℚ) / y.scaled.1 < 2 := by
    have hlt : x.scaled.1 < 2 * y.scaled.1 := by omega
    rw [div_lt_iff₀ (by exact_mod_cast hnpos)]
    exact_mod_cast hlt
  unfold div
  dsimp only
  refine magnitude_ofRatio_le (scaleRatio_pos hnpos) (scaleRatio_lt hnpos ?_)
  calc (x.scaled.1 : ℚ) / y.scaled.1 * 2 ^ (x.scaled.2 - y.scaled.2)
      < 2 * 2 ^ (x.scaled.2 - y.scaled.2) := by gcongr
    _ ≤ 2 * 2 ^ ((b : Int) - 1) := by
      have hexp : x.scaled.2 - y.scaled.2 ≤ (b : Int) - 1 := by omega
      gcongr
      exact one_le_two
    _ = 2 ^ b := by
      rw [zpow_sub_one₀ two_ne_zero, zpow_natCast]
      ring

end Double

end RecordGraph.Decimal
