import Mathlib.Algebra.Order.Field.Power
import Mathlib.Data.Rat.Cast.Order
import Mathlib.Tactic.FieldSimp
import Mathlib.Tactic.Linarith
import Mathlib.Tactic.NormNum
import Mathlib.Tactic.Positivity
import Mathlib.Tactic.Ring
import QueryTemplate.Number.Binary64

/-!
# What rounding depends on

Rounding to the binary64 format is written with a numerator and a denominator, but only their
quotient matters (`round_mul`), and a quotient that already is a number of the format is left as it
is (`round_magnitude`).  The bridge is `targetExponent_eq`: the exponent of the rounded significand
is found from the power of two just below the quotient.
-/

namespace QueryTemplate.Binary64

variable {num den : ℕ}

/-- Scaling multiplies the quotient by a power of two. -/
lemma scale_div (num den : ℕ) (e : ℤ) :
    ((scale num den e).1 : ℚ) / (scale num den e).2 = num / den * 2 ^ e := by
  cases e with
  | ofNat k =>
    simp only [scale, Nat.pow_eq, Int.ofNat_eq_natCast, zpow_natCast]
    push_cast
    ring
  | negSucc k =>
    simp only [scale, Nat.pow_eq, zpow_negSucc]
    push_cast
    rw [div_mul_eq_div_div, div_eq_mul_inv (_ / _)]

lemma scale_pos (hd : 0 < den) (e : ℤ) : 0 < (scale num den e).2 := by
  cases e with
  | ofNat k => exact hd
  | negSucc k => exact Nat.mul_pos hd (Nat.pow_pos Nat.two_pos)

lemma scale_mul (c : ℕ) (e : ℤ) :
    scale (c * num) (c * den) e = (c * (scale num den e).1, c * (scale num den e).2) := by
  cases e with
  | ofNat k => simp [scale, Nat.mul_assoc]
  | negSucc k => simp [scale, Nat.mul_assoc]

/-! ## The exponent -/

/-- There is one power of two just below a positive quotient. -/
lemma exponent_unique {q : ℚ} {k l : ℤ} (hk : 2 ^ k ≤ q) (hk' : q < 2 ^ (k + 1)) (hl : 2 ^ l ≤ q)
    (hl' : q < 2 ^ (l + 1)) : k = l := by
  have h₁ : k < l + 1 := (zpow_lt_zpow_iff_right₀ (by norm_num : (1 : ℚ) < 2)).mp (hk.trans_lt hl')
  have h₂ : l < k + 1 := (zpow_lt_zpow_iff_right₀ (by norm_num : (1 : ℚ) < 2)).mp (hl.trans_lt hk')
  omega

lemma cast_log2_le (h : 0 < num) : (2 : ℚ) ^ (num.log2 : ℤ) ≤ num := by
  rw [zpow_natCast]
  exact_mod_cast Nat.log2_self_le h.ne'

lemma cast_lt_log2 : (num : ℚ) < 2 ^ ((num.log2 : ℤ) + 1) := by
  have h : num < 2 ^ (num.log2 + 1) := Nat.lt_log2_self
  exact_mod_cast h

/-- The exponents of numerator and denominator give that of the quotient up to one. -/
lemma exponent_between (hn : 0 < num) (hd : 0 < den) :
    (2 : ℚ) ^ ((num.log2 : ℤ) - den.log2 - 1) ≤ num / den ∧
      (num : ℚ) / den < 2 ^ ((num.log2 : ℤ) - den.log2 + 1) := by
  have hd' : (0 : ℚ) < den := by exact_mod_cast hd
  constructor
  · rw [le_div_iff₀ hd']
    calc (2 : ℚ) ^ ((num.log2 : ℤ) - den.log2 - 1) * den
        ≤ 2 ^ ((num.log2 : ℤ) - den.log2 - 1) * 2 ^ ((den.log2 : ℤ) + 1) := by
          gcongr
          exact cast_lt_log2.le
      _ = 2 ^ (num.log2 : ℤ) := by
          rw [← zpow_add₀ (by norm_num)]
          congr 1
          ring
      _ ≤ num := cast_log2_le hn
  · rw [div_lt_iff₀ hd']
    calc (num : ℚ) < 2 ^ ((num.log2 : ℤ) + 1) := cast_lt_log2
      _ = 2 ^ ((num.log2 : ℤ) - den.log2 + 1) * 2 ^ (den.log2 : ℤ) := by
          rw [← zpow_add₀ (by norm_num)]
          congr 1
          ring
      _ ≤ 2 ^ ((num.log2 : ℤ) - den.log2 + 1) * den := by
          gcongr
          exact cast_log2_le hd

/-- The exponent of the significand is found from the power of two just below the quotient. -/
theorem targetExponent_eq (hn : 0 < num) (hd : 0 < den) {k : ℤ} (hk : (2 : ℚ) ^ k ≤ num / den)
    (hk' : (num : ℚ) / den < 2 ^ (k + 1)) : targetExponent num den = max (-1074) (k - 52) := by
  obtain ⟨hlow, hhigh⟩ := exponent_between hn hd
  rw [targetExponent]
  generalize hs : (num.log2 : ℤ) - den.log2 = s at hlow hhigh
  have hsd : (0 : ℚ) < (scale num den (-s)).2 := by exact_mod_cast scale_pos hd _
  have hle : (scale num den (-s)).2 ≤ (scale num den (-s)).1 ↔ (2 : ℚ) ^ s ≤ num / den := by
    rw [← Nat.cast_le (α := ℚ), ← one_le_div₀ hsd, scale_div, zpow_neg, ← div_eq_mul_inv,
      one_le_div₀ (by positivity)]
  dsimp only
  split_ifs with h
  · rw [exponent_unique hk hk' (hle.mp h) hhigh]
  · have hlt : (num : ℚ) / den < 2 ^ (s - 1 + 1) := by
      rw [sub_add_cancel]
      exact not_le.mp (hle.not.mp h)
    rw [exponent_unique hk hk' hlow hlt]
    congr 1
    ring

lemma exists_exponent (hn : 0 < num) (hd : 0 < den) :
    ∃ k : ℤ, (2 : ℚ) ^ k ≤ num / den ∧ (num : ℚ) / den < 2 ^ (k + 1) := by
  obtain ⟨hlow, hhigh⟩ := exponent_between hn hd
  by_cases h : (2 : ℚ) ^ ((num.log2 : ℤ) - den.log2) ≤ num / den
  · exact ⟨_, h, hhigh⟩
  · refine ⟨_, hlow, ?_⟩
    rw [sub_add_cancel]
    exact not_le.mp h

/-! ## Rounding -/

variable {c : ℕ}

lemma targetExponent_mul (hc : 0 < c) (hn : 0 < num) (hd : 0 < den) :
    targetExponent (c * num) (c * den) = targetExponent num den := by
  obtain ⟨k, hk, hk'⟩ := exists_exponent hn hd
  have hq : ((c * num : ℕ) : ℚ) / (c * den : ℕ) = num / den := by
    push_cast
    exact mul_div_mul_left _ _ (by exact_mod_cast hc.ne')
  rw [targetExponent_eq hn hd hk hk']
  exact targetExponent_eq (Nat.mul_pos hc hn) (Nat.mul_pos hc hd) (hq ▸ hk) (hq ▸ hk')

lemma roundHalfEven_mul (hc : 0 < c) (num den : ℕ) :
    roundHalfEven (c * num) (c * den) = roundHalfEven num den := by
  have h : ∀ a b : ℕ, c * a < c * b ↔ a < b := fun a b => Nat.mul_lt_mul_left hc
  rw [roundHalfEven, roundHalfEven, Nat.mul_div_mul_left _ _ hc, Nat.mul_mod_mul_left,
    Nat.mul_left_comm 2 c]
  simp only [h]

/-- Only the quotient matters to rounding. -/
theorem round_mul (hc : 0 < c) (hn : 0 < num) (hd : 0 < den) (negative : Bool) :
    round negative (c * num) (c * den) = round negative num den := by
  rw [round, round, targetExponent_mul hc hn hd]
  simp only [scale_mul, roundHalfEven_mul hc]

lemma roundHalfEven_mul_self {m d : ℕ} (hd : 0 < d) : roundHalfEven (m * d) d = m := by
  rw [roundHalfEven, Nat.mul_div_cancel m hd, Nat.mul_mod_left]
  simp [hd]

/-- Scaling back to the exponent of a magnitude leaves its significand. -/
lemma scale_magnitude (m : ℕ) (e : ℤ) :
    (scale (magnitude m e).1 (magnitude m e).2 (-e)).1 =
      m * (scale (magnitude m e).1 (magnitude m e).2 (-e)).2 := by
  have hd : 0 < (magnitude m e).2 := scale_pos Nat.one_pos e
  have hs : 0 < (scale (magnitude m e).1 (magnitude m e).2 (-e)).2 := scale_pos hd (-e)
  have hq : ((scale (magnitude m e).1 (magnitude m e).2 (-e)).1 : ℚ) /
      (scale (magnitude m e).1 (magnitude m e).2 (-e)).2 = m := by
    rw [scale_div, magnitude, scale_div, mul_assoc, ← zpow_add₀ (by norm_num)]
    simp
  rw [div_eq_iff (by exact_mod_cast hs.ne')] at hq
  exact_mod_cast hq

lemma targetExponent_magnitude {m : ℕ} {e : ℤ} (hm : 0 < m) (h : Canonical m e) :
    targetExponent (magnitude m e).1 (magnitude m e).2 = e := by
  obtain ⟨hlt, hmin, -, hsub⟩ := h
  have hd : 0 < (magnitude m e).2 := scale_pos Nat.one_pos e
  have hq : ((magnitude m e).1 : ℚ) / (magnitude m e).2 = m * 2 ^ e := by
    rw [magnitude, scale_div, Nat.cast_one, div_one]
  have hn : 0 < (magnitude m e).1 := by
    rcases Nat.eq_zero_or_pos (magnitude m e).1 with h0 | h0
    · have hpos : (0 : ℚ) < m * 2 ^ e := by positivity
      rw [← hq, h0] at hpos
      simp at hpos
    · exact h0
  rw [targetExponent_eq hn hd (k := m.log2 + e)]
  · -- a significand of all 53 bits lies between its powers of two, any other is subnormal
    rcases Nat.lt_or_ge m (2 ^ 52) with hm' | hm'
    · have : m.log2 < 52 := (Nat.log2_lt hm.ne').mpr hm'
      rw [hsub hm']
      omega
    · have h₁ : 52 ≤ m.log2 := (Nat.le_log2 hm.ne').mpr hm'
      have h₂ : m.log2 < 53 := (Nat.log2_lt hm.ne').mpr hlt
      omega
  · rw [hq, zpow_add₀ (by norm_num)]
    gcongr
    exact cast_log2_le hm
  · rw [hq, show (m.log2 : ℤ) + e + 1 = (m.log2 + 1) + e by ring, zpow_add₀ (by norm_num)]
    gcongr
    exact cast_lt_log2

/-- A magnitude of the format is left as it is. -/
theorem round_magnitude {m : ℕ} {e : ℤ} (hm : 0 < m) (h : Canonical m e) (negative : Bool) :
    round negative (magnitude m e).1 (magnitude m e).2 = .finite negative m e h := by
  have hs : 0 < (scale (magnitude m e).1 (magnitude m e).2 (-e)).2 :=
    scale_pos (scale_pos Nat.one_pos e) (-e)
  rw [round, targetExponent_magnitude hm h]
  simp only [scale_magnitude, roundHalfEven_mul_self hs, if_neg h.1.ne, if_neg hm.ne', dif_pos h]

end QueryTemplate.Binary64
