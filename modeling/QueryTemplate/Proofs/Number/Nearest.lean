import QueryTemplate.Proofs.Number.Shortest

/-!
# Rounding to the nearest number

What a decimal is read as, said without the computation: no number of the binary64 format is nearer
to it, of two that are as near it is the one with the even significand, and from half a step beyond
the greatest finite number on it is infinite (`IsNearest`).  There is one such number
(`IsNearest.unique`), and it is the one that reading gives (`isNearest_ofDecimal`).

The rounded significand is nearest among the multiples of one power of two.  Numbers with a lower
exponent are no such multiples, but they stand below all significands of 53 bits.
-/

namespace QueryTemplate.Binary64

/-- The least magnitude that is not read as a finite number: half a step beyond the greatest one. -/
def overflow : ℚ :=
  (2 ^ 53 - 1 / 2) * 2 ^ (971 : ℤ)

/-- The number is the nearest to `± q`, and of two the one with the even significand. -/
inductive IsNearest (negative : Bool) (q : ℚ) : Binary64 → Prop where
  | finite {m : ℕ} {e : ℤ} (h : Canonical m e) (below : q < overflow)
      (near : ∀ m' e', Canonical m' e' → |(m : ℚ) * 2 ^ e - q| ≤ |(m' : ℚ) * 2 ^ e' - q|)
      (tie : ∀ m' e', Canonical m' e' → |(m : ℚ) * 2 ^ e - q| = |(m' : ℚ) * 2 ^ e' - q| →
        (m : ℚ) * 2 ^ e = m' * 2 ^ e' ∨ Even m) :
      IsNearest negative q (.finite negative m e h)
  | infinite (beyond : overflow ≤ q) : IsNearest negative q (.infinite negative)

/-! ## Magnitudes of the format -/

section Magnitudes

variable {m m' : ℕ} {e e' : ℤ}

/-- A magnitude is a multiple of a power of two, or its exponent is lower and it stands below all
significands of 53 bits. -/
lemma multiple_or_below (h : Canonical m' e') (e : ℤ) :
    (∃ k : ℕ, (m' : ℚ) * 2 ^ e' = k * 2 ^ e) ∨
      e' < e ∧ (m' : ℚ) * 2 ^ e' < 2 ^ 52 * 2 ^ e := by
  rcases le_or_gt e e' with hle | hlt
  · obtain ⟨k, hk⟩ := Int.le.dest hle
    refine .inl ⟨m' * 2 ^ k, ?_⟩
    rw [← hk, zpow_add₀ (by norm_num)]
    push_cast
    rw [zpow_natCast]
    ring
  · refine .inr ⟨hlt, ?_⟩
    have hm : (m' : ℚ) < 2 ^ 53 := by exact_mod_cast h.1
    calc (m' : ℚ) * 2 ^ e' < 2 ^ 53 * 2 ^ e' := by gcongr
      _ ≤ 2 ^ 53 * 2 ^ (e - 1) := by
        gcongr
        · norm_num
        · omega
      _ = 2 ^ 52 * 2 ^ e := by
        rw [zpow_sub₀ (by norm_num)]
        ring

/-- A significand has 53 bits unless the exponent is the least one. -/
lemma Canonical.le_significand (h : Canonical m e) (he : -1074 < e) : 2 ^ 52 ≤ m := by
  by_contra hm
  have := h.2.2.2 (not_le.mp hm)
  omega

/-- A magnitude has one significand and one exponent. -/
lemma Canonical.eq_of_value_eq (h : Canonical m e) (h' : Canonical m' e')
    (hvalue : (m : ℚ) * 2 ^ e = m' * 2 ^ e') : m = m' ∧ e = e' := by
  have hnot : ∀ {m m' : ℕ} {e e' : ℤ}, Canonical m e → Canonical m' e' →
      (m : ℚ) * 2 ^ e = m' * 2 ^ e' → ¬ e' < e := by
    intro m m' e e' h h' hvalue hlt
    obtain ⟨k, hk⟩ | ⟨-, hbelow⟩ := multiple_or_below h' e
    · have hm : (2 : ℚ) ^ 52 ≤ m := by exact_mod_cast h.le_significand (by have := h'.2.1; omega)
      have hm' : (m' : ℚ) < 2 ^ 53 := by exact_mod_cast h'.1
      have hstep : (2 : ℚ) ^ e' * 2 ≤ 2 ^ e := by
        rw [← zpow_add_one₀ (by norm_num)]
        exact zpow_le_zpow_right₀ (by norm_num) (by omega)
      have hpos : (0 : ℚ) < 2 ^ e' := by positivity
      nlinarith
    · have hm : (2 : ℚ) ^ 52 ≤ m := by exact_mod_cast h.le_significand (by have := h'.2.1; omega)
      have hpos : (0 : ℚ) < 2 ^ e := by positivity
      nlinarith
  obtain rfl : e = e' :=
    le_antisymm (not_lt.mp (hnot h h' hvalue)) (not_lt.mp (hnot h' h hvalue.symm))
  refine ⟨?_, rfl⟩
  exact_mod_cast mul_right_cancel₀ (by positivity) hvalue

end Magnitudes

/-! ## There is one nearest number -/

section Unique

variable {negative : Bool} {q : ℚ} {m m' : ℕ} {e e' : ℤ}

/-- Between two magnitudes with even significands stands another one. -/
lemma exists_between (h : Canonical m e) (h' : Canonical m' e') (hm : Even m) (hm' : Even m')
    (hlt : (m : ℚ) * 2 ^ e < m' * 2 ^ e') :
    ∃ k, Canonical k e ∧ (m : ℚ) * 2 ^ e < k * 2 ^ e ∧ (k : ℚ) * 2 ^ e < m' * 2 ^ e' := by
  have hpos : (0 : ℚ) < 2 ^ e := by positivity
  have hnext : Canonical (m + 1) e := by
    obtain ⟨hm53, hmin, hmax, hsub⟩ := h
    refine ⟨?_, hmin, hmax, fun hk => hsub (by omega)⟩
    obtain ⟨n, rfl⟩ := hm
    have : Nat.pow 2 53 = 2 * 2 ^ 52 := rfl
    omega
  refine ⟨m + 1, hnext, by push_cast; linarith, ?_⟩
  obtain ⟨k, hk⟩ | ⟨hlow, hbelow⟩ := multiple_or_below h' e
  · rw [hk] at hlt ⊢
    have hmk : m < k := by exact_mod_cast lt_of_mul_lt_mul_right hlt hpos.le
    have hne : m + 1 ≠ k := by
      rintro rfl
      obtain ⟨rfl, -⟩ := hnext.eq_of_value_eq h' hk.symm
      exact absurd hm' (Nat.not_even_iff_odd.mpr hm.add_one)
    have hmk' : (m : ℚ) + 1 < k := by exact_mod_cast lt_of_le_of_ne hmk hne
    push_cast
    gcongr
  · have hbits : (2 : ℚ) ^ 52 ≤ m := by
      exact_mod_cast h.le_significand (by have := h'.2.1; omega)
    nlinarith

lemma not_tie_of_lt (h : Canonical m e) (h' : Canonical m' e') (hm : Even m) (hm' : Even m')
    (hlt : (m : ℚ) * 2 ^ e < m' * 2 ^ e')
    (near : ∀ k j, Canonical k j → |(m : ℚ) * 2 ^ e - q| ≤ |(k : ℚ) * 2 ^ j - q|)
    (hequal : |(m : ℚ) * 2 ^ e - q| = |(m' : ℚ) * 2 ^ e' - q|) : False := by
  obtain ⟨k, hk, hlow, hhigh⟩ := exists_between h h' hm hm' hlt
  have hnear := near k e hk
  -- The two magnitudes stand on both sides of `q`, and so the one between them is nearer.
  rcases abs_eq_abs.mp hequal with heq | heq
  · linarith
  · have hq : (m : ℚ) * 2 ^ e < q := by linarith
    rw [abs_of_neg (by linarith)] at hnear
    rcases le_abs.mp hnear with hnear | hnear <;> linarith

/-- **There is one nearest number.** -/
theorem IsNearest.unique {x y : Binary64} (hx : IsNearest negative q x)
    (hy : IsNearest negative q y) : x = y := by
  cases hx with
  | infinite beyond =>
    cases hy with
    | infinite => rfl
    | finite _ below => exact absurd beyond (not_le.mpr below)
  | @finite m e h below near tie =>
    cases hy with
    | infinite beyond => exact absurd beyond (not_le.mpr below)
    | @finite m' e' h' _ near' tie' =>
      have hequal := le_antisymm (near m' e' h') (near' m e h)
      have hvalue : (m : ℚ) * 2 ^ e = m' * 2 ^ e' := by
        rcases tie m' e' h' hequal with hvalue | hm
        · exact hvalue
        rcases tie' m e h hequal.symm with hvalue | hm'
        · exact hvalue.symm
        rcases lt_trichotomy ((m : ℚ) * 2 ^ e) (m' * 2 ^ e') with hlt | hvalue | hlt
        · exact (not_tie_of_lt h h' hm hm' hlt near hequal).elim
        · exact hvalue
        · exact (not_tie_of_lt h' h hm' hm hlt near' hequal.symm).elim
      obtain ⟨rfl, rfl⟩ := h.eq_of_value_eq h' hvalue
      rfl

end Unique

/-! ## Rounding is to the nearest -/

section Rounding

variable {num den : ℕ}

/-- The natural number is nearest to `x`, and of two it is the even one. -/
structure NearestNat (x : ℚ) (m : ℕ) : Prop where
  half : |(m : ℚ) - x| ≤ 1 / 2
  near : ∀ k : ℕ, |(m : ℚ) - x| ≤ |(k : ℚ) - x|
  tie : ∀ k : ℕ, |(m : ℚ) - x| = |(k : ℚ) - x| → m = k ∨ Even m

/-- What is no farther from `n` and a fraction than `n` and its successor are is nearest. -/
lemma nearestNat_of_le {n m : ℕ} {f : ℚ} (hf0 : 0 ≤ f) (hf1 : f < 1)
    (hlow : |(m : ℚ) - (n + f)| ≤ f) (hhigh : |(m : ℚ) - (n + f)| ≤ 1 - f)
    (htie : f = 1 / 2 → Even m) : NearestNat (n + f) m := by
  refine ⟨by linarith, fun k => ?_, fun k hk => ?_⟩
  · rcases Nat.lt_or_ge n k with hkn | hkn
    · have hkn : (n : ℚ) + 1 ≤ k := by exact_mod_cast hkn
      exact hhigh.trans (le_abs.mpr (.inl (by linarith)))
    · have hkn : (k : ℚ) ≤ n := by exact_mod_cast hkn
      exact hlow.trans (le_abs.mpr (.inr (by linarith)))
  · rcases abs_eq_abs.mp hk with heq | heq
    · left
      exact_mod_cast sub_left_injective heq
    -- Otherwise `n` and the fraction are halfway between `m` and `k`.
    · have hsum : ((m + k - 2 * n : ℤ) : ℚ) = 2 * f := by
        push_cast
        linarith
      have hlower : (0 : ℤ) ≤ m + k - 2 * n := by
        exact_mod_cast (show (0 : ℚ) ≤ (m + k - 2 * n : ℤ) by linarith)
      have hupper : (m + k - 2 * n : ℤ) < 2 := by
        exact_mod_cast (show ((m + k - 2 * n : ℤ) : ℚ) < 2 by linarith)
      obtain h | h : (m + k - 2 * n : ℤ) = 0 ∨ (m + k - 2 * n : ℤ) = 1 := by omega
      · have hf : f = 0 := by
          rw [h, Int.cast_zero] at hsum
          linarith
        rw [hf, add_zero, abs_nonpos_iff, sub_eq_zero, Nat.cast_inj] at hlow
        left
        omega
      · right
        refine htie ?_
        rw [h, Int.cast_one] at hsum
        linarith

/-- Rounding a quotient gives the nearest natural number, and of two the even one. -/
theorem nearestNat_roundHalfEven (hd : 0 < den) :
    NearestNat ((num : ℚ) / den) (roundHalfEven num den) := by
  have hd' : (0 : ℚ) < den := by exact_mod_cast hd
  set n := num / den with hn
  set f : ℚ := (num % den : ℕ) / den with hf
  have hx : (num : ℚ) / den = n + f := by
    rw [hf, div_eq_iff hd'.ne', add_mul, div_mul_cancel₀ _ hd'.ne']
    exact_mod_cast (Nat.div_add_mod' num den).symm
  have hf0 : 0 ≤ f := by positivity
  have hf1 : f < 1 := (div_lt_one hd').mpr (by exact_mod_cast Nat.mod_lt num hd)
  have hlow : 2 * (num % den) < den ↔ f < 1 / 2 := by
    rw [hf, div_lt_div_iff₀ hd' (by norm_num), one_mul, mul_comm]
    exact_mod_cast Iff.rfl
  have hhigh : den < 2 * (num % den) ↔ 1 / 2 < f := by
    rw [hf, div_lt_div_iff₀ (by norm_num) hd', one_mul, mul_comm ((num % den : ℕ) : ℚ)]
    exact_mod_cast Iff.rfl
  rw [hx, roundHalfEven, ← hn]
  have hown : |(n : ℚ) - (n + f)| = f := by rw [sub_add_cancel_left, abs_neg, abs_of_nonneg hf0]
  have hnext : |((n + 1 : ℕ) : ℚ) - (n + f)| = 1 - f := by
    push_cast
    rw [abs_of_nonneg (by linarith)]
    ring
  split_ifs with h h'
  · have h := hlow.mp h
    exact nearestNat_of_le hf0 hf1 hown.le (by linarith) fun hf => by linarith
  · have h' := hhigh.mp h'
    exact nearestNat_of_le hf0 hf1 (by linarith) hnext.le fun hf => by linarith
  · have hhalf : f = 1 / 2 := le_antisymm (not_lt.mp (hhigh.not.mp h')) (not_lt.mp (hlow.not.mp h))
    have heven : Even (n + n % 2) := by
      rw [Nat.even_iff]
      omega
    have hdist : |((n + n % 2 : ℕ) : ℚ) - (n + f)| = 1 / 2 := by
      rcases Nat.mod_two_eq_zero_or_one n with hmod | hmod <;> rw [hmod]
      · rw [Nat.add_zero, hown, hhalf]
      · rw [hnext, hhalf]
        norm_num
    exact nearestNat_of_le hf0 hf1 (by linarith) (by linarith) fun _ => heven

variable {negative : Bool} {q : ℚ} {m : ℕ} {e : ℤ}

/-- The exponent of the significand leaves it 53 bits, and no more than it can have. -/
lemma targetExponent_bounds (hn : 0 < num) (hd : 0 < den) :
    -1074 ≤ targetExponent num den ∧ (num : ℚ) / den < 2 ^ 53 * 2 ^ targetExponent num den ∧
      (-1074 < targetExponent num den → 2 ^ 52 * 2 ^ targetExponent num den ≤ (num : ℚ) / den) := by
  obtain ⟨k, hk, hk'⟩ := exists_exponent hn hd
  rw [targetExponent_eq hn hd hk hk']
  refine ⟨le_max_left _ _, hk'.trans_le ?_, fun h => ?_⟩
  · rw [← zpow_natCast, ← zpow_add₀ (by norm_num)]
    refine zpow_le_zpow_right₀ (by norm_num) ?_
    have := le_max_right (-1074) (k - 52)
    push_cast
    omega
  · rw [max_eq_right (by omega), ← zpow_natCast, ← zpow_add₀ (by norm_num)]
    push_cast
    rwa [add_sub_cancel]

/-- The nearest multiple of the power of two is the nearest magnitude. -/
lemma near_of_nearestNat (hlower : -1074 < e → 2 ^ 52 * 2 ^ e ≤ q)
    (h : NearestNat (q * 2 ^ (-e)) m) {m' : ℕ} {e' : ℤ} (h' : Canonical m' e') :
    |(m : ℚ) * 2 ^ e - q| ≤ |(m' : ℚ) * 2 ^ e' - q| ∧
      (|(m : ℚ) * 2 ^ e - q| = |(m' : ℚ) * 2 ^ e' - q| →
        (m : ℚ) * 2 ^ e = m' * 2 ^ e' ∨ Even m) := by
  have hpos : (0 : ℚ) < 2 ^ e := by positivity
  have hscale : ∀ k : ℕ, |(k : ℚ) * 2 ^ e - q| = |(k : ℚ) - q * 2 ^ (-e)| * 2 ^ e := by
    intro k
    rw [← abs_of_pos hpos, ← abs_mul, abs_of_pos hpos, sub_mul, mul_assoc,
      ← zpow_add₀ (by norm_num), neg_add_cancel, zpow_zero, mul_one]
  obtain ⟨k, hk⟩ | ⟨hlow, hbelow⟩ := multiple_or_below h' e
  · rw [hk, hscale, hscale, mul_left_inj' hpos.ne', mul_left_inj' hpos.ne', Nat.cast_inj]
    exact ⟨mul_le_mul_of_nonneg_right (h.near k) hpos.le, h.tie k⟩
  · have hbits := hlower (by have := h'.2.1; omega)
    have hnear : |(m : ℚ) * 2 ^ e - q| ≤ |((2 ^ 52 : ℕ) : ℚ) * 2 ^ e - q| := by
      rw [hscale, hscale]
      exact mul_le_mul_of_nonneg_right (h.near _) hpos.le
    have hfar : |((2 ^ 52 : ℕ) : ℚ) * 2 ^ e - q| < |(m' : ℚ) * 2 ^ e' - q| := by
      push_cast
      rw [abs_of_nonpos (by linarith), abs_of_neg (by linarith)]
      linarith
    exact ⟨(hnear.trans_lt hfar).le, fun hequal => absurd hequal (hnear.trans_lt hfar).ne⟩

/-- The same magnitude with another significand is as near. -/
lemma isNearest_finite (hlower : -1074 < e → 2 ^ 52 * 2 ^ e ≤ q)
    (h : NearestNat (q * 2 ^ (-e)) m) (below : q < overflow) {m₁ : ℕ} {e₁ : ℤ}
    (h₁ : Canonical m₁ e₁) (hvalue : (m₁ : ℚ) * 2 ^ e₁ = m * 2 ^ e) (heven : Even m → Even m₁) :
    IsNearest negative q (.finite negative m₁ e₁ h₁) := by
  refine .finite h₁ below (fun m' e' h' => ?_) fun m' e' h' hequal => ?_
  · rw [hvalue]
    exact (near_of_nearestNat hlower h h').1
  · rw [hvalue] at hequal ⊢
    exact ((near_of_nearestNat hlower h h').2 hequal).imp_right heven

/-- The significand of a quotient below the power of two after all significands. -/
lemma significand_le {x : ℚ} (hx : x < 2 ^ 53) (h : NearestNat x m) : m ≤ 2 ^ 53 := by
  by_contra hm
  have hm : ((2 : ℚ) ^ 53) < m := by exact_mod_cast not_le.mp hm
  have hnear := h.near (2 ^ 53)
  push_cast at hnear
  rw [abs_of_pos (by linarith), abs_of_pos (by linarith)] at hnear
  linarith

lemma le_significand {x : ℚ} (hx : 2 ^ 52 ≤ x) (h : NearestNat x m) : 2 ^ 52 ≤ m := by
  by_contra hm
  have hm : (m : ℚ) < 2 ^ 52 := by exact_mod_cast not_le.mp hm
  have hnear := h.near (2 ^ 52)
  push_cast at hnear
  rw [abs_of_neg (by linarith), abs_of_nonpos (by linarith)] at hnear
  linarith

/-- The greatest significand is the nearest only below half a step more. -/
lemma lt_of_significand_lt {x : ℚ} (hm : m < 2 ^ 53) (h : NearestNat x m) :
    x < 2 ^ 53 - 1 / 2 := by
  have hm' : (m : ℚ) + 1 ≤ 2 ^ 53 := by exact_mod_cast hm
  obtain ⟨hlow, -⟩ := abs_le.mp h.half
  refine lt_of_le_of_ne (by linarith) fun hx => ?_
  have hmax : m = 2 ^ 53 - 1 := by
    have : (2 : ℚ) ^ 53 ≤ m + 1 := by linarith
    have : 2 ^ 53 ≤ m + 1 := by exact_mod_cast this
    omega
  have htie := h.tie (2 ^ 53)
  rw [hx, hmax] at htie
  norm_num [Nat.even_iff] at htie

lemma lt_overflow (hq : q < 2 ^ 53 * 2 ^ e) (he : e < 971) : q < overflow := by
  have hpos : (0 : ℚ) < 2 ^ e := by positivity
  calc q < 2 ^ 53 * 2 ^ e := hq
    _ ≤ (2 ^ 53 - 1 / 2) * (2 ^ e * 2) := by linarith
    _ = (2 ^ 53 - 1 / 2) * 2 ^ (e + 1) := by rw [zpow_add_one₀ (by norm_num)]
    _ ≤ overflow := by
      rw [overflow]
      gcongr
      · norm_num
      · omega

lemma overflow_le {x : ℚ} (hx : 2 ^ 53 - 1 / 2 ≤ x) (he : 971 ≤ e) : overflow ≤ x * 2 ^ e := by
  rw [overflow]
  gcongr
  norm_num

lemma eq_mul_zpow (q : ℚ) (e : ℤ) : q = q * 2 ^ (-e) * 2 ^ e := by
  rw [mul_assoc, ← zpow_add₀ (by norm_num), neg_add_cancel, zpow_zero, mul_one]

/-- A significand that rounding carried one beyond the greatest is halved, and the number is
infinite if its exponent is one too many then. -/
lemma isNearest_carried (hmin : -1074 ≤ e) (hupper : q < 2 ^ 53 * 2 ^ e)
    (hlower : -1074 < e → 2 ^ 52 * 2 ^ e ≤ q) (h : NearestNat (q * 2 ^ (-e)) (2 ^ 53)) :
    IsNearest negative q
      (if h : Canonical (Nat.pow 2 52) (e + 1) then .finite negative (Nat.pow 2 52) (e + 1) h
        else .infinite negative) := by
  by_cases he : e + 1 ≤ 971
  · have hcanonical : Canonical (Nat.pow 2 52) (e + 1) :=
      ⟨by decide, by omega, he, fun hlt => absurd hlt (by decide)⟩
    rw [dif_pos hcanonical]
    refine isNearest_finite hlower h (lt_overflow hupper (by omega)) hcanonical ?_
      fun _ => by decide
    rw [zpow_add_one₀ (by norm_num), Nat.pow_eq]
    push_cast
    ring
  · rw [dif_neg fun hcanonical => he hcanonical.2.2.1]
    have hlow := (abs_le.mp h.half).2
    push_cast at hlow
    rw [eq_mul_zpow q e]
    exact .infinite (overflow_le (by linarith) (by omega))

/-- Any other significand stays, and the number is infinite if the exponent is too great. -/
lemma isNearest_kept (hmin : -1074 ≤ e) (hupper : q < 2 ^ 53 * 2 ^ e)
    (hlower : -1074 < e → 2 ^ 52 * 2 ^ e ≤ q) (h : NearestNat (q * 2 ^ (-e)) m)
    (hlt : m < 2 ^ 53) (hbits : -1074 < e → 2 ^ 52 ≤ m) :
    IsNearest negative q
      (if h : Canonical m e then .finite negative m e h else .infinite negative) := by
  have hpos : (0 : ℚ) < 2 ^ e := by positivity
  by_cases he : e ≤ 971
  · have hcanonical : Canonical m e := by
      refine ⟨hlt, hmin, he, fun (hsub : m < 2 ^ 52) => ?_⟩
      by_contra hne
      have := hbits (by omega)
      omega
    rw [dif_pos hcanonical]
    refine isNearest_finite hlower h ?_ hcanonical rfl id
    rcases lt_or_eq_of_le he with he | rfl
    · exact lt_overflow hupper he
    · rw [eq_mul_zpow q 971, overflow]
      exact mul_lt_mul_of_pos_right (lt_of_significand_lt hlt h) hpos
  · rw [dif_neg fun hcanonical => he hcanonical.2.2.1]
    refine .infinite (le_trans ?_ (hlower (by omega)))
    rw [show (2 : ℚ) ^ 52 * 2 ^ e = 2 ^ 53 * 2 ^ (e - 1) by
      rw [zpow_sub_one₀ (by norm_num)]
      ring]
    exact overflow_le (by norm_num) (by omega)

/-- The nearest number, from the significand of a quotient. -/
lemma isNearest_of_nearestNat (hmin : -1074 ≤ e) (hupper : q < 2 ^ 53 * 2 ^ e)
    (hlower : -1074 < e → 2 ^ 52 * 2 ^ e ≤ q) (h : NearestNat (q * 2 ^ (-e)) m) :
    IsNearest negative q
      (match if m = Nat.pow 2 53 then (Nat.pow 2 52, e + 1)
        else if m = 0 then (0, -1074) else (m, e) with
      | (m, e) => if h : Canonical m e then .finite negative m e h else .infinite negative) := by
  have hpos : (0 : ℚ) < 2 ^ e := by positivity
  have hq := eq_mul_zpow q e
  have hle := significand_le (lt_of_mul_lt_mul_right (hq ▸ hupper) hpos.le) h
  have hbits : -1074 < e → 2 ^ 52 ≤ m := fun he =>
    le_significand (le_of_mul_le_mul_right (hq ▸ hlower he) hpos) h
  split_ifs with hm hm₀
  · subst hm
    exact isNearest_carried hmin hupper hlower h
  · have he : ¬ -1074 < e := fun he => by
      have := hbits he
      omega
    dsimp only
    rw [dif_pos (show Canonical 0 (-1074) by decide)]
    exact isNearest_finite hlower h (lt_overflow hupper (by omega)) _ (by simp [hm₀])
      fun _ => by decide
  · exact isNearest_kept hmin hupper hlower h (lt_of_le_of_ne hle hm) hbits

/-- **Rounding a quotient is to the nearest number.** -/
theorem isNearest_round (hn : 0 < num) (hd : 0 < den) (negative : Bool) :
    IsNearest negative ((num : ℚ) / den) (round negative num den) := by
  obtain ⟨hmin, hupper, hlower⟩ := targetExponent_bounds hn hd
  set scaled := scale num den (-targetExponent num den) with hscaled
  have hnear : NearestNat _ (roundHalfEven scaled.1 scaled.2) :=
    nearestNat_roundHalfEven (scale_pos hd _)
  rw [hscaled, scale_div] at hnear
  exact isNearest_of_nearestNat hmin hupper hlower hnear

end Rounding

/-! ## Reading is to the nearest -/

/-- A power of ten below the number of so many digits, and one above it. -/
lemma ten_pow_digitCount {c : ℕ} (hc : 0 < c) :
    10 ^ (digitCount c - 1) ≤ c ∧ c < 10 ^ digitCount c := by
  constructor
  · by_contra h
    rcases Nat.eq_zero_or_pos (digitCount c - 1) with hzero | hpos
    · rw [hzero] at h
      omega
    · have := digitCount_le hpos (not_le.mp h)
      omega
  · by_contra h
    exact lt_irrefl _ (lt_digitCount (not_lt.mp h))

/-- What is less than half the least magnitude is nearest to zero. -/
lemma isNearest_zero {q : ℚ} (hq : 0 ≤ q) (hlow : 2 * q < 2 ^ (-1074 : ℤ)) (negative : Bool) :
    IsNearest negative q (zero negative) := by
  have hover : q < overflow := by
    refine lt_overflow (e := -1074) ?_ (by norm_num)
    have : (0 : ℚ) < 2 ^ (-1074 : ℤ) := by positivity
    linarith
  refine .finite _ hover (fun m' e' h' => ?_) fun _ _ _ _ => .inr (by decide)
  rcases Nat.eq_zero_or_pos m' with rfl | hm
  · simp
  · have hleast : (2 : ℚ) ^ (-1074 : ℤ) ≤ m' * 2 ^ e' :=
      calc (2 : ℚ) ^ (-1074 : ℤ) ≤ 2 ^ e' := zpow_le_zpow_right₀ (by norm_num) h'.2.1
        _ ≤ m' * 2 ^ e' := le_mul_of_one_le_left (by positivity) (by exact_mod_cast hm)
    rw [Nat.cast_zero, zero_mul, zero_sub, abs_neg, abs_of_nonneg hq]
    exact le_abs.mpr (.inl (by linarith))

/-- A number of more than 400 digits before the point is beyond the format. -/
lemma overflow_le_ten_pow : overflow ≤ 10 ^ (400 : ℤ) := by
  have hpow : 2 ^ 53 * 2 ^ 971 ≤ 10 ^ 400 := by decide +kernel
  calc overflow ≤ 2 ^ 53 * 2 ^ (971 : ℤ) := by
        rw [overflow]
        gcongr
        norm_num
    _ ≤ 10 ^ (400 : ℤ) := by exact_mod_cast hpow

/-- A number with more than 400 zeros behind the point is less than half the least magnitude. -/
lemma ten_pow_lt_least : 2 * (10 : ℚ) ^ (-401 : ℤ) < 2 ^ (-1074 : ℤ) := by
  have hpow : 2 * 2 ^ 1074 < 10 ^ 401 := by decide +kernel
  have hpow : 2 * (2 : ℚ) ^ (1074 : ℤ) < 10 ^ (401 : ℤ) := by exact_mod_cast hpow
  rw [zpow_neg, zpow_neg, ← div_eq_mul_inv, div_lt_iff₀ (by positivity), ← div_eq_inv_mul,
    lt_div_iff₀ (by positivity)]
  exact hpow

/-- **Reading a decimal is to the nearest number.** -/
theorem isNearest_ofDecimal (negative : Bool) (c : ℕ) (e : ℤ) :
    IsNearest negative ((c : ℚ) * 10 ^ e) (ofDecimal negative c e) := by
  rcases Nat.eq_zero_or_pos c with rfl | hc
  · rw [ofDecimal.eq_def, if_pos rfl, Nat.cast_zero, zero_mul]
    exact isNearest_zero le_rfl (by rw [mul_zero]; positivity) negative
  obtain ⟨hlow, hhigh⟩ := ten_pow_digitCount hc
  have hcount : digitCount c ≠ 0 := by
    intro hzero
    rw [hzero] at hhigh
    omega
  have hlow : (10 : ℚ) ^ (digitCount c - 1 : ℕ) ≤ c := by exact_mod_cast hlow
  have hhigh : (c : ℚ) < 10 ^ digitCount c := by exact_mod_cast hhigh
  rw [ofDecimal.eq_def, if_neg hc.ne']
  dsimp only
  split_ifs with htop hbottom
  · refine .infinite ?_
    calc overflow ≤ 10 ^ (400 : ℤ) := overflow_le_ten_pow
      _ ≤ 10 ^ (((digitCount c - 1 : ℕ) : ℤ) + e) :=
        zpow_le_zpow_right₀ (by norm_num) (by omega)
      _ = 10 ^ (digitCount c - 1) * 10 ^ e := by rw [zpow_add₀ (by norm_num), zpow_natCast]
      _ ≤ c * 10 ^ e := by gcongr
  · refine isNearest_zero (by positivity) ?_ negative
    calc 2 * ((c : ℚ) * 10 ^ e) < 2 * (10 ^ digitCount c * 10 ^ e) := by gcongr
      _ = 2 * 10 ^ ((digitCount c : ℤ) + e) := by rw [zpow_add₀ (by norm_num), zpow_natCast]
      _ ≤ 2 * 10 ^ (-401 : ℤ) := by
        gcongr
        · norm_num
        · omega
      _ < 2 ^ (-1074 : ℤ) := ten_pow_lt_least
  · cases e with
    | ofNat k =>
      have hround : IsNearest negative _ (round negative (c * 10 ^ k) 1) :=
        isNearest_round (Nat.mul_pos hc (by positivity)) Nat.one_pos negative
      simpa using hround
    | negSucc k =>
      have hround : IsNearest negative _ (round negative c (10 ^ (k + 1))) :=
        isNearest_round hc (by positivity) negative
      rw [zpow_negSucc, ← div_eq_mul_inv]
      simpa using hround

end QueryTemplate.Binary64
