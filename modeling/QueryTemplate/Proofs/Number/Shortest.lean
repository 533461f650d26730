import QueryTemplate.Number.Shortest
import QueryTemplate.Proofs.Number.Rounding
import QueryTemplate.Proofs.Text.Digits

/-!
# The shortest digits read back

`Binary64.shortest` looks for few digits and tries each candidate by reading it back, so what it
finds reads back by construction.  Two facts are left: the exact expansion it falls back on reads
back because it is the number (`exactExpansion_readsAs`), and dropping zeros at the end changes
nothing (`ofDecimal_mul_ten`).
-/

namespace QueryTemplate

namespace Binary64

/-! ## Decimal quotients -/

/-- The number with the same magnitude and another sign. -/
def withSign (negative : Bool) : Binary64 → Binary64
  | .finite _ m e h => .finite negative m e h
  | .infinite _ => .infinite negative
  | .nan object => .nan object

lemma round_withSign (negative : Bool) (num den : ℕ) :
    round negative num den = (round false num den).withSign negative := by
  rw [round, round]
  dsimp only
  split_ifs <;> rfl

lemma ofDecimal_withSign (negative : Bool) (c : ℕ) (e : ℤ) :
    ofDecimal negative c e = (ofDecimal false c e).withSign negative := by
  rw [ofDecimal.eq_def, ofDecimal.eq_def]
  dsimp only
  split_ifs
  · rfl
  · rfl
  · rfl
  · cases e <;> exact round_withSign _ _ _

lemma ofDecimal_ofNat {c k : ℕ} (hc : 0 < c) (high : k + digitCount c ≤ 400) (negative : Bool) :
    ofDecimal negative c (.ofNat k) = round negative (c * 10 ^ k) 1 := by
  have h₁ : ¬ 400 < Int.ofNat k + (digitCount c : ℤ) := by
    rw [Int.ofNat_eq_natCast]
    omega
  have h₂ : ¬ Int.ofNat k + (digitCount c : ℤ) < -400 := by
    rw [Int.ofNat_eq_natCast]
    omega
  rw [ofDecimal.eq_def, if_neg hc.ne']
  dsimp only
  rw [if_neg h₁, if_neg h₂, Nat.pow_eq]

lemma ofDecimal_negSucc {c k : ℕ} (hc : 0 < c) (high : digitCount c ≤ 400 + (k + 1))
    (low : k + 1 ≤ digitCount c + 400) (negative : Bool) :
    ofDecimal negative c (.negSucc k) = round negative c (10 ^ (k + 1)) := by
  have h₁ : ¬ 400 < Int.negSucc k + (digitCount c : ℤ) := by omega
  have h₂ : ¬ Int.negSucc k + (digitCount c : ℤ) < -400 := by omega
  rw [ofDecimal.eq_def, if_neg hc.ne']
  dsimp only
  rw [if_neg h₁, if_neg h₂, Nat.pow_eq]

/-- A zero behind the last digit is as good as a higher exponent. -/
lemma ofDecimal_mul_ten {c : ℕ} (hc : 0 < c) (negative : Bool) (e : ℤ) :
    ofDecimal negative (10 * c) e = ofDecimal negative c (e + 1) := by
  have htop : e + (digitCount (10 * c) : ℕ) = e + 1 + (digitCount c : ℕ) := by
    rw [Text.digitCount_mul_ten hc]
    push_cast
    ring
  rw [ofDecimal.eq_def, ofDecimal.eq_def, if_neg (by omega), if_neg hc.ne']
  simp only [htop]
  split_ifs
  · rfl
  · rfl
  · cases e with
    | ofNat k =>
      change round negative (10 * c * 10 ^ k) 1 = round negative (c * 10 ^ (k + 1)) 1
      rw [Nat.pow_succ, Nat.mul_comm (10 ^ k), ← Nat.mul_assoc, Nat.mul_comm c]
    | negSucc k =>
      cases k with
      | zero => exact (round_mul (by omega) hc Nat.one_pos negative).trans (by simp)
      | succ k =>
        change round negative (10 * c) (10 ^ (k + 1 + 1)) = round negative c (10 ^ (k + 1))
        rw [Nat.pow_succ' (n := k + 1)]
        exact round_mul (by omega) hc (by positivity) negative

lemma ofDecimal_mul_pow {c : ℕ} (hc : 0 < c) (negative : Bool) (e : ℤ) (k : ℕ) :
    ofDecimal negative (c * 10 ^ k) e = ofDecimal negative c (e + k) := by
  induction k generalizing e with
  | zero => simp
  | succ k ih =>
    rw [Nat.pow_succ, ← Nat.mul_assoc, Nat.mul_comm _ 10, ofDecimal_mul_ten (by positivity), ih]
    congr 1
    push_cast
    ring

end Binary64

/-! ## Expansions that read back -/

namespace Expansion

variable {x : Expansion} {m : ℕ} {e : ℤ}

/-- What an expansion that reads back denotes, with either sign. -/
lemma ofDecimal_of_readsAs (h : Binary64.Canonical m e) (hx : x.readsAs m e = true)
    (negative : Bool) : Binary64.ofDecimal negative x.digits x.exponent = .finite negative m e h := by
  rw [readsAs] at hx
  rw [Binary64.ofDecimal_withSign]
  cases hd : Binary64.ofDecimal false x.digits x.exponent with
  | finite n m' e' h' =>
    simp only [hd, Bool.and_eq_true, beq_iff_eq] at hx
    obtain ⟨rfl, rfl⟩ := hx
    rfl
  | infinite => simp [hd] at hx
  | nan => simp [hd] at hx

lemma readsAs_of_ofDecimal {h : Binary64.Canonical m e}
    (hx : Binary64.ofDecimal false x.digits x.exponent = .finite false m e h) :
    x.readsAs m e = true := by
  simp [readsAs, hx]

lemma digits_pos_of_readsAs (hm : 0 < m) (hx : x.readsAs m e = true) : 0 < x.digits := by
  rcases Nat.eq_zero_or_pos x.digits with h | h
  · simp [readsAs, Binary64.ofDecimal, Binary64.zero, h, hm.ne] at hx
  · exact h

lemma readsAs_stripZeros (fuel : ℕ) (hx : x.readsAs m e = true) :
    (x.stripZeros fuel).readsAs m e = true := by
  induction fuel generalizing x with
  | zero => exact hx
  | succ fuel ih =>
    rw [stripZeros]
    split_ifs with h
    · refine ih ?_
      have hd : 10 * (x.digits / 10) = x.digits := Nat.mul_div_cancel' (Nat.dvd_of_mod_eq_zero h.2)
      have hp : 0 < x.digits / 10 := Nat.div_pos (by omega) (by omega)
      rw [readsAs] at hx ⊢
      rwa [← Binary64.ofDecimal_mul_ten hp, hd]
    · exact hx

end Expansion

namespace Binary64

variable {m : ℕ} {e : ℤ}

lemma readsAs_of_neighbour? {count : ℕ} {x : Expansion} (h : neighbour? m e count = some x) :
    x.readsAs m e = true := by
  rw [neighbour?] at h
  dsimp only at h
  split_ifs at h with h₁ h₂ h₃
  · obtain rfl := Option.some.inj h
    exact h₁
  · obtain rfl := Option.some.inj h
    exact h₂
  · obtain rfl := Option.some.inj h
    exact h₃

lemma digitCount_le {n k : ℕ} (hk : 0 < k) (h : n < 10 ^ k) : digitCount n ≤ k :=
  (Text.digitCount_lt_iff hk).mpr h

lemma lt_digitCount {n k : ℕ} (h : 10 ^ k ≤ n) : k < digitCount n := by
  rcases Nat.eq_zero_or_pos k with rfl | hk
  · exact Text.digitCount_pos n
  · exact not_le.mp fun hle => absurd ((Text.digitCount_lt_iff hk).mp hle) (not_lt.mpr h)

lemma ten_pow_le_five_pow {j n : ℕ} (h : j ≤ 2 * n) : 10 ^ j ≤ 5 ^ (n + j) := by
  calc 10 ^ j = 2 ^ j * 5 ^ j := by rw [← Nat.mul_pow]
    _ ≤ 2 ^ (2 * n) * 5 ^ j := Nat.mul_le_mul_right _ (Nat.pow_le_pow_right Nat.two_pos h)
    _ = 4 ^ n * 5 ^ j := by rw [Nat.pow_mul]
    _ ≤ 5 ^ n * 5 ^ j := Nat.mul_le_mul_right _ (Nat.pow_le_pow_left (by omega) n)
    _ = 5 ^ (n + j) := (Nat.pow_add 5 n j).symm

lemma exactExpansion_ofNat {k : ℕ} (hm : 0 < m) (h : Canonical m (.ofNat k)) :
    ofDecimal false (m * 2 ^ k) 0 = .finite false m (.ofNat k) h := by
  have hk : k ≤ 971 := by simpa using h.2.2.1
  have hn : digitCount (m * 2 ^ k) ≤ 400 := by
    refine digitCount_le (by omega) ?_
    calc m * 2 ^ k < 2 ^ 53 * 2 ^ 971 :=
          Nat.mul_lt_mul_of_lt_of_le h.1 (Nat.pow_le_pow_right (by omega) hk) (by positivity)
      _ ≤ 10 ^ 400 := by decide +kernel
  have hr := round_magnitude hm h false
  rw [magnitude, scale] at hr
  refine (ofDecimal_ofNat (k := 0) (by positivity) (by omega) false).trans ?_
  rw [Nat.pow_zero, Nat.mul_one]
  exact hr

lemma exactExpansion_negSucc {k : ℕ} (hm : 0 < m) (h : Canonical m (.negSucc k)) :
    ofDecimal false (m * 5 ^ (k + 1)) (.negSucc k) = .finite false m (.negSucc k) h := by
  have hk : k + 1 ≤ 1074 := by
    have : -1074 ≤ Int.negSucc k := h.2.1
    omega
  have hhigh : digitCount (m * 5 ^ (k + 1)) ≤ 16 + (k + 1) := by
    refine digitCount_le (by omega) ?_
    calc m * 5 ^ (k + 1) < 2 ^ 53 * 10 ^ (k + 1) :=
          Nat.mul_lt_mul_of_lt_of_le h.1 (Nat.pow_le_pow_left (by omega) _) (by positivity)
      _ ≤ 10 ^ 16 * 10 ^ (k + 1) := Nat.mul_le_mul_right _ (by norm_num)
      _ = 10 ^ (16 + (k + 1)) := (Nat.pow_add 10 16 (k + 1)).symm
  -- the least number of the format has its first digit well above the 400th place
  have hlow : k + 1 - 400 < digitCount (m * 5 ^ (k + 1)) := by
    rcases Nat.lt_or_ge (k + 1) 400 with hsmall | hlarge
    · rw [Nat.sub_eq_zero_of_le hsmall.le]
      exact Text.digitCount_pos _
    · obtain ⟨j, hj⟩ := Nat.exists_eq_add_of_le hlarge
      rw [hj, Nat.add_sub_cancel_left]
      refine lt_digitCount ?_
      calc 10 ^ j ≤ 5 ^ (400 + j) := ten_pow_le_five_pow (by omega)
        _ ≤ m * 5 ^ (400 + j) := Nat.le_mul_of_pos_left _ hm
  have hr := round_magnitude hm h false
  rw [magnitude, scale, Nat.one_mul] at hr
  rw [ofDecimal_negSucc (by positivity) (by omega) (by omega)]
  have h10 : 10 ^ (k + 1) = 5 ^ (k + 1) * 2 ^ (k + 1) := by rw [← Nat.mul_pow]
  rw [h10, Nat.mul_comm m, round_mul (by positivity) hm (by positivity)]
  exact hr

/-- The exact expansion of a number denotes it. -/
theorem exactExpansion_readsAs (hm : 0 < m) (h : Canonical m e) :
    (exactExpansion m e).readsAs m e = true := by
  cases e with
  | ofNat k => exact Expansion.readsAs_of_ofDecimal (exactExpansion_ofNat hm h)
  | negSucc k => exact Expansion.readsAs_of_ofDecimal (exactExpansion_negSucc hm h)

/-- The digits that are shown read back. -/
theorem shortest_readsAs (hm : 0 < m) (h : Canonical m e) : (shortest m e).readsAs m e = true := by
  rw [shortest]
  refine Expansion.readsAs_stripZeros _ ?_
  cases hf : (List.range 17).findSome? fun i => neighbour? m e (i + 1) with
  | none => exact exactExpansion_readsAs hm h
  | some x =>
    obtain ⟨i, -, hi⟩ := List.exists_of_findSome?_eq_some hf
    exact readsAs_of_neighbour? hi

end Binary64

end QueryTemplate
