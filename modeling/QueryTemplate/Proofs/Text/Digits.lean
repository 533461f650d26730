import Mathlib.Data.List.Basic
import Mathlib.Tactic.IntervalCases
import QueryTemplate.Number.Binary64
import QueryTemplate.Text.Digit

/-!
# Written numbers and what they denote

The decimal digits of a number denote it, and a run of digits is taken off the front of a text as
a whole when no further digit follows.  Every reader of numbers, dates and times rests on these two
facts.
-/

namespace QueryTemplate.Text

/-- The character that ends a run of digits is none, or the text is over. -/
def EndsDigits (cs : List Char) : Prop :=
  ∀ c ∈ cs.head?, c.isDigit = false

lemma digitValue?_of_isDigit {c : Char} (h : c.isDigit = true) :
    digitValue? c = some (c.toNat - '0'.toNat) := by
  simp only [Char.isDigit, Bool.and_eq_true, decide_eq_true_eq] at h
  have hlow : 48 ≤ c.toNat := h.1
  have hhigh : c.toNat ≤ 57 := h.2
  have hz : (0x30 ≤ c.toNat && c.toNat < 0x30 + 10) = true := by
    simp only [Bool.and_eq_true, decide_eq_true_eq]
    omega
  rw [digitValue?, zeros, List.find?_cons, hz]
  rfl

/-- ASCII digits denote what they do in positional notation. -/
lemma digitsToNat_eq {ds : List Char} (h : ∀ c ∈ ds, c.isDigit = true) :
    digitsToNat ds = Nat.ofDigitChars 10 ds 0 := by
  rw [digitsToNat, Nat.ofDigitChars_eq_foldl]
  refine List.foldl_ext _ _ _ fun n c hc => ?_
  rw [digitValue?_of_isDigit (h c hc), Option.getD_some]

lemma isDigit_of_mem_toDigits {n : ℕ} : ∀ c ∈ Nat.toDigits 10 n, c.isDigit = true :=
  fun _ hc => Nat.isDigit_of_mem_toDigits (by omega) (by omega) hc

@[simp] lemma digitsToNat_toDigits (n : ℕ) : digitsToNat (Nat.toDigits 10 n) = n := by
  rw [digitsToNat_eq isDigit_of_mem_toDigits, Nat.ofDigitChars_ten_toDigits]

lemma digitsToNat_append_zeros {ds : List Char} (h : ∀ c ∈ ds, c.isDigit = true) (k : ℕ) :
    digitsToNat (ds ++ List.replicate k '0') = digitsToNat ds * 10 ^ k := by
  have hz : ∀ c ∈ ds ++ List.replicate k '0', c.isDigit = true := by
    intro c hc
    rcases List.mem_append.mp hc with hc | hc
    · exact h c hc
    · rw [List.eq_of_mem_replicate hc]
      rfl
  rw [digitsToNat_eq hz, digitsToNat_eq h, Nat.ofDigitChars_append,
    Nat.ofDigitChars_replicate_zero, Nat.mul_comm]

lemma digitsToNat_zeros_append (k : ℕ) (ds : List Char) :
    digitsToNat (List.replicate k '0' ++ ds) = digitsToNat ds := by
  have hz : ∀ c ∈ List.replicate k '0', c.isDigit = true := by
    intro c hc
    rw [List.eq_of_mem_replicate hc]
    rfl
  have h : digitsToNat (List.replicate k '0') = 0 := by
    rw [digitsToNat_eq hz, Nat.ofDigitChars_replicate_zero, Nat.mul_zero]
  rw [digitsToNat, List.foldl_append, ← digitsToNat, h, ← digitsToNat]

/-- A positive number is written without a zero in front. -/
lemma head?_toDigits {n : ℕ} (h : 0 < n) : (Nat.toDigits 10 n).head? ≠ some '0' := by
  induction n using Nat.strong_induction_on with
  | _ n ih =>
    rcases Nat.lt_or_ge n 10 with hn | hn
    · rw [Nat.toDigits_of_lt_base hn]
      interval_cases n <;> decide
    · obtain ⟨c, cs, hc⟩ := List.exists_cons_of_ne_nil (Nat.toDigits_ne_nil (n := n / 10) (b := 10))
      have hne := ih (n / 10) (by omega) (by omega)
      rw [Nat.toDigits_of_base_le (by omega) hn, hc]
      rwa [hc] at hne

/-! ## Runs of digits -/

section Runs

variable {ds rest : List Char}

lemma takeWhile_digits (h : ∀ c ∈ ds, c.isDigit = true) (hr : EndsDigits rest) :
    (ds ++ rest).takeWhile Char.isDigit = ds := by
  rw [List.takeWhile_append_of_pos h]
  cases rest with
  | nil => simp
  | cons c rest => simp [hr c rfl]

lemma dropWhile_digits (h : ∀ c ∈ ds, c.isDigit = true) (hr : EndsDigits rest) :
    (ds ++ rest).dropWhile Char.isDigit = rest := by
  rw [List.dropWhile_append_of_pos h]
  cases rest with
  | nil => rfl
  | cons c rest => simp [hr c rfl]

end Runs

/-! ## The count of digits -/

lemma digitCount_lt_iff {n k : ℕ} (hk : 0 < k) : Binary64.digitCount n ≤ k ↔ n < 10 ^ k :=
  Nat.length_toDigits_le_iff (by omega) hk

lemma digitCount_pos (n : ℕ) : 0 < Binary64.digitCount n :=
  Nat.length_toDigits_pos

/-- A zero behind the last digit is one digit more. -/
lemma digitCount_mul_ten {n : ℕ} (h : 0 < n) :
    Binary64.digitCount (10 * n) = Binary64.digitCount n + 1 := by
  rw [Binary64.digitCount, Nat.toDigits_of_base_le (by omega) (by omega), List.length_append,
    Nat.mul_div_cancel_left n (by omega)]
  rfl

end QueryTemplate.Text
