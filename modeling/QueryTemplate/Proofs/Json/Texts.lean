import QueryTemplate.Json.Parser
import QueryTemplate.Json.Printer
import Mathlib.Tactic.IntervalCases

/-!
# Written JSON texts are read back

Every character is read back from its escape, whatever follows it; so a text is read back up to the
quotation mark behind it.
-/

namespace QueryTemplate.Json

/-- The escape of a control character is read back. -/
lemma codeUnit?_hexDigits {n : ℕ} (h : n < 32) : ∃ a b c d, Text.hexDigits 4 n = [a, b, c, d] ∧
    codeUnit? a b c d = some n := by
  interval_cases n <;> exact ⟨_, _, _, _, rfl, rfl⟩

variable (dialect : Dialect)

/-- One character is read back from its escape. -/
lemma readText_escape (c : Char) (cs : List Char) :
    readText dialect (escape c ++ cs) = (readText dialect cs).map fun r => (c :: r.1, r.2) := by
  rw [escape]
  split_ifs with h₁ h₂ h₃ h₄ h₅ h₆ h₇
  · rw [Bool.or_eq_true, beq_iff_eq, beq_iff_eq] at h₁
    rcases h₁ with rfl | rfl <;> simp [readText, shortEscape?]
  · obtain rfl := eq_of_beq h₂
    simp [readText, shortEscape?]
  · obtain rfl := eq_of_beq h₃
    simp [readText, shortEscape?]
  · obtain rfl := eq_of_beq h₄
    simp [readText, shortEscape?]
  · obtain rfl : c = '\x08' := Char.toNat_inj.mp h₅
    simp [readText, shortEscape?]
  · obtain rfl : c = '\x0c' := Char.toNat_inj.mp h₆
    simp [readText, shortEscape?]
  · obtain ⟨a, b, e, d, hds, hcode⟩ := codeUnit?_hexDigits h₇
    rw [hds]
    have hsurrogate : ¬ (0xd800 ≤ c.toNat ∧ c.toNat < 0xe000) := by omega
    simp [readText, hcode, hsurrogate, Char.ofNat_toNat]
  · rw [Bool.or_eq_true, not_or, beq_iff_eq, beq_iff_eq] at h₁
    rw [List.singleton_append, readText.eq_def]
    split <;> simp_all

/-- A text is read back up to its closing mark. -/
theorem readText_textChars (s : String) (cs : List Char) :
    readText dialect (s.toList.flatMap escape ++ '"' :: cs) = some (s.toList, cs) := by
  induction s.toList with
  | nil => rfl
  | cons c chars ih => rw [List.flatMap_cons, List.append_assoc, readText_escape, ih, Option.map_some]

end QueryTemplate.Json
