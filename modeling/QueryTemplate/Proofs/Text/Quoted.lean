import Mathlib.Data.List.Basic
import Mathlib.Tactic.IntervalCases
import QueryTemplate.Json.Parser
import QueryTemplate.Text.Quoted

/-!
# Quoted texts can be told apart

Between its quotation marks a text is told character by character: the escape of a character says
how long it is, and none of its characters ends the text.  So whatever follows a quoted text, the
text and the rest are told (`quoted_append_inj`).
-/

namespace QueryTemplate.Text

/-! ## Hexadecimal digits -/

/-- The number that hexadecimal digits denote. -/
def hexNumber (ds : List Char) : ℕ :=
  ds.foldl (fun n d => 16 * n + (Json.hexValue? d).getD 0) 0

lemma hexNumber_concat (ds : List Char) (d : Char) :
    hexNumber (ds ++ [d]) = 16 * hexNumber ds + (Json.hexValue? d).getD 0 := by
  rw [hexNumber, List.foldl_append]
  rfl

lemma hexValue?_digitChar {n : ℕ} (h : n < 16) : Json.hexValue? n.digitChar = some n := by
  interval_cases n <;> rfl

lemma hexNumber_toDigits (n : ℕ) : hexNumber (Nat.toDigits 16 n) = n := by
  induction n using Nat.strong_induction_on with
  | _ n ih =>
    rcases Nat.lt_or_ge n 16 with hn | hn
    · rw [Nat.toDigits_of_lt_base hn, hexNumber, List.foldl_cons, hexValue?_digitChar hn]
      simp
    · rw [Nat.toDigits_of_base_le (by omega) hn, hexNumber_concat, ih (n / 16) (by omega),
        hexValue?_digitChar (Nat.mod_lt n (by omega)), Option.getD_some, Nat.div_add_mod]

lemma hexNumber_hexDigits (width n : ℕ) : hexNumber (hexDigits width n) = n := by
  have hzeros : ∀ k, hexNumber (List.replicate k '0') = 0 := by
    intro k
    induction k with
    | zero => rfl
    | succ k ih => rw [List.replicate_succ', hexNumber_concat, ih]; rfl
  rw [hexDigits, hexNumber, List.foldl_append, ← hexNumber, hzeros, ← hexNumber,
    hexNumber_toDigits]

lemma length_hexDigits {width n : ℕ} (hwidth : 0 < width) (h : n < 16 ^ width) :
    (hexDigits width n).length = width := by
  have hlength := (Nat.length_toDigits_le_iff (by omega) hwidth).mpr h
  rw [hexDigits, List.length_append, List.length_replicate]
  omega

/-! ## Escaped characters -/

/-- The character whose escape stands in front, and what follows it. -/
def readEscape : List Char → Option (Char × List Char)
  | '\\' :: 'n' :: cs => some ('\n', cs)
  | '\\' :: 'r' :: cs => some ('\r', cs)
  | '\\' :: 't' :: cs => some ('\t', cs)
  | '\\' :: 'x' :: cs => some (Char.ofNat (hexNumber (cs.take 2)), cs.drop 2)
  | '\\' :: 'u' :: cs => some (Char.ofNat (hexNumber (cs.take 4)), cs.drop 4)
  | '\\' :: 'U' :: cs => some (Char.ofNat (hexNumber (cs.take 8)), cs.drop 8)
  | '\\' :: c :: cs => some (c, cs)
  | c :: cs => some (c, cs)
  | [] => none

/-- The character is one of the two quotation marks. -/
def IsMark (c : Char) : Prop :=
  c = '\'' ∨ c = '"'

lemma isMark_quoteMark (cs : List Char) : IsMark (quoteMark cs) := by
  rw [quoteMark]
  split_ifs
  · exact .inr rfl
  · exact .inl rfl

variable {mark : Char}

/-- Hexadecimal digits of a fixed width are read back, whatever follows them. -/
lemma read_hexDigits {w : ℕ} (hw : 0 < w) {c : Char} (h : c.toNat < 16 ^ w) (cs : List Char) :
    Char.ofNat (hexNumber ((hexDigits w c.toNat ++ cs).take w)) = c ∧
      (hexDigits w c.toNat ++ cs).drop w = cs := by
  have hlength := length_hexDigits hw h
  constructor
  · rw [List.take_left' hlength, hexNumber_hexDigits, Char.ofNat_toNat]
  · exact List.drop_left' hlength

/-- A character is read back from its escape, whatever follows it. -/
theorem readEscape_escapeChar (hmark : IsMark mark) (c : Char) (cs : List Char) :
    readEscape (escapeChar mark c ++ cs) = some (c, cs) := by
  rw [escapeChar]
  split_ifs with h₁ h₂ h₃ h₄ h₅ h₆ h₇
  · rw [Bool.or_eq_true, beq_iff_eq, beq_iff_eq] at h₁
    obtain rfl | rfl := h₁
    · rfl
    · obtain rfl | rfl := hmark <;> rfl
  · obtain rfl := eq_of_beq h₂
    rfl
  · obtain rfl := eq_of_beq h₃
    rfl
  · obtain rfl := eq_of_beq h₄
    rfl
  · rw [Bool.or_eq_true, not_or, beq_iff_eq, beq_iff_eq] at h₁
    rw [List.singleton_append, readEscape.eq_def]
    split <;> simp_all
  -- The three widths: each holds the code points that the test before it leaves.
  · obtain ⟨hnumber, hrest⟩ := read_hexDigits (w := 2) (by omega) (by omega) cs
    simp [readEscape, hnumber, hrest]
  · obtain ⟨hnumber, hrest⟩ := read_hexDigits (w := 4) (by omega) (by omega) cs
    simp [readEscape, hnumber, hrest]
  · have hchar : c.toNat < 16 ^ 8 := c.val.toNat_lt
    obtain ⟨hnumber, hrest⟩ := read_hexDigits (w := 8) (by omega) hchar cs
    simp [readEscape, hnumber, hrest]

/-- No escape starts with the mark that ends the text. -/
lemma head_escapeChar (hmark : IsMark mark) (c : Char) :
    ∃ d ds, escapeChar mark c = d :: ds ∧ d ≠ mark := by
  have hne : '\\' ≠ mark := by
    obtain rfl | rfl := hmark <;> decide
  rw [escapeChar]
  split_ifs with h₁
  all_goals first | exact ⟨_, _, rfl, hne⟩ | skip
  rw [Bool.or_eq_true, not_or, beq_iff_eq, beq_iff_eq] at h₁
  exact ⟨c, [], rfl, h₁.2⟩

/-! ## Quoted texts -/

/-- Escaped characters up to the mark are told, and so is what follows it. -/
lemma escaped_append_inj (hmark : IsMark mark) {cs ds r s : List Char}
    (h : cs.flatMap (escapeChar mark) ++ mark :: r = ds.flatMap (escapeChar mark) ++ mark :: s) :
    cs = ds ∧ r = s := by
  induction cs generalizing ds with
  | nil =>
    cases ds with
    | nil => exact ⟨rfl, (List.cons.inj h).2⟩
    | cons d ds =>
      obtain ⟨e, es, hescape, hne⟩ := head_escapeChar hmark d
      rw [List.flatMap_cons, hescape] at h
      exact absurd (List.cons.inj h).1.symm hne
  | cons c cs ih =>
    cases ds with
    | nil =>
      obtain ⟨e, es, hescape, hne⟩ := head_escapeChar hmark c
      rw [List.flatMap_cons, hescape] at h
      exact absurd (List.cons.inj h).1 hne
    | cons d ds =>
      rw [List.flatMap_cons, List.flatMap_cons, List.append_assoc, List.append_assoc] at h
      have hread := congrArg readEscape h
      rw [readEscape_escapeChar hmark, readEscape_escapeChar hmark, Option.some.injEq,
        Prod.mk.injEq] at hread
      obtain ⟨rfl, hrest⟩ := hread
      obtain ⟨rfl, rfl⟩ := ih hrest
      exact ⟨rfl, rfl⟩

lemma toList_quoted (s : String) :
    (quoted s).toList = quoteMark s.toList ::
      (s.toList.flatMap (escapeChar (quoteMark s.toList)) ++ [quoteMark s.toList]) := by
  simp [quoted]

/-- **Quoted texts can be told apart**, whatever follows them. -/
theorem quoted_append_inj {s t : String} {q r : List Char}
    (h : (quoted s).toList ++ q = (quoted t).toList ++ r) : s = t ∧ q = r := by
  rw [toList_quoted, toList_quoted, List.cons_append, List.cons_append, List.append_assoc,
    List.append_assoc] at h
  obtain ⟨hmark, hrest⟩ := List.cons.inj h
  rw [hmark] at hrest
  obtain ⟨htext, rfl⟩ := escaped_append_inj (isMark_quoteMark t.toList) hrest
  exact ⟨String.toList_inj.mp htext, rfl⟩

end QueryTemplate.Text
