import Mathlib.Tactic.Common
import QueryTemplate.Proofs.Engine.Grammar
import QueryTemplate.Proofs.Expression.Scanning
import QueryTemplate.Proofs.Outcome

/-!
# How lexemes are spelled

`Spelled` says of a run of characters alone, without what follows it, whether it is a lexeme and of
what kind.  The scanner looks ahead instead: it decides the kind by the first character, takes a
second one along where that makes an operator of two, tries a point behind digits, and goes back to
an earlier apostrophe where no other closes a text.  All the same what it takes is the longest
beginning that is spelled as a lexeme (`lexeme?_eq_some_iff`), and it takes nothing only where no
beginning is (`lexeme?_eq_none_iff`).  So the question what is taken in a changed text becomes a
question about spelling: a lexeme stays what it is when the text ends behind it, or goes on with a
parenthesis.
-/

namespace QueryTemplate.Token

open Engine (Doubled)

/-! ## Spelling -/

/-- The characters between quotation marks and those they denote.  A backslash protects the
character behind it, which ends no line. -/
inductive Escaped : List Char → List Char → Prop where
  | nil : Escaped [] []
  | plain {c : Char} {cs ds : List Char} (hmark : c ≠ '"') (hslash : c ≠ '\\')
      (h : Escaped cs ds) : Escaped (c :: cs) (c :: ds)
  | escape {c : Char} {cs ds : List Char} (hline : c ≠ '\n') (h : Escaped cs ds) :
      Escaped ('\\' :: c :: cs) (c :: ds)

/-- What may stand behind the whole digits of a number. -/
inductive Fraction : List Char → Prop where
  | none : Fraction []
  | digits {d : Char} {ds : List Char} (h : ∀ x ∈ d :: ds, Text.isDigit x) :
      Fraction ('.' :: d :: ds)

/-- The characters are a lexeme of the kind, none for blanks. -/
inductive Spelled : Option TokenKind → List Char → Prop where
  | blanks {c : Char} {cs : List Char} (h : ∀ x ∈ c :: cs, Text.isBlank x) :
      Spelled none (c :: cs)
  | param {c : Char} {cs : List Char} (h : ∀ x ∈ c :: cs, Text.isWordChar x) :
      Spelled (some .param) ('@' :: c :: cs)
  | number {d : Char} {ds fraction : List Char} (h : ∀ x ∈ d :: ds, Text.isDigit x)
      (hfraction : Fraction fraction) : Spelled (some .number) (d :: (ds ++ fraction))
  | negative {d : Char} {ds fraction : List Char} (h : ∀ x ∈ d :: ds, Text.isDigit x)
      (hfraction : Fraction fraction) : Spelled (some .number) ('-' :: d :: (ds ++ fraction))
  | singleQuoted {body s : List Char} (h : Doubled body s) :
      Spelled (some .string) ('\'' :: (body ++ ['\'']))
  | doubleQuoted {body s : List Char} (h : Escaped body s) :
      Spelled (some .string) ('"' :: (body ++ ['"']))
  | pair {c d : Char} (h : isPair c d) : Spelled (some .op) [c, d]
  | sign {c : Char} (h : isSingle c) : Spelled (some .op) [c]
  | word {c : Char} {cs : List Char} (hc : c.isAlpha ∨ c = '_')
      (h : ∀ x ∈ cs, Text.isWordChar x) : Spelled (some .word) (c :: cs)

lemma Spelled.ne_nil {k : Option TokenKind} {w : List Char} (h : Spelled k w) : w ≠ [] := by
  cases h <;> exact List.cons_ne_nil _ _

variable {c : Char} {cs rest body s w : List Char} {kind? k : Option TokenKind} {n m : ℕ}

/-! ## What is taken is spelled as a lexeme -/

/-- A number behind its first digit is further digits and a fraction. -/
lemma exists_take_numberTail (cs : List Char) : ∃ ds fraction,
    cs.take (numberTail cs) = ds ++ fraction ∧ (∀ x ∈ ds, Text.isDigit x) ∧ Fraction fraction := by
  have hwhole : ∀ x ∈ cs.takeWhile Text.isDigit, Text.isDigit x :=
    fun _ hx => List.mem_takeWhile_imp hx
  have hplain : ∃ ds fraction, cs.take (cs.takeWhile Text.isDigit).length = ds ++ fraction ∧
      (∀ x ∈ ds, Text.isDigit x) ∧ Fraction fraction :=
    ⟨_, [], by rw [take_length_takeWhile, List.append_nil], hwhole, .none⟩
  rw [numberTail]
  dsimp only
  split
  · next rest hdrop =>
    split_ifs with hzero
    · exact hplain
    · obtain ⟨d, ds, hds⟩ := List.exists_cons_of_ne_nil (mt List.length_eq_zero_iff.mpr hzero)
      refine ⟨_, '.' :: d :: ds, ?_, hwhole, .digits fun x hx => List.mem_takeWhile_imp (hds ▸ hx)⟩
      rw [Nat.add_assoc, List.take_add, hdrop, Nat.add_comm, List.take_succ_cons,
        take_length_takeWhile, take_length_takeWhile, hds]
  · exact hplain

lemma exists_doubled_of_singleQuoted (h : singleQuoted? cs = some n) :
    ∃ body s, Doubled body s ∧ cs.take n = body ++ ['\''] := by
  fun_induction singleQuoted? cs generalizing n with
  | case1 => simp at h
  | case2 rest k hk ih =>
    obtain ⟨body, s, hbody, htake⟩ := ih hk
    obtain rfl : k + 2 = n := by simpa using h
    exact ⟨_, _, .mark hbody, by simp [htake]⟩
  | case3 | case4 =>
    obtain rfl : 1 = n := by simpa using h
    exact ⟨[], [], .nil, rfl⟩
  | case5 c rest hpair hmark ih =>
    obtain ⟨k, hk, rfl⟩ := Option.map_eq_some_iff.mp h
    obtain ⟨body, s, hbody, htake⟩ := ih hk
    exact ⟨_, _, .plain hmark hbody, by simp [htake]⟩

lemma exists_escaped_of_doubleQuoted (h : doubleQuoted? cs = some n) :
    ∃ body s, Escaped body s ∧ cs.take n = body ++ ['"'] := by
  fun_induction doubleQuoted? cs generalizing n with
  | case1 | case3 | case4 => simp at h
  | case2 =>
    obtain rfl : 1 = n := by simpa using h
    exact ⟨[], [], .nil, rfl⟩
  | case5 c rest hline ih =>
    obtain ⟨k, hk, rfl⟩ := Option.map_eq_some_iff.mp h
    obtain ⟨body, s, hbody, htake⟩ := ih hk
    exact ⟨_, _, .escape hline hbody, by simp [htake]⟩
  | case6 c rest hmark hlast hslash ih =>
    obtain ⟨k, hk, rfl⟩ := Option.map_eq_some_iff.mp h
    obtain ⟨body, s, hbody, htake⟩ := ih hk
    have hc : c ≠ '\\' := by
      rintro rfl
      cases rest with
      | nil => exact hlast rfl rfl
      | cons d rest => exact hslash d rest rfl rfl
    exact ⟨_, _, .plain hmark hc hbody, by simp [htake]⟩

lemma Lexeme.spelled (h : Lexeme c rest kind? n) : Spelled kind? (c :: rest.take n) := by
  cases h with
  | blank hc =>
    rw [take_length_takeWhile]
    exact .blanks (List.forall_mem_cons.mpr ⟨hc, fun _ hx => List.mem_takeWhile_imp hx⟩)
  | param hc hrest =>
    obtain ⟨d, ds, hds⟩ := List.exists_cons_of_ne_nil (mt List.length_eq_zero_iff.mpr hrest)
    rw [hc, wordTail, take_length_takeWhile, hds]
    exact .param fun x hx => List.mem_takeWhile_imp (hds ▸ hx)
  | number hc =>
    obtain ⟨ds, fraction, htake, hds, hfraction⟩ := exists_take_numberTail rest
    rw [htake]
    exact .number (List.forall_mem_cons.mpr ⟨hc, hds⟩) hfraction
  | @negative d more hc hrest hd =>
    obtain ⟨ds, fraction, htake, hds, hfraction⟩ := exists_take_numberTail more
    rw [hc, hrest, List.take_succ_cons, htake]
    exact .negative (List.forall_mem_cons.mpr ⟨hd, hds⟩) hfraction
  | singleQuoted hc closed =>
    obtain ⟨body, s, hbody, htake⟩ := exists_doubled_of_singleQuoted closed
    rw [hc, htake]
    exact .singleQuoted hbody
  | doubleQuoted hc closed =>
    obtain ⟨body, s, hbody, htake⟩ := exists_escaped_of_doubleQuoted closed
    rw [hc, htake]
    exact .doubleQuoted hbody
  | pair h =>
    cases rest with
    | nil => simp at h
    | cons d more => exact .pair (by simpa using h)
  | sign hc => exact .sign hc
  | word hc =>
    rw [wordTail, take_length_takeWhile]
    exact .word hc fun _ hx => List.mem_takeWhile_imp hx

/-! ## What is spelled as a lexeme is taken -/

/-- A run of characters of a class is part of the longest such run. -/
lemma length_le_takeWhile {p : Char → Bool} (h : ∀ x ∈ w, p x) (rest : List Char) :
    w.length ≤ ((w ++ rest).takeWhile p).length := by
  rw [List.takeWhile_append_of_pos h, List.length_append]
  exact Nat.le_add_right _ _

lemma length_takeWhile_le_numberTail (cs : List Char) :
    (cs.takeWhile Text.isDigit).length ≤ numberTail cs := by
  rw [numberTail]
  dsimp only
  split
  · split_ifs <;> omega
  · exact Nat.le_refl _

lemma length_le_numberTail {ds fraction : List Char} (h : ∀ x ∈ ds, Text.isDigit x)
    (hfraction : Fraction fraction) (rest : List Char) :
    (ds ++ fraction).length ≤ numberTail (ds ++ fraction ++ rest) := by
  cases hfraction with
  | none =>
    rw [List.append_nil]
    exact Nat.le_trans (length_le_takeWhile h rest) (length_takeWhile_le_numberTail _)
  | @digits d fs hfs =>
    have hpoint : Text.isDigit '.' = false := by decide
    have hwhole : (ds ++ '.' :: d :: fs ++ rest).takeWhile Text.isDigit = ds := by
      rw [List.append_assoc, List.takeWhile_append_of_pos h, List.cons_append,
        List.takeWhile_cons_of_neg (by simp [hpoint]), List.append_nil]
    have hdrop : (ds ++ '.' :: d :: fs ++ rest).drop ds.length = '.' :: (d :: fs ++ rest) := by
      rw [List.append_assoc, List.drop_left, List.cons_append]
    have hfraction := length_le_takeWhile hfs rest
    have htail : numberTail (ds ++ '.' :: d :: fs ++ rest) =
        ds.length + 1 + ((d :: fs ++ rest).takeWhile Text.isDigit).length := by
      rw [numberTail, hwhole, hdrop]
      rw [List.length_cons] at hfraction
      exact if_neg (by omega)
    rw [htail, List.length_append, List.length_cons]
    omega

/-- A text in apostrophes is closed by the apostrophe behind its characters or by a later one. -/
lemma exists_singleQuoted (h : Doubled body s) (rest : List Char) :
    ∃ n, singleQuoted? (body ++ '\'' :: rest) = some n ∧ body.length + 1 ≤ n := by
  induction h with
  | nil =>
    by_cases hmark : ∃ more, rest = '\'' :: more
    · obtain ⟨more, rfl⟩ := hmark
      cases hmore : singleQuoted? more with
      | none => exact ⟨1, by simp [singleQuoted?, hmore], Nat.le_refl _⟩
      | some n => exact ⟨n + 2, by simp [singleQuoted?, hmore], by simp⟩
    · exact ⟨1, by simp_all [singleQuoted?], Nat.le_refl _⟩
  | plain hc _ ih =>
    obtain ⟨n, hn, hle⟩ := ih
    exact ⟨n + 1, by simp [singleQuoted?, hc, hn], Nat.succ_le_succ hle⟩
  | mark _ ih =>
    obtain ⟨n, hn, hle⟩ := ih
    exact ⟨n + 2, by simp [singleQuoted?, hn], Nat.add_le_add_right hle 2⟩

lemma doubleQuoted?_append (h : Escaped body s) (rest : List Char) :
    doubleQuoted? (body ++ '"' :: rest) = some (body.length + 1) := by
  induction h with
  | nil => rfl
  | plain hmark hslash _ ih => simp [doubleQuoted?, hslash, ih]
  | escape hline _ ih => simp [doubleQuoted?, hline, ih]

/-! The first character of a lexeme tells its kind, and with it which of the cases of the scanner
applies. -/

lemma lexeme?_of_isBlank (hc : Text.isBlank c) (rest : List Char) :
    lexeme? c rest = some (none, (rest.takeWhile Text.isBlank).length) := by
  unfold lexeme?
  rw [if_pos hc]

lemma lexeme?_at (rest : List Char) : lexeme? '@' rest =
    if wordTail rest = 0 then none else some (some .param, wordTail rest) := rfl

lemma lexeme?_apostrophe (rest : List Char) :
    lexeme? '\'' rest = (singleQuoted? rest).map (some .string, ·) := rfl

lemma lexeme?_quotationMark (rest : List Char) :
    lexeme? '"' rest = (doubleQuoted? rest).map (some .string, ·) := rfl

lemma lexeme?_apostrophe_eq_some :
    lexeme? '\'' rest = some (kind?, n) ↔ some .string = kind? ∧ singleQuoted? rest = some n := by
  rw [lexeme?_apostrophe, Option.map_eq_some_iff]
  aesop

lemma lexeme?_quotationMark_eq_some :
    lexeme? '"' rest = some (kind?, n) ↔ some .string = kind? ∧ doubleQuoted? rest = some n := by
  rw [lexeme?_quotationMark, Option.map_eq_some_iff]
  aesop

lemma lexeme?_minus {d : Char} (hd : Text.isDigit d) (rest : List Char) :
    lexeme? '-' (d :: rest) = some (some .number, numberTail rest + 1) :=
  if_pos hd

/-- No digit is blank. -/
lemma isBlank_of_isDigit (h : Text.isDigit c) : Text.isBlank c = false := by
  have htable : ∀ z ∈ Text.zeros, ∀ i < 10, Text.isBlank (Char.ofNat (z + i)) = false := by
    decide +kernel
  obtain ⟨d, hd⟩ := Option.isSome_iff_exists.mp h
  obtain ⟨z, hz, rfl⟩ := Option.map_eq_some_iff.mp hd
  have hrange := List.find?_some hz
  simp only [Bool.and_eq_true, decide_eq_true_eq] at hrange
  have hc := htable z (List.mem_of_find?_eq_some hz) (c.toNat - z) (by omega)
  rwa [Nat.add_sub_cancel' hrange.1, Char.ofNat_toNat] at hc

lemma lexeme?_of_isDigit (hc : Text.isDigit c) (rest : List Char) :
    lexeme? c rest = some (some .number, numberTail rest) := by
  have hat : c ≠ '@' := by
    rintro rfl
    exact absurd hc (by decide)
  unfold lexeme?
  rw [if_neg (by simp [isBlank_of_isDigit hc]), if_neg hat, if_pos hc]

/-- The characters that operators begin with. -/
def signs : List Char :=
  ['=', '<', '>', '!', '(', ')', ',', '[', ']', '\x7b', '\x7d', '&', '|']

lemma mem_signs_of_isPair {d : Char} (h : isPair c d) : c ∈ signs := by
  unfold isPair at h
  split at h <;> first | exact absurd h (by decide) | decide

lemma mem_signs_of_isSingle (h : isSingle c) : c ∈ signs := by
  have hmem := List.contains_iff_mem.mp h
  exact List.mem_append_left ['&', '|'] hmem

lemma lexeme?_of_mem_signs (hc : c ∈ signs) (rest : List Char) :
    lexeme? c rest = if rest.head?.any (isPair c) then some (some .op, 1)
      else if isSingle c then some (some .op, 0) else none := by
  simp only [signs, List.mem_cons, List.not_mem_nil, or_false] at hc
  rcases hc with rfl | rfl | rfl | rfl | rfl | rfl | rfl | rfl | rfl | rfl | rfl | rfl | rfl <;> rfl

/-- A letter or an underscore begins nothing but a word. -/
lemma lexeme?_of_letter (hc : c.isAlpha ∨ c = '_') (rest : List Char) :
    lexeme? c rest = some (some .word, wordTail rest) := by
  have htable : ∀ code < 123, (Char.ofNat code).isAlpha ∨ Char.ofNat code = '_' →
      Text.isBlank (Char.ofNat code) = false ∧ Text.isDigit (Char.ofNat code) = false ∧
        Char.ofNat code ∉ '@' :: '-' :: '\'' :: '"' :: signs := by
    decide +kernel
  have hcode : c.toNat < 123 := by
    rcases hc with hc | rfl
    · have hranges : (decide (65 ≤ c.val ∧ c.val ≤ 90) ||
          (decide (97 ≤ c.val) && decide (c.val ≤ 122))) = true := hc
      have hle : c.val ≤ 122 := by
        rcases Bool.or_eq_true_iff.mp hranges with h | h
        · exact UInt32.le_trans (of_decide_eq_true h).2 (by decide)
        · exact of_decide_eq_true (Bool.and_eq_true_iff.mp h).2
      exact Nat.lt_succ_of_le (UInt32.le_iff_toNat_le.mp hle)
    · decide
  obtain ⟨hblank, hdigit, hfirst⟩ := htable c.toNat hcode (by rwa [Char.ofNat_toNat])
  rw [Char.ofNat_toNat] at hblank hdigit hfirst
  simp only [List.mem_cons, not_or] at hfirst
  obtain ⟨hat, hminus, hsingle, hdouble, hsigns⟩ := hfirst
  have hpair : ¬ rest.head?.any (isPair c) := by
    intro h
    obtain ⟨d, -, hd⟩ := (Option.any_eq_true _ _).mp h
    exact hsigns (mem_signs_of_isPair hd)
  unfold lexeme?
  rw [if_neg (by simp [hblank]), if_neg hat, if_neg (by simp [hdigit]), if_neg hminus,
    if_neg hsingle, if_neg hdouble, if_neg hpair, if_neg (mt mem_signs_of_isSingle hsigns),
    if_pos (by simpa using hc)]

/-- What begins with the characters of a lexeme begins with one of the kind, which is no shorter. -/
lemma Spelled.exists_lexeme? (h : Spelled kind? (c :: w)) (rest : List Char) :
    ∃ n, lexeme? c (w ++ rest) = some (kind?, n) ∧ w.length ≤ n := by
  cases h with
  | blanks h =>
    obtain ⟨hc, hw⟩ := List.forall_mem_cons.mp h
    exact ⟨_, lexeme?_of_isBlank hc _, length_le_takeWhile hw rest⟩
  | @param d w h =>
    have hle : (d :: w).length ≤ wordTail (d :: w ++ rest) := length_le_takeWhile h rest
    refine ⟨_, (lexeme?_at _).trans (if_neg fun hzero => ?_), hle⟩
    rw [hzero] at hle
    exact Nat.not_succ_le_zero _ hle
  | number h hfraction =>
    obtain ⟨hc, hds⟩ := List.forall_mem_cons.mp h
    exact ⟨_, lexeme?_of_isDigit hc _, length_le_numberTail hds hfraction rest⟩
  | negative h hfraction =>
    obtain ⟨hd, hds⟩ := List.forall_mem_cons.mp h
    exact ⟨_, lexeme?_minus hd _, Nat.succ_le_succ (length_le_numberTail hds hfraction rest)⟩
  | @singleQuoted body _ h =>
    obtain ⟨n, hn, hle⟩ := exists_singleQuoted h rest
    refine ⟨n, ?_, by simpa using hle⟩
    rw [List.append_assoc, List.singleton_append, lexeme?_apostrophe, hn, Option.map_some]
  | @doubleQuoted body _ h =>
    refine ⟨body.length + 1, ?_, by simp⟩
    rw [List.append_assoc, List.singleton_append, lexeme?_quotationMark, doubleQuoted?_append h,
      Option.map_some]
  | pair h =>
    exact ⟨1, (lexeme?_of_mem_signs (mem_signs_of_isPair h) _).trans (if_pos h), Nat.le_refl _⟩
  | sign h =>
    rw [lexeme?_of_mem_signs (mem_signs_of_isSingle h), if_pos h]
    split_ifs
    · exact ⟨1, rfl, Nat.zero_le _⟩
    · exact ⟨0, rfl, Nat.le_refl _⟩
  | word hc h => exact ⟨_, lexeme?_of_letter hc _, length_le_takeWhile h rest⟩

/-! ## The longest beginning -/

/-- The scanner takes the longest beginning that is spelled as a lexeme. -/
theorem lexeme?_eq_some_iff : lexeme? c rest = some (kind?, n) ↔
    n ≤ rest.length ∧ Spelled kind? (c :: rest.take n) ∧
      ∀ k w, Spelled k (c :: w) → w <+: rest → w.length ≤ n := by
  constructor
  · intro h
    have hlexeme := lexeme_of_eq_some h
    refine ⟨hlexeme.le_length, hlexeme.spelled, ?_⟩
    rintro k w hw ⟨more, rfl⟩
    obtain ⟨m, hm, hle⟩ := hw.exists_lexeme? more
    obtain ⟨-, rfl⟩ : k = kind? ∧ m = n := by simpa [hm] using h
    exact hle
  · rintro ⟨hle, hspelled, hlongest⟩
    obtain ⟨m, hm, hnm⟩ := hspelled.exists_lexeme? (rest.drop n)
    rw [List.take_append_drop] at hm
    have hlexeme := lexeme_of_eq_some hm
    have hmn := hlongest _ _ hlexeme.spelled (List.take_prefix m rest)
    rw [List.length_take, Nat.min_eq_left hlexeme.le_length] at hmn
    rw [List.length_take, Nat.min_eq_left hle] at hnm
    rw [hm, Nat.le_antisymm hmn hnm]

/-- It takes nothing where no beginning is spelled as a lexeme. -/
theorem lexeme?_eq_none_iff :
    lexeme? c rest = none ↔ ∀ k w, w <+: rest → ¬ Spelled k (c :: w) := by
  constructor
  · rintro h k _ ⟨more, rfl⟩ hw
    obtain ⟨m, hm, -⟩ := hw.exists_lexeme? more
    rw [h] at hm
    cases hm
  · intro h
    cases hlex : lexeme? c rest with
    | none => rfl
    | some found =>
      obtain ⟨kind?, n⟩ := found
      exact absurd (lexeme_of_eq_some hlex).spelled (h _ _ (List.take_prefix n rest))

/-- A text that is spelled as a lexeme is taken as a whole. -/
lemma Spelled.lexeme?_eq (h : Spelled k (c :: w)) : lexeme? c w = some (k, w.length) :=
  lexeme?_eq_some_iff.mpr ⟨Nat.le_refl _, by rwa [List.take_length],
    fun _ _ _ hpre => hpre.length_le⟩

/-- A lexeme is taken all the same where the text ends behind it. -/
lemma lexeme?_take (h : lexeme? c rest = some (kind?, n)) (hm : n ≤ m) :
    lexeme? c (rest.take m) = some (kind?, n) := by
  obtain ⟨hle, hspelled, hlongest⟩ := lexeme?_eq_some_iff.mp h
  refine lexeme?_eq_some_iff.mpr ⟨?_, ?_, fun k w hw hpre => ?_⟩
  · rw [List.length_take]
    exact Nat.le_min.mpr ⟨hm, hle⟩
  · rwa [List.take_take, Nat.min_eq_left hm]
  · exact hlongest k w hw (hpre.trans (List.take_prefix m rest))

/-! ## Scanning from a place on -/

lemma scanFrom_nil (position : ℕ) : scanFrom position [] = .ok [] := by
  rw [scanFrom.eq_def]

/-- Where no lexeme begins there are no tokens. -/
lemma scanFrom_eq_error (h : lexeme? c rest = none) (position : ℕ) :
    scanFrom position (c :: rest) = .error ⟨c, position⟩ := by
  rw [scanFrom.eq_def]
  simp only [h]

/-- A text is scanned by taking its first lexeme and scanning the rest. -/
lemma scanFrom_cons {position : ℕ} (h : lexeme? c rest = some (kind?, n)) :
    scanFrom position (c :: rest) = (scanFrom (position + 1 + n) (rest.drop n)).map
      ((kind?.map fun kind => ⟨kind, String.ofList (c :: rest.take n), position⟩).toList ++ ·) := by
  rw [scanFrom.eq_def]
  simp only [h]
  cases scanFrom (position + 1 + n) (rest.drop n) with
  | error e => rfl
  | ok ts => cases kind? <;> rfl

/-- A lexeme by itself is a token by itself. -/
lemma Spelled.scanFrom_eq {kind : TokenKind} (h : Spelled (some kind) w) (position : ℕ) :
    scanFrom position w = .ok [⟨kind, String.ofList w, position⟩] := by
  obtain ⟨c, w, rfl⟩ := List.exists_cons_of_ne_nil h.ne_nil
  rw [scanFrom_cons h.lexeme?_eq, List.drop_length, List.take_length, scanFrom_nil]
  rfl

/-- A single blank leaves no token. -/
lemma scanFrom_blank (hc : ¬ Text.isBlank c) (position : ℕ) (ext : List Char) :
    scanFrom position (' ' :: c :: ext) = scanFrom (position + 1) (c :: ext) := by
  have hlex := lexeme?_of_isBlank (c := ' ') (by decide) (c :: ext)
  rw [List.takeWhile_cons_of_neg hc] at hlex
  rw [scanFrom_cons hlex]
  exact Outcome.map_self _

end QueryTemplate.Token
