import Mathlib.Data.List.DropRight
import Mathlib.Data.List.ModifyLast
import Mathlib.Tactic.Common
import QueryTemplate.Text.Lines

/-!
# What tidying leaves

The search for blank lines drops exactly the lines without a filled character that a line break ends
(`dropBlankLines_line`), so all that it leaves beside the filled lines is blank and stands behind
them (`dropBlankLines_eq`), where trimming takes it away.  Trimming does not make new blank lines,
because the first and the last line that are left are filled.  So the lines of a tidied text are the
filled lines of the text, trimmed at the two outer ends (`lines_tidy`).
-/

namespace QueryTemplate.Text

variable {c : Char} {l cs rest : List Char} {ls : List (List Char)}

/-- Does the line hold a character that is not blank? -/
def isFilled (l : List Char) : Bool :=
  l.any fun c => !isBlank c

/-- Lines without the blanks before the first and behind the last of them. -/
def trimOuter (ls : List (List Char)) : List (List Char) :=
  (ls.modifyHead (List.dropWhile isBlank)).modifyLast trimEnd

lemma isFilled_iff : isFilled l = true ↔ ∃ c ∈ l, isBlank c = false := by
  simp [isFilled]

lemma isFilled_eq_false : isFilled l = false ↔ ∀ c ∈ l, isBlank c = true := by
  simp [isFilled]

/-! ## The lines of a text -/

lemma lines_of_not_mem (h : '\n' ∉ l) : lines l = [l] := by
  induction l with
  | nil => rfl
  | cons c l ih =>
    obtain ⟨hc, hl⟩ := List.ne_and_not_mem_of_not_mem_cons h
    simp [lines, hc.symm, ih hl]

lemma lines_append (h : '\n' ∉ l) (rest : List Char) :
    lines (l ++ '\n' :: rest) = l :: lines rest := by
  induction l with
  | nil => simp [lines]
  | cons c l ih =>
    obtain ⟨hc, hl⟩ := List.ne_and_not_mem_of_not_mem_cons h
    simp [lines, hc.symm, ih hl]

lemma not_mem_lines (cs : List Char) : ∀ l ∈ lines cs, '\n' ∉ l := by
  induction cs with
  | nil => simp [lines]
  | cons c cs ih =>
    rw [lines]
    split_ifs with hc
    · simpa using ih
    · rcases hl : lines cs with _ | ⟨l, ls⟩
      · simpa using Ne.symm hc
      · rw [hl] at ih
        obtain ⟨hl, hls⟩ := List.forall_mem_cons.mp ih
        exact List.forall_mem_cons.mpr ⟨by simp [Ne.symm hc, hl], hls⟩

lemma unlines_cons (l : List Char) (hne : ls ≠ []) : unlines (l :: ls) = l ++ '\n' :: unlines ls := by
  cases ls with
  | nil => exact absurd rfl hne
  | cons => rfl

lemma lines_unlines (hne : ls ≠ []) (h : ∀ l ∈ ls, '\n' ∉ l) : lines (unlines ls) = ls := by
  induction ls with
  | nil => exact absurd rfl hne
  | cons l ls ih =>
    obtain ⟨hl, hls⟩ := List.forall_mem_cons.mp h
    rcases eq_or_ne ls [] with rfl | hne
    · exact lines_of_not_mem hl
    · rw [unlines_cons l hne, lines_append hl, ih hne hls]

/-- A text is a last line, or a line with its line break in front of a text. -/
@[elab_as_elim]
lemma lines_induction {motive : List Char → Prop} (last : ∀ l, '\n' ∉ l → motive l)
    (line : ∀ l rest, '\n' ∉ l → motive rest → motive (l ++ '\n' :: rest)) (cs : List Char) :
    motive cs := by
  have hunlines : ∀ ls : List (List Char), (∀ l ∈ ls, '\n' ∉ l) → motive (unlines ls) := by
    intro ls h
    induction ls with
    | nil => exact last [] (by simp)
    | cons l ls ih =>
      obtain ⟨hl, hls⟩ := List.forall_mem_cons.mp h
      rcases eq_or_ne ls [] with rfl | hne
      · exact last l hl
      · rw [unlines_cons l hne]
        exact line l _ hl (ih hls)
  rw [← unlines_lines cs]
  exact hunlines _ (not_mem_lines cs)

/-! ## The search for blank lines -/

/-- A line ends only before a line feed, so a carriage return never begins a line break: it counts
among the blanks. -/
lemma breakLength?_cons (c : Char) (cs : List Char) :
    breakLength? (c :: cs) = if c = '\n' then some 1 else none := by
  by_cases hc : c = '\n'
  · subst hc
    rfl
  · simp [breakLength?, endsLine, hc]

lemma blankLength?_of_not_mem (h : '\n' ∉ l) : blankLength? l = none := by
  induction l with
  | nil => rfl
  | cons c l ih =>
    obtain ⟨hc, hl⟩ := List.ne_and_not_mem_of_not_mem_cons h
    simp [blankLength?, breakLength?_cons, hc.symm, ih hl]

/-- The blanks from the beginning of a line have a line break behind them if the line holds nothing
else, and then they take the blank lines that follow with them. -/
lemma blankLength?_line (h : '\n' ∉ l) (rest : List Char) :
    blankLength? (l ++ '\n' :: rest) =
      if isFilled l then none else some (l.length + 1 + (blankLength? rest).getD 0) := by
  induction l with
  | nil =>
    have hblank : isBlank '\n' = true := by decide
    rcases hr : blankLength? rest with _ | n
    · simp [blankLength?, breakLength?_cons, isFilled, hblank, hr]
    · simp [blankLength?, breakLength?_cons, isFilled, hblank, hr, Nat.add_comm]
  | cons c l ih =>
    obtain ⟨hc, hl⟩ := List.ne_and_not_mem_of_not_mem_cons h
    rw [List.cons_append, blankLength?, ih hl, breakLength?_cons, if_neg hc.symm]
    by_cases hb : isBlank c = true
    · have hcons : isFilled (c :: l) = isFilled l := by simp [isFilled, hb]
      rw [if_pos hb, hcons]
      split_ifs with hf
      · rfl
      · simp [Nat.add_right_comm]
    · have hcons : isFilled (c :: l) = true := by simp [isFilled, hb]
      rw [if_neg hb, if_pos hcons]

lemma blankLength?_ne_zero (cs : List Char) : blankLength? cs ≠ some 0 := by
  cases cs with
  | nil => simp [blankLength?, breakLength?, endsLine]
  | cons c cs =>
    rw [blankLength?, breakLength?_cons]
    rcases blankLength? cs with _ | n <;> split_ifs <;> simp

lemma dropBlankLines_of_length {n : ℕ} (h : blankLength? cs = some n) :
    dropBlankLines true 0 cs = dropBlankLines true n cs := by
  rcases cs with _ | ⟨c, cs⟩
  · rfl
  · rcases n with _ | n
    · exact absurd h (blankLength?_ne_zero _)
    · simp [dropBlankLines, h]

/-- What is still to be dropped is dropped up to the line break, and from there on. -/
lemma dropBlankLines_skip (b : Bool) (l rest : List Char) (k : ℕ) :
    dropBlankLines b (l.length + 1 + k) (l ++ '\n' :: rest) = dropBlankLines true k rest := by
  induction l generalizing b with
  | nil => simp [Nat.add_comm, dropBlankLines]
  | cons c l ih =>
    rw [List.length_cons, Nat.add_right_comm _ 1 1, Nat.add_right_comm _ 1 k, List.cons_append,
      dropBlankLines]
    exact ih (c == '\n')

lemma dropBlankLines_inside (h : '\n' ∉ l) (rest : List Char) :
    dropBlankLines false 0 (l ++ '\n' :: rest) = l ++ '\n' :: dropBlankLines true 0 rest := by
  induction l with
  | nil => simp [dropBlankLines]
  | cons c l ih =>
    obtain ⟨hc, hl⟩ := List.ne_and_not_mem_of_not_mem_cons h
    simp [dropBlankLines, beq_false_of_ne hc.symm, ih hl]

/-- A last line stays, whatever it holds. -/
lemma dropBlankLines_last (h : '\n' ∉ l) (b : Bool) : dropBlankLines b 0 l = l := by
  induction l generalizing b with
  | nil => rfl
  | cons c l ih =>
    obtain ⟨-, hl⟩ := List.ne_and_not_mem_of_not_mem_cons h
    simp [dropBlankLines, blankLength?_of_not_mem h, ih hl]

/-- A line that a line break ends stays if it is filled, and is dropped with the line break if it is
not. -/
lemma dropBlankLines_line (h : '\n' ∉ l) (rest : List Char) :
    dropBlankLines true 0 (l ++ '\n' :: rest) =
      if isFilled l then l ++ '\n' :: dropBlankLines true 0 rest
      else dropBlankLines true 0 rest := by
  have hlength := blankLength?_line h rest
  split_ifs at hlength ⊢ with hf
  · rcases l with _ | ⟨c, l⟩
    · simp [isFilled] at hf
    · obtain ⟨hc, hl⟩ := List.ne_and_not_mem_of_not_mem_cons h
      rw [List.cons_append] at hlength ⊢
      simp [dropBlankLines, hlength, beq_false_of_ne hc.symm, dropBlankLines_inside hl]
  · rw [dropBlankLines_of_length hlength, dropBlankLines_skip]
    rcases hr : blankLength? rest with _ | n
    · rfl
    · exact (dropBlankLines_of_length hr).symm

/-- Beside the filled lines, only blanks behind them are left. -/
lemma dropBlankLines_eq (cs : List Char) :
    ∃ blanks, (∀ c ∈ blanks, isBlank c = true) ∧
      dropBlankLines true 0 cs = unlines ((lines cs).filter isFilled) ++ blanks := by
  induction cs using lines_induction with
  | last l h =>
    rw [dropBlankLines_last h, lines_of_not_mem h]
    by_cases hf : isFilled l = true
    · exact ⟨[], by simp, by simp [hf, unlines]⟩
    · exact ⟨l, isFilled_eq_false.mp (by simpa using hf), by simp [hf, unlines]⟩
  | line l rest h ih =>
    obtain ⟨blanks, hblanks, hrest⟩ := ih
    rw [dropBlankLines_line h, lines_append h, hrest]
    by_cases hf : isFilled l = true
    · rw [if_pos hf, List.filter_cons_of_pos hf]
      rcases eq_or_ne ((lines rest).filter isFilled) [] with hnone | hsome
      · refine ⟨'\n' :: blanks, List.forall_mem_cons.mpr ⟨by decide, hblanks⟩, ?_⟩
        rw [hnone]
        rfl
      · exact ⟨blanks, hblanks, by simp [unlines_cons l hsome]⟩
    · rw [if_neg hf, List.filter_cons_of_neg hf]
      exact ⟨blanks, hblanks, rfl⟩

/-! ## Trimming -/

lemma trimEnd_eq (cs : List Char) : trimEnd cs = cs.rdropWhile isBlank := rfl

lemma dropWhile_blanks (h : ∀ c ∈ l, isBlank c = true) (rest : List Char) :
    (l ++ rest).dropWhile isBlank = rest.dropWhile isBlank := by
  rw [List.dropWhile_append, List.dropWhile_eq_nil_iff.mpr h]
  rfl

lemma dropWhile_filled (h : isFilled l = true) (rest : List Char) :
    (l ++ rest).dropWhile isBlank = l.dropWhile isBlank ++ rest := by
  have hne : l.dropWhile isBlank ≠ [] := by
    rw [Ne, List.dropWhile_eq_nil_iff]
    obtain ⟨c, hc, hblank⟩ := isFilled_iff.mp h
    exact fun hall => by simp [hall c hc] at hblank
  rw [List.dropWhile_append, if_neg (by simpa using hne)]

lemma trimEnd_append_blanks (l : List Char) (h : ∀ c ∈ rest, isBlank c = true) :
    trimEnd (l ++ rest) = trimEnd l := by
  rw [trimEnd, List.reverse_append, dropWhile_blanks (by simpa using h), trimEnd]

lemma trimEnd_append_filled (l : List Char) (h : isFilled rest = true) :
    trimEnd (l ++ rest) = l ++ trimEnd rest := by
  rw [trimEnd, List.reverse_append, dropWhile_filled (by simpa [isFilled] using h),
    List.reverse_append, List.reverse_reverse, trimEnd]

lemma trim_append_blanks (l : List Char) (h : ∀ c ∈ rest, isBlank c = true) :
    trim (l ++ rest) = trim l := by
  rw [trim, List.dropWhile_append]
  split_ifs with hl
  · have hrest : rest.dropWhile isBlank = [] := List.dropWhile_eq_nil_iff.mpr h
    rw [hrest, trim, List.isEmpty_iff.mp hl]
  · rw [trimEnd_append_blanks _ h, trim]

/-- The first character of a trimmed text is filled. -/
lemma isBlank_head?_trim (cs : List Char) : ∀ c ∈ (trim cs).head?, isBlank c = false := by
  intro c hc
  obtain ⟨blanks, hprefix⟩ : trim cs <+: cs.dropWhile isBlank := List.rdropWhile_prefix isBlank _
  have hhead : (cs.dropWhile isBlank).head? = some c := by
    rw [← hprefix, List.head?_append, Option.mem_def.mp hc]
    rfl
  have hnot := List.head?_dropWhile_not isBlank cs
  rw [hhead] at hnot
  simpa using hnot

/-- The last character of a trimmed text is filled. -/
lemma isBlank_getLast?_trim (cs : List Char) : ∀ c ∈ (trim cs).getLast?, isBlank c = false := by
  intro c hc
  rw [trim, trimEnd, List.getLast?_reverse] at hc
  have hnot := List.head?_dropWhile_not isBlank (cs.dropWhile isBlank).reverse
  rw [Option.mem_def.mp hc] at hnot
  simpa using hnot

lemma trim_trim (cs : List Char) : trim (trim cs) = trim cs := by
  have hstart : (trim cs).dropWhile isBlank = trim cs := by
    rcases h : trim cs with _ | ⟨c, rest⟩
    · rfl
    · have hc := isBlank_head?_trim cs c (by simp [h])
      simp [hc]
  rw [trim, hstart, trim, trimEnd_eq, trimEnd_eq, List.rdropWhile_idempotent]

/-- Trimming takes away blanks only. -/
lemma filter_trim (cs : List Char) :
    (trim cs).filter (fun c => !isBlank c) = cs.filter (fun c => !isBlank c) := by
  have hdrop : ∀ xs : List Char,
      (xs.dropWhile isBlank).filter (fun c => !isBlank c) = xs.filter (fun c => !isBlank c) := by
    intro xs
    induction xs with
    | nil => rfl
    | cons c xs ih => by_cases hc : isBlank c = true <;> simp [hc, ih]
  rw [trim, trimEnd, List.filter_reverse, hdrop, ← List.filter_reverse, List.reverse_reverse, hdrop]

/-! ## Filled lines -/

lemma isFilled_dropWhile (h : isFilled l = true) : isFilled (l.dropWhile isBlank) = true := by
  induction l with
  | nil => simp [isFilled] at h
  | cons c l ih => by_cases hc : isBlank c = true <;> simp_all [isFilled]

lemma isFilled_trimEnd (h : isFilled l = true) : isFilled (trimEnd l) = true := by
  have hreverse := isFilled_dropWhile (l := l.reverse) (by simpa [isFilled] using h)
  simpa [isFilled, trimEnd] using hreverse

lemma dropWhile_unlines (h : isFilled l = true) (ls : List (List Char)) :
    (unlines (l :: ls)).dropWhile isBlank = unlines (l.dropWhile isBlank :: ls) := by
  rcases eq_or_ne ls [] with rfl | hne
  · rfl
  · rw [unlines_cons l hne, unlines_cons _ hne, dropWhile_filled h]

lemma unlines_concat (ls : List (List Char)) (l : List Char) :
    unlines (ls ++ [l]) = ls.flatMap (· ++ ['\n']) ++ l := by
  induction ls with
  | nil => rfl
  | cons m ls ih =>
    rw [List.cons_append, unlines_cons m (by simp), ih]
    simp

lemma trimEnd_unlines (ls : List (List Char)) (h : isFilled l = true) :
    trimEnd (unlines (ls ++ [l])) = unlines (ls ++ [trimEnd l]) := by
  rw [unlines_concat, trimEnd_append_filled _ h, ← unlines_concat]

lemma exists_trimOuter (hne : ls ≠ []) :
    ∃ before l, ls.modifyHead (List.dropWhile isBlank) = before ++ [l] ∧
      trimOuter ls = before ++ [trimEnd l] := by
  have hhead : ls.modifyHead (List.dropWhile isBlank) ≠ [] := by simpa using hne
  obtain ⟨before, l, h⟩ := (List.eq_nil_or_concat' _).resolve_left hhead
  exact ⟨before, l, h, by rw [trimOuter, h, List.modifyLast_concat]⟩

/-- What trimming one end of a line keeps, trimming the outer lines keeps. -/
lemma forall_mem_trimOuter {p : List Char → Prop} (hstart : ∀ l, p l → p (l.dropWhile isBlank))
    (hend : ∀ l, p l → p (trimEnd l)) (h : ∀ l ∈ ls, p l) : ∀ l ∈ trimOuter ls, p l := by
  rcases eq_or_ne ls [] with rfl | hne
  · exact h
  · obtain ⟨before, last, hlast, htrim⟩ := exists_trimOuter hne
    have hhead : ∀ l ∈ before ++ [last], p l := by
      obtain ⟨l, ls, rfl⟩ := List.exists_cons_of_ne_nil hne
      obtain ⟨hl, hls⟩ := List.forall_mem_cons.mp h
      rw [← hlast]
      exact List.forall_mem_cons.mpr ⟨hstart l hl, hls⟩
    rw [htrim]
    intro l hl
    rcases List.mem_append.mp hl with hl | hl
    · exact hhead l (List.mem_append_left _ hl)
    · rw [List.mem_singleton.mp hl]
      exact hend last (hhead last (by simp))

lemma isFilled_trimOuter (h : ∀ l ∈ ls, isFilled l = true) :
    ∀ l ∈ trimOuter ls, isFilled l = true :=
  forall_mem_trimOuter (fun _ => isFilled_dropWhile) (fun _ => isFilled_trimEnd) h

lemma not_mem_trimOuter (h : ∀ l ∈ ls, '\n' ∉ l) : ∀ l ∈ trimOuter ls, '\n' ∉ l :=
  forall_mem_trimOuter (p := ('\n' ∉ ·))
    (fun _ hl hmem => hl ((List.dropWhile_sublist isBlank).subset hmem))
    (fun _ hl hmem => hl ((List.rdropWhile_prefix isBlank _).subset hmem)) h

/-- Trimming filled lines trims the first and the last of them. -/
lemma trim_unlines (hne : ls ≠ []) (h : ∀ l ∈ ls, isFilled l = true) :
    trim (unlines ls) = unlines (trimOuter ls) := by
  obtain ⟨before, last, hlast, htrim⟩ := exists_trimOuter hne
  obtain ⟨l, ls, rfl⟩ := List.exists_cons_of_ne_nil hne
  obtain ⟨hl, hls⟩ := List.forall_mem_cons.mp h
  rw [List.modifyHead_cons] at hlast
  have hfilled : isFilled last = true := by
    have hmem : last ∈ l.dropWhile isBlank :: ls := by simp [hlast]
    rcases List.mem_cons.mp hmem with rfl | hmem
    · exact isFilled_dropWhile hl
    · exact hls last hmem
  rw [trim, dropWhile_unlines hl, hlast, trimEnd_unlines before hfilled, htrim]

lemma filter_unlines (ls : List (List Char)) :
    (unlines ls).filter (fun c => !isBlank c) = ls.flatMap (List.filter fun c => !isBlank c) := by
  have hblank : isBlank '\n' = true := by decide
  induction ls with
  | nil => rfl
  | cons l ls ih =>
    rcases eq_or_ne ls [] with rfl | hne
    · simp [unlines]
    · simp [unlines_cons l hne, hblank, ih]

/-- Lines that are not filled have nothing to keep. -/
lemma flatMap_filter_isFilled (ls : List (List Char)) :
    (ls.filter isFilled).flatMap (List.filter fun c => !isBlank c) =
      ls.flatMap (List.filter fun c => !isBlank c) := by
  induction ls with
  | nil => rfl
  | cons l ls ih =>
    by_cases hl : isFilled l = true
    · rw [List.filter_cons_of_pos hl, List.flatMap_cons, List.flatMap_cons, ih]
    · have hnone : l.filter (fun c => !isBlank c) = [] :=
        List.filter_eq_nil_iff.mpr (by simpa using isFilled_eq_false.mp (by simpa using hl))
      rw [List.filter_cons_of_neg hl, List.flatMap_cons, hnone, ih, List.nil_append]

/-! ## Tidied texts -/

section Tidied

variable (s : String)

/-- A tidied text is what the filled lines leave when they are trimmed together. -/
lemma toList_tidy : (tidy s).toList = trim (unlines ((lines s.toList).filter isFilled)) := by
  obtain ⟨blanks, hblanks, h⟩ := dropBlankLines_eq s.toList
  rw [tidy, String.toList_ofList, h, trim_append_blanks _ hblanks]

lemma lines_toList_tidy :
    lines (tidy s).toList =
      if (lines s.toList).filter isFilled = [] then [[]]
      else trimOuter ((lines s.toList).filter isFilled) := by
  rw [toList_tidy]
  split_ifs with h
  · rw [h]
    rfl
  · obtain ⟨before, last, -, htrim⟩ := exists_trimOuter h
    rw [trim_unlines h fun l hl => (List.mem_filter.mp hl).2, lines_unlines (by simp [htrim])]
    exact not_mem_trimOuter fun l hl => not_mem_lines _ l (List.mem_filter.mp hl).1

/-- Tidying keeps the characters that are not blank, in order. -/
lemma filter_tidy :
    (tidy s).toList.filter (fun c => !isBlank c) = s.toList.filter (fun c => !isBlank c) := by
  have hlines := filter_unlines (lines s.toList)
  rw [unlines_lines] at hlines
  rw [toList_tidy, filter_trim, filter_unlines, flatMap_filter_isFilled, hlines]

lemma tidy_eq_empty_iff : tidy s = "" ↔ ∀ c ∈ s.toList, isBlank c = true := by
  have hfilter := filter_tidy s
  constructor
  · intro h
    rw [h] at hfilter
    simpa using List.filter_eq_nil_iff.mp hfilter.symm
  · intro h
    have hnone : s.toList.filter (fun c => !isBlank c) = [] :=
      List.filter_eq_nil_iff.mpr (by simpa using h)
    rw [hnone, List.filter_eq_nil_iff] at hfilter
    have hnil : (tidy s).toList = [] := by
      by_contra hne
      obtain ⟨c, rest, hc⟩ := List.exists_cons_of_ne_nil hne
      have hhead : c ∈ (tidy s).toList.head? := by simp [hc]
      rw [toList_tidy] at hhead
      exact hfilter c (by simp [hc]) (by simp [isBlank_head?_trim _ c hhead])
    exact String.toList_eq_nil_iff.mp hnil

/-- The lines of a tidied text are filled, if it has a character at all. -/
lemma isFilled_lines_tidy : ∀ l ∈ lines (tidy s).toList, isFilled l = true ∨ tidy s = "" := by
  intro l hl
  rw [lines_toList_tidy] at hl
  split_ifs at hl with h
  · refine .inr ?_
    rw [← String.toList_eq_nil_iff, toList_tidy, h]
    rfl
  · exact .inl (isFilled_trimOuter (fun m hm => (List.mem_filter.mp hm).2) l hl)

lemma tidy_tidy : tidy (tidy s) = tidy s := by
  apply String.toList_injective
  rcases eq_or_ne (tidy s) "" with h | h
  · rw [h]
    rfl
  · have hfilled : (lines (tidy s).toList).filter isFilled = lines (tidy s).toList :=
      List.filter_eq_self.mpr fun l hl => (isFilled_lines_tidy s l hl).resolve_right h
    rw [toList_tidy (tidy s), hfilled, unlines_lines, toList_tidy, trim_trim]

/-- **Tidying drops blank lines and trims.**  The lines of a tidied text are those lines of the text
that hold a character that is not blank, in order and as they are, but for the blanks before the
first and behind the last of them; without such a line nothing is left.  So tidying a tidied text
changes nothing, a tidied text has neither blank lines nor blanks at its ends, and the characters
that are not blank stay as they were. -/
theorem lines_tidy :
    let kept := (lines s.toList).filter isFilled
    lines (tidy s).toList = (if kept = [] then [[]] else trimOuter kept) ∧
      (tidy s = "" ↔ ∀ c ∈ s.toList, isBlank c = true) ∧
      tidy (tidy s) = tidy s ∧
      (∀ l ∈ lines (tidy s).toList, isFilled l = true ∨ tidy s = "") ∧
      (∀ c ∈ (tidy s).toList.head?, isBlank c = false) ∧
      (∀ c ∈ (tidy s).toList.getLast?, isBlank c = false) ∧
      (tidy s).toList.filter (fun c => !isBlank c) = s.toList.filter (fun c => !isBlank c) := by
  refine ⟨lines_toList_tidy s, tidy_eq_empty_iff s, tidy_tidy s, isFilled_lines_tidy s, ?_, ?_,
    filter_tidy s⟩
  · rw [toList_tidy]
    exact isBlank_head?_trim _
  · rw [toList_tidy]
    exact isBlank_getLast?_trim _

end Tidied

/-- The search takes both blank lines at once, and trimming takes the blanks of the last line. -/
example : tidy " a\r\n \r\n\n b\n\t" = "a\r\n b" := by decide

end QueryTemplate.Text
