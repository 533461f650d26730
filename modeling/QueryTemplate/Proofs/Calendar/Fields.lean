import QueryTemplate.Calendar.Read
import QueryTemplate.Calendar.Text
import QueryTemplate.Proofs.Text.Digits

/-!
# Fields of a fixed width

Dates and times are written in fields of a fixed width, filled with zeros.  A number that fits its
field is read back from it, whatever follows the field.
-/

namespace QueryTemplate

section Fields

variable {w n : ℕ}

lemma toList_zeroPadded (w n : ℕ) : (zeroPadded w n).toList =
    List.replicate (w - (Nat.toDigits 10 n).length) '0' ++ Nat.toDigits 10 n :=
  String.toList_ofList

lemma isDigit_zeroPadded : ∀ c ∈ (zeroPadded w n).toList, c.isDigit = true := by
  intro c hc
  rw [toList_zeroPadded] at hc
  rcases List.mem_append.mp hc with hc | hc
  · rw [List.eq_of_mem_replicate hc]
    rfl
  · exact Text.isDigit_of_mem_toDigits c hc

lemma length_zeroPadded (hw : 0 < w) (h : n < 10 ^ w) : (zeroPadded w n).toList.length = w := by
  have hn : (Nat.toDigits 10 n).length ≤ w := (Text.digitCount_lt_iff hw).mpr h
  rw [toList_zeroPadded, List.length_append, List.length_replicate]
  omega

lemma zeroPadded_ne_nil (hw : 0 < w) (h : n < 10 ^ w) : (zeroPadded w n).toList ≠ [] := by
  rw [← List.length_pos_iff, length_zeroPadded hw h]
  exact hw

lemma digitsToNat_zeroPadded (w n : ℕ) : Text.digitsToNat (zeroPadded w n).toList = n := by
  rw [toList_zeroPadded, Text.digitsToNat_zeros_append, Text.digitsToNat_toDigits]

/-- A number that fits its field is read back from it. -/
lemma takeDigits_zeroPadded (hw : 0 < w) (h : n < 10 ^ w) (rest : List Char) :
    takeDigits w ((zeroPadded w n).toList ++ rest) = some (n, rest) := by
  have hlength := length_zeroPadded hw h
  have htake : ((zeroPadded w n).toList ++ rest).take w = (zeroPadded w n).toList :=
    List.take_left' hlength
  have hdrop : ((zeroPadded w n).toList ++ rest).drop w = rest := List.drop_left' hlength
  have hvalue := digitsToNat_zeroPadded w n
  rw [Text.digitsToNat_eq isDigit_zeroPadded, Nat.ofDigitChars_eq_foldl] at hvalue
  simp only [takeDigits, htake, hdrop, hvalue]
  exact if_pos ⟨hlength, List.all_eq_true.mpr isDigit_zeroPadded⟩

/-- What begins with a field begins with a digit. -/
lemma zeroPadded_append_eq_cons (hw : 0 < w) (h : n < 10 ^ w) (rest : List Char) :
    ∃ c cs, (zeroPadded w n).toList ++ rest = c :: cs ∧ c.isDigit = true := by
  obtain ⟨c, cs, hcs⟩ := List.exists_cons_of_ne_nil (zeroPadded_ne_nil hw h)
  have hc := isDigit_zeroPadded (w := w) (n := n) c (by rw [hcs]; exact List.mem_cons_self)
  exact ⟨c, cs ++ rest, by rw [hcs]; rfl, hc⟩

/-- A field takes a byte for each digit. -/
lemma utf8ByteSize_zeroPadded (hw : 0 < w) (h : n < 10 ^ w) : (zeroPadded w n).utf8ByteSize = w := by
  have hsize : ∀ {cs : List Char}, (∀ c ∈ cs, c.isDigit = true) →
      (String.ofList cs).utf8ByteSize = cs.length := by
    intro cs hcs
    induction cs with
    | nil => rfl
    | cons c cs ih =>
      obtain ⟨hc, hcs⟩ := List.forall_mem_cons.mp hcs
      have hone : c.utf8Size = 1 := by
        simp only [Char.isDigit, Bool.and_eq_true, decide_eq_true_eq] at hc
        exact if_pos (UInt32.le_trans hc.2 (by decide))
      rw [String.ofList_cons, String.utf8ByteSize_append, String.utf8ByteSize_singleton, hone, ih hcs,
        List.length_cons, Nat.add_comm]
  have hchars := hsize (isDigit_zeroPadded (w := w) (n := n))
  rwa [String.ofList_toList, length_zeroPadded hw h] at hchars

end Fields

/-! ## Dates -/

lemma daysInMonth_lt (year month : ℕ) : daysInMonth year month < 10 ^ 2 := by
  unfold daysInMonth monthLengths
  split_ifs
  · norm_num
  all_goals
    rcases month - 1 with _ | _ | _ | _ | _ | _ | _ | _ | _ | _ | _ | _ | _ <;> simp

namespace Date

variable (d : Date)

lemma year_lt : d.year < 10 ^ 4 := by
  have := d.valid.2.1
  omega

lemma month_lt : d.month < 10 ^ 2 := by
  have := d.valid.2.2.2.1
  omega

lemma day_lt : d.day < 10 ^ 2 :=
  lt_of_le_of_lt d.valid.2.2.2.2.2 (daysInMonth_lt d.year d.month)

lemma toList_text : d.text.toList = (zeroPadded 4 d.year).toList ++
    '-' :: ((zeroPadded 2 d.month).toList ++ '-' :: (zeroPadded 2 d.day).toList) := by
  simp [text]

lemma length_text : d.text.toList.length = 10 := by
  rw [toList_text]
  simp only [List.length_append, List.length_cons, length_zeroPadded (by omega) d.year_lt,
    length_zeroPadded (by omega) d.month_lt, length_zeroPadded (by omega) d.day_lt]

lemma readDateFields_text : readDateFields d.text.toList = some (.calendar d.year d.month d.day) := by
  have hyear := takeDigits_zeroPadded (by omega) d.year_lt
    ('-' :: ((zeroPadded 2 d.month).toList ++ '-' :: (zeroPadded 2 d.day).toList))
  have hmonth := takeDigits_zeroPadded (by omega) d.month_lt ('-' :: (zeroPadded 2 d.day).toList)
  have hday := takeDigits_zeroPadded (by omega) d.day_lt []
  rw [List.append_nil] at hday
  obtain ⟨c, cs, hcs, hc⟩ := zeroPadded_append_eq_cons (by omega) d.month_lt
    ('-' :: (zeroPadded 2 d.day).toList)
  have hread : readMonthDay d.year true (c :: cs) = some (.calendar d.year d.month d.day) := by
    rw [← hcs, readMonthDay, hmonth]
    simp [hday]
  rw [toList_text, readDateFields, hyear, hcs]
  simp only [Option.bind_eq_bind, Option.bind_some]
  split
  · next h =>
    obtain rfl := (List.cons.inj h).1
    simp at hc
  · exact hread

lemma check_fields : (DateFields.calendar d.year d.month d.day).check = .ok d :=
  dif_pos d.valid

/-- A written date is read back. -/
theorem read_text : read d.text = .ok d := by
  have hsize : d.text.utf8ByteSize = 10 := by
    simp only [text, String.utf8ByteSize_append, utf8ByteSize_zeroPadded (by omega) d.year_lt,
      utf8ByteSize_zeroPadded (by omega) d.month_lt, utf8ByteSize_zeroPadded (by omega) d.day_lt]
    rfl
  rw [read, hsize, if_pos (by decide), readDateFields_text]
  exact d.check_fields

end Date

end QueryTemplate
