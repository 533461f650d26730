import QueryTemplate.Proofs.Calendar.Fields
import QueryTemplate.Proofs.Outcome

/-!
# Written times and moments are read back

The clock is read field by field, and so is the offset behind it.  An offset of less than a second
is the one thing that a text does not keep: it is written with its parts of a second and read as
universal time (`UtcOffset.kept`).
-/

namespace QueryTemplate

/-! ## Clock fields -/

/-- The text behind the seconds: parts of a second, where there are any. -/
def fractionChars (microsecond : ℕ) : List Char :=
  if microsecond = 0 then [] else '.' :: (zeroPadded 6 microsecond).toList

section Clock

variable {n microsecond index : ℕ} {separated : Bool} {fields : List ℕ} {rest : List Char}

/-- A field with a colon behind it is followed by the next one. -/
lemma readClockFrom_colon (hn : n < 10 ^ 2) (hindex : index < 2) (hsep : index = 0 ∨ separated)
    (hrest : rest ≠ []) :
    readClockFrom index separated fields ((zeroPadded 2 n).toList ++ ':' :: rest) =
      readClockFrom (index + 1) true (fields ++ [n]) rest := by
  rw [readClockFrom, takeDigits_zeroPadded (by omega) hn]
  rcases hsep with rfl | rfl <;> simp [hrest, hindex]

/-- The minutes may be the last field. -/
lemma readClockFrom_last (hn : n < 10 ^ 2) :
    readClockFrom index separated fields (zeroPadded 2 n).toList =
      some (fields ++ [n], 0, false) := by
  have hread := takeDigits_zeroPadded (by omega) hn []
  rw [List.append_nil] at hread
  rw [readClockFrom, hread]

lemma readFraction_six (h : microsecond < 10 ^ 6) :
    readFraction (zeroPadded 6 microsecond).toList = some (microsecond, false) := by
  have hread := takeDigits_zeroPadded (by omega) h []
  rw [List.append_nil] at hread
  simp [readFraction, length_zeroPadded (by omega) h, hread]

/-- The seconds and their parts. -/
lemma readClockFrom_seconds (hn : n < 10 ^ 2) (h : microsecond < 10 ^ 6) :
    readClockFrom 2 true fields ((zeroPadded 2 n).toList ++ fractionChars microsecond) =
      some (fields ++ [n], microsecond, false) := by
  rw [fractionChars]
  split_ifs with hzero
  · rw [List.append_nil, hzero]
    exact readClockFrom_last hn
  · rw [readClockFrom, takeDigits_zeroPadded (by omega) hn]
    simp [readFraction_six h, zeroPadded_ne_nil (by omega : 0 < 6) h]

end Clock

namespace ClockFields

/-- The characters of a clock text. -/
def chars (f : ClockFields) : List Char :=
  (zeroPadded 2 f.hour).toList ++ ':' :: ((zeroPadded 2 f.minute).toList ++
    ':' :: ((zeroPadded 2 f.second).toList ++ fractionChars f.microsecond))

/-- The characters of a clock text that ends with the minutes. -/
def briefChars (f : ClockFields) : List Char :=
  (zeroPadded 2 f.hour).toList ++ ':' :: (zeroPadded 2 f.minute).toList

/-- Every field fits its width. -/
def Fits (f : ClockFields) : Prop :=
  f.hour < 10 ^ 2 ∧ f.minute < 10 ^ 2 ∧ f.second < 10 ^ 2 ∧ f.microsecond < 10 ^ 6

variable {f : ClockFields}

lemma readClock_chars (h : f.Fits) : readClock f.chars = some (f, false) := by
  obtain ⟨hhour, hminute, hsecond, hmicro⟩ := h
  have hne := zeroPadded_ne_nil (by omega) hsecond
  rw [readClock, chars, readClockFrom_colon hhour (by omega) (.inl rfl) (by simp),
    readClockFrom_colon hminute (by omega) (.inr rfl) (by simp [hne]),
    readClockFrom_seconds hsecond hmicro]
  rfl

lemma readClock_briefChars (h : f.Fits) (hsecond : f.second = 0) (hmicro : f.microsecond = 0) :
    readClock f.briefChars = some (f, false) := by
  have hne := zeroPadded_ne_nil (by omega) h.2.1
  rw [readClock, briefChars, readClockFrom_colon h.1 (by omega) (.inl rfl) hne,
    readClockFrom_last h.2.1]
  obtain ⟨hour, minute, second, microsecond⟩ := f
  obtain rfl : second = 0 := hsecond
  obtain rfl : microsecond = 0 := hmicro
  rfl

/-- No offset begins in a clock text. -/
lemma beginsOffset_chars : ∀ c ∈ f.chars, beginsOffset c = false := by
  have hdigit : ∀ {c : Char}, c.isDigit = true → beginsOffset c = false := by
    intro c hc
    rw [beginsOffset, Bool.or_eq_false_iff, Bool.or_eq_false_iff, beq_eq_false_iff_ne,
      beq_eq_false_iff_ne, beq_eq_false_iff_ne]
    refine ⟨⟨?_, ?_⟩, ?_⟩ <;> rintro rfl <;> simp at hc
  have hfield : ∀ {w n : ℕ}, ∀ c ∈ (zeroPadded w n).toList, beginsOffset c = false :=
    fun c hc => hdigit (isDigit_zeroPadded c hc)
  have hfraction : ∀ c ∈ fractionChars f.microsecond, beginsOffset c = false := by
    rw [fractionChars]
    split_ifs
    · simp
    · exact List.forall_mem_cons.mpr ⟨rfl, hfield⟩
  simp only [chars, List.forall_mem_append, List.forall_mem_cons]
  exact ⟨hfield, rfl, hfield, rfl, hfield, hfraction⟩

end ClockFields

/-! ## Offsets -/

namespace UtcOffset

/-- What is left of an offset in a text: an offset of less than a second is none. -/
def kept (o : UtcOffset) : UtcOffset :=
  if o.microseconds.natAbs < 1000000 then zero else o

/-- The offset is zero or at least a second. -/
def IsCoarse (o : UtcOffset) : Prop :=
  o.microseconds = 0 ∨ 1000000 ≤ o.microseconds.natAbs

instance (o : UtcOffset) : Decidable o.IsCoarse :=
  inferInstanceAs (Decidable (_ ∨ _))

/-- A text keeps exactly the offsets of none or of at least a second. -/
lemma kept_eq_self {o : UtcOffset} : o.kept = o ↔ o.IsCoarse := by
  obtain ⟨n, h⟩ := o
  rw [kept, IsCoarse]
  split_ifs with hn
  · rw [zero, UtcOffset.mk.injEq]
    have : ¬ 1000000 ≤ n.natAbs := not_le.mpr hn
    simp only [this, or_false]
    exact eq_comm
  · simp only [true_iff]
    exact .inr (not_lt.mp hn)

/-- The clock fields of an offset without its sign. -/
def fields (o : UtcOffset) : ClockFields :=
  let n := o.microseconds.natAbs
  ⟨n / 1000000 / 3600, n / 1000000 / 60 % 60, n / 1000000 % 60, n % 1000000⟩

variable (o : UtcOffset)

lemma fits_fields : o.fields.Fits := by
  have hbound : o.microseconds.natAbs < 86400000000 := o.bounded
  refine ⟨?_, ?_, ?_, ?_⟩ <;> simp only [fields] <;> omega

/-- The sign in front of an offset. -/
def sign : Char :=
  if o.microseconds < 0 then '-' else '+'

/-- The text of an offset is a clock text behind its sign, without seconds where there are none. -/
lemma toList_text : o.text.toList = o.sign ::
    if o.fields.second = 0 ∧ o.fields.microsecond = 0 then o.fields.briefChars
    else o.fields.chars := by
  simp only [text, sign, fields, ClockFields.briefChars, ClockFields.chars, fractionChars]
  split_ifs <;> simp_all

lemma readClock_fields : readClock (if o.fields.second = 0 ∧ o.fields.microsecond = 0 then
    o.fields.briefChars else o.fields.chars) = some (o.fields, false) := by
  split_ifs with h
  · exact ClockFields.readClock_briefChars o.fits_fields h.1 h.2
  · exact ClockFields.readClock_chars o.fits_fields

lemma offsetMicroseconds_fields :
    o.fields.offsetMicroseconds (o.sign == '-') = o.kept.microseconds := by
  have hsign : (o.sign == '-') = decide (o.microseconds < 0) := by
    rw [sign]
    split_ifs with h <;> simp [h]
  have hseconds : (o.fields.hour * 60 + o.fields.minute) * 60 + o.fields.second =
      o.microseconds.natAbs / 1000000 := by
    simp only [fields]
    omega
  have hmicro : o.fields.microsecond = o.microseconds.natAbs % 1000000 := rfl
  simp only [ClockFields.offsetMicroseconds, hseconds, hmicro, hsign, kept, decide_eq_true_eq]
  by_cases hzero : o.microseconds.natAbs / 1000000 = 0
  · rw [if_pos hzero, if_pos (by omega)]
    rfl
  · have hlarge : ¬ o.microseconds.natAbs < 1000000 := by omega
    rw [if_neg hzero, if_neg hlarge]
    split_ifs with hneg <;> omega

end UtcOffset

/-- A written offset behind a clock text. -/
def offsetChars (offset : Option UtcOffset) : List Char :=
  (offset.map fun o => o.text.toList).getD []

/-- A clock text and an offset are read apart. -/
lemma readTimeFields_chars {f : ClockFields} (h : f.Fits) (offset : Option UtcOffset) :
    readTimeFields (f.chars ++ offsetChars offset) =
      some (f, offset.map fun o => o.kept.microseconds) := by
  have hpass : ∀ c ∈ f.chars, (!beginsOffset c) = true := by
    intro c hc
    rw [ClockFields.beginsOffset_chars c hc]
    rfl
  cases offset with
  | none =>
    have hfront : (f.chars ++ offsetChars none).takeWhile (!beginsOffset ·) = f.chars := by
      rw [List.takeWhile_append_of_pos hpass]
      exact List.append_nil _
    simp only [readTimeFields, hfront, ClockFields.readClock_chars h]
    simp [offsetChars]
  | some o =>
    have hsign : o.sign = '-' ∨ o.sign = '+' := by
      rw [UtcOffset.sign]
      split_ifs <;> simp
    have hchars : offsetChars (some o) = o.text.toList := rfl
    have hfront : (f.chars ++ offsetChars (some o)).takeWhile (!beginsOffset ·) = f.chars := by
      rw [List.takeWhile_append_of_pos hpass, hchars, UtcOffset.toList_text]
      rcases hsign with hs | hs <;> rw [hs, List.takeWhile_cons_of_neg (by decide), List.append_nil]
    have hclock := o.readClock_fields
    have hmicro := o.offsetMicroseconds_fields
    simp only [readTimeFields, hfront, ClockFields.readClock_chars h, List.drop_left]
    rw [hchars, UtcOffset.toList_text]
    generalize (if o.fields.second = 0 ∧ o.fields.microsecond = 0 then o.fields.briefChars
      else o.fields.chars) = cs at hclock
    rcases hsign with hs | hs <;> rw [hs] at hmicro ⊢ <;> simp [hclock, ← hmicro]

/-! ## Times -/

namespace Time

variable (t : Time)

/-- What is read of a written time: its offset as far as the text keeps it. -/
def kept : Time :=
  { t with offset := t.offset.map UtcOffset.kept }

/-- The offset, if there is one, is zero or at least a second. -/
def IsCoarse : Prop :=
  ∀ o ∈ t.offset, o.IsCoarse

lemma kept_eq_self {t : Time} : t.kept = t ↔ t.IsCoarse := by
  obtain ⟨hour, minute, second, microsecond, h, offset⟩ := t
  cases offset <;> simp [kept, IsCoarse, UtcOffset.kept_eq_self]

/-- The clock fields of a time. -/
def fields : ClockFields :=
  ⟨t.hour, t.minute, t.second, t.microsecond⟩

lemma fits_fields : t.fields.Fits := by
  obtain ⟨hhour, hminute, hsecond, hmicro⟩ := t.valid
  refine ⟨?_, ?_, ?_, ?_⟩ <;> simp only [fields] <;> omega

lemma toList_text : t.text.toList = t.fields.chars ++ offsetChars t.offset := by
  have hclock : t.clockText.toList = t.fields.chars := by
    simp only [clockText, fields, ClockFields.chars, fractionChars]
    split_ifs with h <;> simp [h]
  rw [text, String.toList_append, hclock, offsetChars]
  cases t.offset <;> rfl

lemma readTimeFields_text : readTimeFields t.text.toList =
    some (t.fields, t.offset.map fun o => o.kept.microseconds) := by
  rw [toList_text, readTimeFields_chars t.fits_fields]

lemma checkOffset_kept : checkOffset (t.offset.map fun o => o.kept.microseconds) =
    .ok t.kept.offset := by
  rw [kept]
  cases t.offset with
  | none => rfl
  | some o =>
    rw [Option.map_some, Option.map_some, checkOffset, UtcOffset.checked, dif_pos o.kept.bounded]
    rfl

lemma check_fields (offset : Option UtcOffset) : t.fields.check offset = .ok { t with offset } :=
  dif_pos t.valid

/-- A written time is read back, as far as the text keeps its offset. -/
theorem read_text : read t.text = .ok t.kept := by
  obtain ⟨c, cs, hcs, hc⟩ := zeroPadded_append_eq_cons (by omega) t.fits_fields.1
    (':' :: ((zeroPadded 2 t.fields.minute).toList ++ ':' :: ((zeroPadded 2 t.fields.second).toList ++
      fractionChars t.fields.microsecond)) ++ offsetChars t.offset)
  have hmark : c ≠ 'T' := by
    rintro rfl
    simp at hc
  have htext : t.text.toList = c :: cs := by
    rw [toList_text, ← hcs, ClockFields.chars, List.append_assoc]
  have hfields := t.readTimeFields_text
  rw [htext] at hfields
  have hread : read t.text = (do
      let offset ← checkOffset (t.offset.map fun o => o.kept.microseconds)
      t.fields.check offset) := by
    simp [read, htext, hmark, hfields]
  rw [hread, checkOffset_kept, Outcome.ok_bind, check_fields]
  rfl

end Time

/-! ## Moments -/

namespace Moment

variable (m : Moment)

/-- What is read of a written moment. -/
def kept : Moment :=
  { m with time := m.time.kept }

lemma kept_eq_self {m : Moment} : m.kept = m ↔ m.time.IsCoarse := by
  obtain ⟨date, time⟩ := m
  simp [kept, Time.kept_eq_self]

lemma dateLength_text (rest : List Char) : dateLength (m.date.text.toList ++ 'T' :: rest) = 10 := by
  have hyear := length_zeroPadded (by omega) m.date.year_lt
  obtain ⟨c, cs, hcs, hc⟩ := zeroPadded_append_eq_cons (by omega) m.date.month_lt
    ('-' :: (zeroPadded 2 m.date.day).toList ++ 'T' :: rest)
  have hlength : (m.date.text.toList ++ 'T' :: rest).length ≠ 7 := by
    rw [List.length_append, m.date.length_text]
    omega
  have htext : m.date.text.toList ++ 'T' :: rest =
      (zeroPadded 4 m.date.year).toList ++ '-' :: c :: cs := by
    rw [← hcs, Date.toList_text]
    simp
  have hweek : c ≠ 'W' := by
    rintro rfl
    simp at hc
  have hfour : (m.date.text.toList ++ 'T' :: rest)[4]? = some '-' := by
    rw [htext, List.getElem?_append_right (by omega), hyear]
    rfl
  have hfive : (m.date.text.toList ++ 'T' :: rest)[5]? = some c := by
    rw [htext, List.getElem?_append_right (by omega), hyear]
    rfl
  rw [dateLength, if_neg hlength, hfour, hfive]
  simp [hweek]

/-- A written moment is read back, as far as the text keeps its offset. -/
theorem read_text : read m.text = .ok m.kept := by
  have htext : m.text.toList = m.date.text.toList ++ 'T' :: m.time.text.toList := by
    simp [text, textWith]
  have hlength := m.date.length_text
  simp only [read, htext, dateLength_text, List.take_left' hlength, List.drop_left' hlength,
    Date.readDateFields_text, Time.readTimeFields_text]
  rw [Time.checkOffset_kept, Date.check_fields, Outcome.ok_bind, Outcome.ok_bind, Time.check_fields]
  rfl

end Moment

end QueryTemplate
