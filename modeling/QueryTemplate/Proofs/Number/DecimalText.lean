import QueryTemplate.Number.Decimal
import QueryTemplate.Proofs.Text.Digits

/-!
# Written decimal numbers are read back

The text of a decimal number keeps its digits and its exponent, so reading it gives the number
itself and not just its value.  Only the range of exponents is checked on the way, and every number
that can be made lies in it.
-/

namespace QueryTemplate.Decimal

/-- The digits lie in the range of decimal numbers. -/
def InRange : Decimal → Prop
  | .finite _ c e => e + Binary64.digitCount c - 1 ≤ maxExponent ∧ minExponent ≤ e
  | _ => True

instance (d : Decimal) : Decidable d.InRange := by
  cases d <;> unfold InRange <;> infer_instance

lemma checked_of_inRange {negative : Bool} {c : ℕ} {e : ℤ} (h : InRange (.finite negative c e)) :
    checked negative c e = .ok (.finite negative c e) :=
  if_pos h

/-! ## The plain form -/

/-- A character that reading leaves as it is. -/
def IsPlain (c : Char) : Prop :=
  c.toNat < 128 ∧ c.toNat ≠ 0 ∧ Text.isBlank c = false ∧ c ≠ '_'

lemma IsPlain.of_isDigit {c : Char} (h : c.isDigit = true) : IsPlain c := by
  simp only [Char.isDigit, Bool.and_eq_true, decide_eq_true_eq] at h
  have hlow : 48 ≤ c.toNat := h.1
  have hhigh : c.toNat ≤ 57 := h.2
  have hne : c ≠ '_' := by
    rintro rfl
    exact absurd hhigh (by decide)
  refine ⟨by omega, by omega, ?_, hne⟩
  simp only [Text.isBlank, Bool.or_eq_false_iff, Bool.and_eq_false_iff, decide_eq_false_iff_not,
    beq_eq_false_iff_ne]
  omega

lemma plainChars_eq {cs : List Char} (h : ∀ c ∈ cs, IsPlain c) :
    (plainChars (String.ofList cs)).map (List.filter (· != '_')) = some cs := by
  have hdrop : ∀ {cs : List Char}, (∀ c ∈ cs, IsPlain c) → cs.dropWhile Text.isBlank = cs := by
    intro cs h
    cases cs with
    | nil => rfl
    | cons c cs => rw [List.dropWhile_cons, (h c List.mem_cons_self).2.2.1, if_neg Bool.false_ne_true]
  have htrim : Text.trim cs = cs := by
    rw [Text.trim, hdrop h, Text.trimEnd, hdrop (by simpa using h), List.reverse_reverse]
  have hmap : ∀ {cs : List Char}, (∀ c ∈ cs, IsPlain c) →
      cs.mapM (fun c => if c.toNat < 128 then if c.toNat = 0 then none else some c
        else if Text.isBlank c then some ' ' else (Text.digitValue? c).map Nat.digitChar) =
      some cs := by
    intro cs h
    induction cs with
    | nil => rfl
    | cons c cs ih =>
      obtain ⟨hc, hcs⟩ := List.forall_mem_cons.mp h
      rw [List.mapM_cons, if_pos hc.1, if_neg hc.2.1, ih hcs]
      rfl
  rw [plainChars, String.toList_ofList, htrim, hmap h, Option.map_some, List.filter_eq_self.mpr]
  intro c hc
  exact bne_iff_ne.mpr (h c hc).2.2.2

/-- The text of a sign. -/
def signChars (negative : Bool) : List Char :=
  if negative then ['-'] else []

/-- A sign in front is read with what follows. -/
lemma read_signed {c : Char} {cs : List Char} (negative : Bool) (h : ∀ d ∈ c :: cs, IsPlain d)
    (hc : c ≠ '-' ∧ c ≠ '+') :
    read (String.ofList (signChars negative ++ c :: cs)) = readUnsigned negative (c :: cs) := by
  have hplain : ∀ d ∈ signChars negative ++ c :: cs, IsPlain d := by
    intro d hd
    rcases List.mem_append.mp hd with hd | hd
    · cases negative
      · simp [signChars] at hd
      · obtain rfl : d = '-' := by simpa [signChars] using hd
        unfold IsPlain
        decide
    · exact h d hd
  rw [read, plainChars_eq hplain]
  cases negative with
  | true => rfl
  | false =>
    rw [signChars, if_neg Bool.false_ne_true, List.nil_append]
    split <;> simp_all

/-! ## Digits, point and exponent -/

lemma toLower_of_isDigit {c : Char} (h : c.isDigit = true) : c.toLower = c := by
  simp only [Char.isDigit, Bool.and_eq_true, decide_eq_true_eq] at h
  have hhigh : c.toNat ≤ 57 := h.2
  have hupper : ¬ (c.val ≥ 'A'.val ∧ c.val ≤ 'Z'.val) := by
    rintro ⟨hlow, -⟩
    have : 65 ≤ c.toNat := hlow
    omega
  exact dif_neg hupper

/-- A number begins with a digit and is none of the words. -/
lemma readUnsigned_digit {c : Char} (h : c.isDigit = true) (negative : Bool) (cs : List Char) :
    readUnsigned negative (c :: cs) = readFinite negative (c :: cs) := by
  rw [readUnsigned, List.map_cons, toLower_of_isDigit h]
  split <;> simp_all

/-- What follows the digits: nothing, or an exponent. -/
def readTail (cs : List Char) : Option ℤ :=
  match cs with
  | [] => some 0
  | c :: more => if c == 'e' || c == 'E' then readExponent more else none

/-- The number with these digits before and behind the point, and this exponent. -/
def ofParts (negative : Bool) (whole fs : List Char) (exponent? : Option ℤ) :
    Except ReadError Decimal :=
  if whole.isEmpty && fs.isEmpty then .error .malformed
  else
    match exponent? with
    | none => .error .malformed
    | some e => checked negative (Text.digitsToNat (whole ++ fs)) (e - fs.length)

section Parts

variable {whole fs tail : List Char} {e : ℤ}

lemma readFinite_whole (hne : whole ≠ []) (hw : ∀ c ∈ whole, c.isDigit = true)
    (ht : Text.EndsDigits tail) (hpoint : ∀ c ∈ tail.head?, c ≠ '.') (he : readTail tail = some e)
    (negative : Bool) :
    readFinite negative (whole ++ tail) = checked negative (Text.digitsToNat whole) e := by
  simp only [readFinite, Text.takeWhile_digits hw ht, Text.dropWhile_digits hw ht]
  split
  · exact absurd rfl (hpoint '.' rfl)
  · change ofParts negative whole [] (readTail tail) = _
    rw [he]
    simp [ofParts, hne]

lemma readFinite_point (hne : whole ≠ []) (hw : ∀ c ∈ whole, c.isDigit = true)
    (hfs : ∀ c ∈ fs, c.isDigit = true) (ht : Text.EndsDigits tail) (he : readTail tail = some e)
    (negative : Bool) :
    readFinite negative (whole ++ '.' :: (fs ++ tail)) =
      checked negative (Text.digitsToNat (whole ++ fs)) (e - fs.length) := by
  have hpoint : Text.EndsDigits ('.' :: (fs ++ tail)) := by simp [Text.EndsDigits]
  simp only [readFinite, Text.takeWhile_digits hw hpoint, Text.dropWhile_digits hw hpoint,
    Text.takeWhile_digits hfs ht, Text.dropWhile_digits hfs ht]
  change ofParts negative whole fs (readTail tail) = _
  rw [he]
  simp [ofParts, hne]

end Parts

/-- The sign and digits of a written exponent. -/
def exponentChars (e : ℤ) : List Char :=
  (if e < 0 then '-' else '+') :: Nat.toDigits 10 e.natAbs

lemma readTail_exponent (e : ℤ) : readTail ('E' :: exponentChars e) = some e := by
  have hne : Nat.toDigits 10 e.natAbs ≠ [] := Nat.toDigits_ne_nil
  have hd : ∀ c ∈ Nat.toDigits 10 e.natAbs, c.isDigit = true := Text.isDigit_of_mem_toDigits
  rw [exponentChars]
  split_ifs with he
  · simp [readTail, readExponent, hne, abs_of_neg he]
    exact hd
  · simp [readTail, readExponent, hne, abs_of_nonneg (not_lt.mp he)]
    exact hd

/-! ## Finite numbers -/

/-- What the writer puts between digits and exponent. -/
def pointChars (fs : List Char) : List Char :=
  if fs.isEmpty then [] else '.' :: fs

/-- An exponent, or the end of the text where it is zero. -/
def IsTail (tail : List Char) (e : ℤ) : Prop :=
  tail = [] ∧ e = 0 ∨ tail = 'E' :: exponentChars e

/-- The digits of a number and what they are written as: digits, a fraction and an exponent that
denote it together. -/
def Spells (cs ds : List Char) (e : ℤ) : Prop :=
  ∃ whole fs tail e', cs = whole ++ (pointChars fs ++ tail) ∧ whole ≠ [] ∧
    (∀ d ∈ whole ++ fs, d.isDigit = true) ∧
    Text.digitsToNat (whole ++ fs) = Text.digitsToNat ds ∧ IsTail tail e' ∧ e' - fs.length = e

section Spelling

variable {ds : List Char} {e : ℤ}

lemma spells_plain (hne : ds ≠ []) (hd : ∀ d ∈ ds, d.isDigit = true) : Spells ds ds 0 :=
  ⟨ds, [], [], 0, by simp [pointChars], hne, by simpa using hd, by simp, .inl ⟨rfl, rfl⟩, rfl⟩

lemma spells_point (hd : ∀ d ∈ ds, d.isDigit = true) {n : ℕ} (hn : 0 < n) (hlt : n < ds.length)
    (he : n - ds.length = e) : Spells (ds.take n ++ '.' :: ds.drop n) ds e := by
  have hlength : (ds.drop n).length = ds.length - n := List.length_drop
  have hfs : ds.drop n ≠ [] := by
    rw [← List.length_pos_iff, hlength]
    omega
  refine ⟨ds.take n, ds.drop n, [], 0, ?_, ?_, ?_, ?_, .inl ⟨rfl, rfl⟩, ?_⟩
  · simp [pointChars, hfs]
  · rw [← List.length_pos_iff, List.length_take]
    omega
  · rwa [List.take_append_drop]
  · rw [List.take_append_drop]
  · omega

lemma spells_zeros (hne : ds ≠ []) (hd : ∀ d ∈ ds, d.isDigit = true) {n : ℕ}
    (he : -(n + ds.length) = e) : Spells ('0' :: '.' :: (List.replicate n '0' ++ ds)) ds e := by
  refine ⟨['0'], List.replicate n '0' ++ ds, [], 0, ?_, by simp, ?_, ?_, .inl ⟨rfl, rfl⟩, ?_⟩
  · simp [pointChars, hne]
  · intro d hdig
    rcases List.mem_append.mp hdig with hdig | hdig
    · rw [List.mem_singleton.mp hdig]
      rfl
    rcases List.mem_append.mp hdig with hdig | hdig
    · rw [List.eq_of_mem_replicate hdig]
      rfl
    · exact hd d hdig
  · rw [← List.append_assoc, ← List.replicate_one, List.replicate_append_replicate,
      Text.digitsToNat_zeros_append]
  · rw [List.length_append, List.length_replicate]
    omega

lemma spells_scientific {d : Char} {fs : List Char} (hd : ∀ c ∈ d :: fs, c.isDigit = true)
    {first : ℤ} (he : first - fs.length = e) :
    Spells (d :: pointChars fs ++ 'E' :: exponentChars first) (d :: fs) e :=
  ⟨[d], fs, 'E' :: exponentChars first, first, by simp, by simp, hd, rfl, .inr rfl, he⟩

end Spelling

/-- Wherever the point is placed, the text spells the digits. -/
lemma spells_digitsText (c : ℕ) (e : ℤ) : Spells (digitsText c e).toList (Nat.toDigits 10 c) e := by
  have hd : ∀ d ∈ Nat.toDigits 10 c, d.isDigit = true := Text.isDigit_of_mem_toDigits
  have hne : Nat.toDigits 10 c ≠ [] := Nat.toDigits_ne_nil
  simp only [digitsText]
  generalize Nat.toDigits 10 c = ds at *
  by_cases hplain : e ≤ 0 ∧ -6 ≤ e + ds.length - 1
  · rw [if_pos hplain]
    split_ifs with hzero hleft
    · rw [hzero, String.toList_ofList]
      exact spells_plain hne hd
    · obtain ⟨n, hn⟩ := Int.eq_ofNat_of_zero_le hleft.le
      have hspells := spells_point (n := n) (e := e) hd (by omega) (by omega) (by omega)
      simpa [hn] using hspells
    · obtain ⟨n, hn⟩ := Int.eq_ofNat_of_zero_le (a := -(ds.length + e)) (by omega)
      have hspells := spells_zeros hne hd (n := n) (e := e) (by omega)
      simpa [hn] using hspells
  · rw [if_neg hplain]
    have htail : ∀ first : ℤ, (if first < 0 then "-" else "+").toList ++
        (toString first.natAbs).toList = exponentChars first := by
      intro first
      rw [exponentChars]
      split_ifs <;> simp
    cases ds with
    | nil => exact absurd rfl hne
    | cons d fs =>
      have he : e + (d :: fs).length - 1 - fs.length = e := by
        rw [List.length_cons]
        push_cast
        omega
      have hspells := spells_scientific hd he
      rw [← htail] at hspells
      cases fs <;> simpa [pointChars] using hspells

/-- What spells digits is read as the number with these digits. -/
lemma Spells.readFinite {cs ds : List Char} {e : ℤ} (h : Spells cs ds e) (negative : Bool) :
    Decimal.readFinite negative cs = checked negative (Text.digitsToNat ds) e := by
  obtain ⟨whole, fs, tail, e', rfl, hne, hd, hds, ht, rfl⟩ := h
  have htail : readTail tail = some e' := by
    rcases ht with ⟨rfl, rfl⟩ | rfl
    · rfl
    · exact readTail_exponent e'
  have hend : ∀ c ∈ tail.head?, c.isDigit = false ∧ c ≠ '.' := by
    rcases ht with ⟨rfl, -⟩ | rfl <;> simp
  rw [← hds]
  cases fs with
  | nil =>
    rw [List.append_nil] at hd ⊢
    have hr := readFinite_whole hne hd (fun c hc => (hend c hc).1) (fun c hc => (hend c hc).2) htail
      negative
    simpa [pointChars] using hr
  | cons f fs =>
    obtain ⟨hw, hfs⟩ := List.forall_mem_append.mp hd
    exact readFinite_point hne hw hfs (fun c hc => (hend c hc).1) htail negative

lemma isPlain_exponentChars (e : ℤ) : ∀ c ∈ exponentChars e, IsPlain c := by
  rw [exponentChars, List.forall_mem_cons]
  refine ⟨?_, fun c hc => .of_isDigit (Text.isDigit_of_mem_toDigits c hc)⟩
  split_ifs <;> (unfold IsPlain; decide)

lemma Spells.isPlain {cs ds : List Char} {e : ℤ} (h : Spells cs ds e) : ∀ c ∈ cs, IsPlain c := by
  obtain ⟨whole, fs, tail, e', rfl, -, hd, -, ht, -⟩ := h
  obtain ⟨hw, hfs⟩ := List.forall_mem_append.mp hd
  have hpoint : ∀ c ∈ pointChars fs, IsPlain c := by
    rw [pointChars]
    split_ifs
    · simp
    · refine List.forall_mem_cons.mpr ⟨?_, fun c hc => .of_isDigit (hfs c hc)⟩
      unfold IsPlain
      decide
  have htail : ∀ c ∈ tail, IsPlain c := by
    rcases ht with ⟨rfl, -⟩ | rfl
    · simp
    · refine List.forall_mem_cons.mpr ⟨?_, isPlain_exponentChars e'⟩
      unfold IsPlain
      decide
  rw [List.forall_mem_append, List.forall_mem_append]
  exact ⟨fun c hc => .of_isDigit (hw c hc), hpoint, htail⟩

lemma Spells.head {cs ds : List Char} {e : ℤ} (h : Spells cs ds e) :
    ∃ d cs', cs = d :: cs' ∧ d.isDigit = true := by
  obtain ⟨whole, fs, tail, e', rfl, hne, hd, -⟩ := h
  obtain ⟨d, whole, rfl⟩ := List.exists_cons_of_ne_nil hne
  exact ⟨d, _, rfl, hd d (by simp)⟩

lemma toList_sign (negative : Bool) (s : String) :
    ((if negative then "-" else "") ++ s).toList = signChars negative ++ s.toList := by
  cases negative <;> simp [signChars]

lemma read_text_finite {negative : Bool} {c : ℕ} {e : ℤ} (h : InRange (.finite negative c e)) :
    read (text (.finite negative c e)) = .ok (.finite negative c e) := by
  have hspells := spells_digitsText c e
  have hread := hspells.readFinite negative
  rw [Text.digitsToNat_toDigits, checked_of_inRange h] at hread
  obtain ⟨d, cs, hcs, hd⟩ := hspells.head
  have hplain := hspells.isPlain
  rw [hcs] at hread hplain
  have hsign : d ≠ '-' ∧ d ≠ '+' := by constructor <;> rintro rfl <;> simp at hd
  rw [text, ← String.ofList_toList (s := _ ++ _), toList_sign, hcs, read_signed negative hplain hsign,
    readUnsigned_digit hd, hread]

/-! ## Infinity and what is no number -/

lemma read_text_infinite (negative : Bool) :
    read (text (.infinite negative)) = .ok (.infinite negative) := by
  cases negative <;> decide +kernel

/-- The digits of a payload; none where there is no payload. -/
def payloadChars (payload : ℕ) : List Char :=
  if payload = 0 then [] else Nat.toDigits 10 payload

lemma isDigit_payloadChars {payload : ℕ} : ∀ c ∈ payloadChars payload, c.isDigit = true := by
  rw [payloadChars]
  split_ifs
  · simp
  · exact Text.isDigit_of_mem_toDigits

lemma readPayload_payloadChars (negative signaling : Bool) (payload : ℕ) :
    readPayload negative signaling (payloadChars payload) =
      .ok (.nan negative signaling payload none) := by
  rw [readPayload, if_pos (List.all_eq_true.mpr isDigit_payloadChars), payloadChars]
  split_ifs with h
  · rw [h]
    rfl
  · rw [Text.digitsToNat_toDigits]

/-- The word for what is no number, with its payload. -/
def nanChars (signaling : Bool) (payload : ℕ) : List Char :=
  (if signaling then ['s', 'N', 'a', 'N'] else ['N', 'a', 'N']) ++ payloadChars payload

lemma readUnsigned_nanChars (negative signaling : Bool) (payload : ℕ) :
    readUnsigned negative (nanChars signaling payload) =
      .ok (.nan negative signaling payload none) := by
  have hlower : (payloadChars payload).map Char.toLower = payloadChars payload := by
    rw [List.map_congr_left fun c hc => toLower_of_isDigit (isDigit_payloadChars c hc)]
    exact List.map_id' _
  rw [readUnsigned, nanChars, List.map_append, hlower, ← readPayload_payloadChars]
  cases signaling <;> rfl

lemma read_text_nan (negative signaling : Bool) (payload : ℕ) (object : Option ℕ) :
    read (text (.nan negative signaling payload object)) =
      .ok (.nan negative signaling payload none) := by
  have hplain : ∀ c ∈ nanChars signaling payload, IsPlain c := by
    rw [nanChars, List.forall_mem_append]
    refine ⟨?_, fun c hc => .of_isDigit (isDigit_payloadChars c hc)⟩
    cases signaling <;> simp [IsPlain, Text.isBlank]
  have htext : ((if negative then "-" else "") ++ (if signaling then "sNaN" else "NaN") ++
      if payload = 0 then "" else toString payload).toList =
      signChars negative ++ nanChars signaling payload := by
    rw [String.append_assoc, toList_sign, nanChars, payloadChars]
    cases signaling <;> split_ifs <;> simp
  have hread := readUnsigned_nanChars negative signaling payload
  rw [text, ← String.ofList_toList (s := _ ++ _), htext]
  cases signaling <;> exact (read_signed negative hplain (by decide)).trans hread

/-- A written decimal number is read back, as an object of its own. -/
theorem read_text {d : Decimal} (h : d.InRange) : read d.text = .ok d.fresh := by
  cases d with
  | finite negative c e => exact read_text_finite h
  | infinite negative => exact read_text_infinite negative
  | nan negative signaling payload object => exact read_text_nan negative signaling payload object

end QueryTemplate.Decimal
