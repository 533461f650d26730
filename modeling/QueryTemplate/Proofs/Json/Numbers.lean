import QueryTemplate.Json.Parser
import QueryTemplate.Json.Printer
import QueryTemplate.Proofs.Number.Shortest

/-!
# Written JSON numbers are read back

A number ends where neither a digit nor a point nor an exponent follows.  Up to there the reader
takes whole part, fraction and exponent apart as the writer put them together, and what they denote
is the number: an integer exactly, and a double-precision number because its digits read back
wherever the point is placed.  An integer is read from a document only where it is short enough
(`IsShort`); the whole part of a double-precision number always is.
-/

namespace QueryTemplate.Json

/-- No part of a number begins here. -/
def EndsNumber (cs : List Char) : Prop :=
  ∀ c ∈ cs.head?, c.isDigit = false ∧ c ≠ '.' ∧ c ≠ 'e' ∧ c ≠ 'E'

lemma EndsNumber.endsDigits {cs : List Char} (h : EndsNumber cs) : Text.EndsDigits cs :=
  fun c hc => (h c hc).1

/-! ## The parts of a number -/

section Parts

variable {cs fs : List Char}

lemma readFraction_none (h : ∀ c ∈ cs.head?, c ≠ '.') : readFraction cs = some (none, cs) := by
  fun_cases readFraction cs with
  | case1 | case2 => exact absurd rfl (h '.' rfl)
  | case3 => rfl

lemma readFraction_some (hne : fs ≠ []) (hfs : ∀ c ∈ fs, c.isDigit = true)
    (hcs : Text.EndsDigits cs) : readFraction ('.' :: (fs ++ cs)) = some (some fs, cs) := by
  rw [readFraction]
  simp [Text.takeWhile_digits hfs hcs, hne]

lemma readExponent_none (h : ∀ c ∈ cs.head?, c ≠ 'e' ∧ c ≠ 'E') :
    readExponent cs = some (none, cs) := by
  cases cs with
  | nil => rfl
  | cons c cs =>
    obtain ⟨h₁, h₂⟩ := h c rfl
    simp [readExponent, h₁, h₂]

/-- The text of an exponent is its digits behind a minus, if it has one. -/
lemma toList_exponentText (e : ℤ) : (FloatStyle.json.exponentText e).toList =
    (if e < 0 then ['-'] else []) ++ Nat.toDigits 10 e.natAbs := by
  have hpad : 1 - (toString e.natAbs).length = 0 := by
    have hpos := List.length_pos_of_ne_nil (Nat.toDigits_ne_nil (n := e.natAbs) (b := 10))
    rw [← String.length_toList, Nat.toString_eq_repr, Nat.toList_repr]
    omega
  simp only [FloatStyle.exponentText, FloatStyle.json, hpad, List.replicate_zero]
  split_ifs <;> simp

lemma readExponent_some (e : ℤ) (hcs : Text.EndsDigits cs) :
    readExponent ('e' :: ((FloatStyle.json.exponentText e).toList ++ cs)) = some (some e, cs) := by
  obtain ⟨d, ds, hds⟩ := List.exists_cons_of_ne_nil (Nat.toDigits_ne_nil (n := e.natAbs) (b := 10))
  have hd : ∀ c ∈ d :: ds, c.isDigit = true := hds ▸ Text.isDigit_of_mem_toDigits
  have hn : Text.digitsToNat (d :: ds) = e.natAbs := hds ▸ Text.digitsToNat_toDigits _
  have hw : ((d :: ds) ++ cs).takeWhile Char.isDigit = d :: ds := Text.takeWhile_digits hd hcs
  have hne : d ≠ '-' ∧ d ≠ '+' := by
    have := hd d List.mem_cons_self
    constructor <;> rintro rfl <;> simp at this
  rw [toList_exponentText, hds]
  split_ifs with he
  · simp only [List.cons_append, readExponent] at hw ⊢
    simp [hw, hn, abs_of_neg he]
  · simp only [List.nil_append, List.cons_append, readExponent] at hw ⊢
    simp [hw, hn, hne, abs_of_nonneg (not_lt.mp he)]

end Parts

/-! ## Whole numbers -/

lemma refuses_eq_false {negative : Bool} {whole : List Char} (h : whole.length < maxDigits) :
    Dialect.document.refuses negative whole = false := by
  rw [Dialect.refuses, decide_eq_false_iff_not]
  split_ifs <;> omega

/-- A number is read part by part. -/
lemma readUnsigned_parts {whole rest rest' rest'' : List Char} {fraction : Option (List Char)}
    {exponent : Option ℤ} (hne : whole ≠ []) (hw : ∀ c ∈ whole, c.isDigit = true)
    (hz : whole.head? = some '0' → whole.length = 1) (hr : Text.EndsDigits rest)
    (hf : readFraction rest = some (fraction, rest'))
    (he : readExponent rest' = some (exponent, rest'')) {negative : Bool}
    (hfits : Dialect.document.refuses negative whole = false) :
    readUnsigned .document negative (whole ++ rest) =
      if fraction.isNone && exponent.isNone then
        .ok (.int (if negative then -Text.digitsToNat whole else Text.digitsToNat whole), rest'')
      else
        .ok (.float (Binary64.ofDecimal negative (Text.digitsToNat (whole ++ fraction.getD []))
          (exponent.getD 0 - (fraction.getD []).length)), rest'') := by
  simp only [readUnsigned, Text.takeWhile_digits hw hr, List.drop_left, hf, hfits]
  rw [if_neg (by simpa [hne] using hz)]
  cases fraction <;> cases exponent <;> simp [he, Dialect.integerError?]

/-- A document does not hold a number whose whole part is too long. -/
lemma readUnsigned_refused {whole rest : List Char} {negative : Bool}
    (hw : ∀ c ∈ whole, c.isDigit = true) (hr : Text.EndsDigits rest)
    (h : Dialect.document.refuses negative whole = true) :
    readUnsigned .document negative (whole ++ rest) = .error .malformed := by
  simp only [readUnsigned, Text.takeWhile_digits hw hr, h, Bool.or_true, if_pos]

/-- The digits of a number are a whole part as it has to be. -/
lemma head?_toDigits_zero {n : ℕ} (h : (Nat.toDigits 10 n).head? = some '0') :
    (Nat.toDigits 10 n).length = 1 := by
  rcases Nat.eq_zero_or_pos n with rfl | hn
  · rfl
  · exact absurd h (Text.head?_toDigits hn)

lemma readUnsigned_int {cs : List Char} {n : ℕ} (hcs : EndsNumber cs) {negative : Bool}
    (hfits : Dialect.document.refuses negative (Nat.toDigits 10 n) = false) :
    readUnsigned .document negative (Nat.toDigits 10 n ++ cs) =
      .ok (.int (if negative then -n else n), cs) := by
  have hf : readFraction cs = some (none, cs) := readFraction_none fun c hc => (hcs c hc).2.1
  have he : readExponent cs = some (none, cs) := readExponent_none fun c hc => (hcs c hc).2.2
  rw [readUnsigned_parts Nat.toDigits_ne_nil Text.isDigit_of_mem_toDigits head?_toDigits_zero
    hcs.endsDigits hf he hfits]
  simp

/-- Among parameters an integer of too many digits is an error of its own. -/
lemma readUnsigned_tooLong {cs : List Char} {n : ℕ} (hcs : EndsNumber cs)
    (hlong : maxDigits < (Nat.toDigits 10 n).length) (negative : Bool) :
    readUnsigned .parameters negative (Nat.toDigits 10 n ++ cs) =
      .error (.tooLong (Nat.toDigits 10 n).length) := by
  have hwhole : (Nat.toDigits 10 n ++ cs).takeWhile Char.isDigit = Nat.toDigits 10 n :=
    Text.takeWhile_digits Text.isDigit_of_mem_toDigits hcs.endsDigits
  have hlead : (Nat.toDigits 10 n).head? ≠ some '0' := by
    refine fun h => absurd (head?_toDigits_zero h) ?_
    rintro hone
    rw [hone] at hlong
    exact absurd hlong (by decide)
  have hf : readFraction cs = some (none, cs) := readFraction_none fun c hc => (hcs c hc).2.1
  have he : readExponent cs = some (none, cs) := readExponent_none fun c hc => (hcs c hc).2.2
  simp [readUnsigned, hwhole, hlead, Dialect.refuses, hf, he, Dialect.integerError?, hlong,
    Nat.toDigits_ne_nil]

/-! ## Double-precision numbers -/

section Floats

variable {whole fs cs : List Char}

/-- A number with a point is read as what its digits denote, scaled by their place. -/
lemma readUnsigned_point (hne : whole ≠ []) (hw : ∀ c ∈ whole, c.isDigit = true)
    (hz : whole.head? = some '0' → whole.length = 1) (hfne : fs ≠ [])
    (hfs : ∀ c ∈ fs, c.isDigit = true) (hlength : whole.length < maxDigits) (hcs : EndsNumber cs)
    (negative : Bool) :
    readUnsigned .document negative (whole ++ '.' :: (fs ++ cs)) =
      .ok (.float (Binary64.ofDecimal negative (Text.digitsToNat (whole ++ fs)) (-fs.length)),
        cs) := by
  have hr : Text.EndsDigits ('.' :: (fs ++ cs)) := by simp [Text.EndsDigits]
  have hf := readFraction_some hfne hfs hcs.endsDigits
  have he : readExponent cs = some (none, cs) := readExponent_none fun c hc => (hcs c hc).2.2
  rw [readUnsigned_parts hne hw hz hr hf he (refuses_eq_false hlength)]
  simp

/-- The same of a number with an exponent. -/
lemma readUnsigned_exponent (hne : whole ≠ []) (hw : ∀ c ∈ whole, c.isDigit = true)
    (hz : whole.head? = some '0' → whole.length = 1) (hfs : ∀ c ∈ fs, c.isDigit = true) (e : ℤ)
    (hlength : whole.length < maxDigits) (hcs : EndsNumber cs) (negative : Bool) :
    readUnsigned .document negative (whole ++ ((if fs.isEmpty then [] else '.' :: fs) ++
        'e' :: ((FloatStyle.json.exponentText e).toList ++ cs))) =
      .ok (.float (Binary64.ofDecimal negative (Text.digitsToNat (whole ++ fs))
        (e - fs.length)), cs) := by
  have he := readExponent_some e hcs.endsDigits
  cases fs with
  | nil =>
    have hr : Text.EndsDigits ('e' :: ((FloatStyle.json.exponentText e).toList ++ cs)) := by
      simp [Text.EndsDigits]
    have hf : readFraction ('e' :: ((FloatStyle.json.exponentText e).toList ++ cs)) =
        some (none, 'e' :: ((FloatStyle.json.exponentText e).toList ++ cs)) :=
      readFraction_none (by simp)
    rw [List.isEmpty_nil, if_pos rfl, List.nil_append,
      readUnsigned_parts hne hw hz hr hf he (refuses_eq_false hlength)]
    simp
  | cons f fs =>
    have hr : Text.EndsDigits ('.' :: ((f :: fs) ++
        'e' :: ((FloatStyle.json.exponentText e).toList ++ cs))) := by simp [Text.EndsDigits]
    have hf : readFraction ('.' :: ((f :: fs) ++
        'e' :: ((FloatStyle.json.exponentText e).toList ++ cs))) =
        some (some (f :: fs), 'e' :: ((FloatStyle.json.exponentText e).toList ++ cs)) :=
      readFraction_some (by simp) hfs (by simp [Text.EndsDigits])
    rw [List.isEmpty_cons, if_neg Bool.false_ne_true, List.cons_append,
      readUnsigned_parts hne hw hz hr hf he (refuses_eq_false hlength)]
    simp

variable {ds : List Char}

/-- Zeros fill the places up to the point. -/
lemma readUnsigned_zeros (hne : ds ≠ []) (hd : ∀ c ∈ ds, c.isDigit = true)
    (hz : ds.head? ≠ some '0') (hpos : 0 < Text.digitsToNat ds) {k : ℕ}
    (hlength : ds.length + k < maxDigits) (hcs : EndsNumber cs) (negative : Bool) :
    readUnsigned .document negative ((ds ++ List.replicate k '0') ++ '.' :: (['0'] ++ cs)) =
      .ok (.float (Binary64.ofDecimal negative (Text.digitsToNat ds) k), cs) := by
  have hw : ∀ c ∈ ds ++ List.replicate k '0', c.isDigit = true := by
    intro c hc
    rcases List.mem_append.mp hc with hc | hc
    · exact hd c hc
    · rw [List.eq_of_mem_replicate hc]
      rfl
  have hhead : (ds ++ List.replicate k '0').head? = some '0' →
      (ds ++ List.replicate k '0').length = 1 := by
    intro h0
    rw [List.head?_append_of_ne_nil _ hne] at h0
    exact absurd h0 hz
  have hnum : Text.digitsToNat (ds ++ List.replicate k '0' ++ ['0']) =
      Text.digitsToNat ds * 10 ^ (k + 1) := by
    rw [List.append_assoc, ← List.replicate_one, List.replicate_append_replicate,
      Text.digitsToNat_append_zeros hd]
  rw [readUnsigned_point (by simp [hne]) hw hhead (by simp) (by simp) (by simpa using hlength) hcs,
    hnum,
    Binary64.ofDecimal_mul_pow hpos]
  simp

/-- The point stands among the digits. -/
lemma readUnsigned_among (hd : ∀ c ∈ ds, c.isDigit = true) (hz : ds.head? ≠ some '0') {n : ℕ}
    (hn : 0 < n) (hn' : n < ds.length) (hlength : n < maxDigits) (hcs : EndsNumber cs)
    (negative : Bool) :
    readUnsigned .document negative (ds.take n ++ '.' :: (ds.drop n ++ cs)) =
      .ok (.float (Binary64.ofDecimal negative (Text.digitsToNat ds) (n - ds.length)), cs) := by
  have hne : ds ≠ [] := List.ne_nil_of_length_pos (by omega)
  have hhead : (ds.take n).head? = some '0' → (ds.take n).length = 1 := by
    intro h0
    rw [List.head?_take, if_neg hn.ne'] at h0
    exact absurd h0 hz
  rw [readUnsigned_point (by simp [hn.ne', hne]) (fun c hc => hd c (List.mem_of_mem_take hc)) hhead
    (by simp [hn']) (fun c hc => hd c (List.mem_of_mem_drop hc))
    ((List.length_take_le n ds).trans_lt hlength) hcs, List.take_append_drop]
  congr 4
  rw [List.length_drop]
  omega

/-- The point stands before zeros and the digits. -/
lemma readUnsigned_before (hne : ds ≠ []) (hd : ∀ c ∈ ds, c.isDigit = true) (k : ℕ)
    (hcs : EndsNumber cs) (negative : Bool) :
    readUnsigned .document negative (['0'] ++ '.' :: ((List.replicate k '0' ++ ds) ++ cs)) =
      .ok (.float (Binary64.ofDecimal negative (Text.digitsToNat ds) (-(k + ds.length))), cs) := by
  have hfs : ∀ c ∈ List.replicate k '0' ++ ds, c.isDigit = true := by
    intro c hc
    rcases List.mem_append.mp hc with hc | hc
    · rw [List.eq_of_mem_replicate hc]
      rfl
    · exact hd c hc
  have hnum : Text.digitsToNat (['0'] ++ (List.replicate k '0' ++ ds)) = Text.digitsToNat ds := by
    rw [← List.append_assoc, ← List.replicate_one, List.replicate_append_replicate,
      Text.digitsToNat_zeros_append]
  rw [readUnsigned_point (by simp) (by simp) (by simp) (by simp [hne]) hfs (by decide) hcs, hnum]
  simp

/-- Wherever the point is placed, the digits of an expansion denote what they read back as. -/
theorem readUnsigned_place {x : Expansion} {m : ℕ} {e : ℤ} (h : Binary64.Canonical m e)
    (hm : 0 < m) (hx : x.readsAs m e = true) (hcs : EndsNumber cs) (negative : Bool) :
    readUnsigned .document negative ((FloatStyle.json.place x).toList ++ cs) =
      .ok (.float (.finite negative m e h), cs) := by
  rw [← Expansion.ofDecimal_of_readsAs h hx negative]
  have hpos : 0 < x.digits := Expansion.digits_pos_of_readsAs hm hx
  have hd : ∀ c ∈ Nat.toDigits 10 x.digits, c.isDigit = true := Text.isDigit_of_mem_toDigits
  have hz : (Nat.toDigits 10 x.digits).head? ≠ some '0' := Text.head?_toDigits hpos
  have hne : Nat.toDigits 10 x.digits ≠ [] := Nat.toDigits_ne_nil
  rw [FloatStyle.place]
  have hn : x.digits = Text.digitsToNat (Nat.toDigits 10 x.digits) :=
    (Text.digitsToNat_toDigits _).symm
  generalize Nat.toDigits 10 x.digits = ds at *
  rw [hn] at hpos ⊢
  -- A point stands no further behind the first digit than the style lets it.
  have hmax : FloatStyle.json.highest < maxDigits := by decide
  split_ifs with hplain hwhole hfirst
  · obtain ⟨k, hk⟩ := Int.eq_ofNat_of_zero_le hwhole
    have hr := readUnsigned_zeros hne hd hz hpos (k := k) (by omega) hcs negative
    simpa [hk] using hr
  · obtain ⟨j, hj⟩ := Int.eq_ofNat_of_zero_le hfirst
    have hr := readUnsigned_among hd hz (n := j + 1) (by omega) (by omega) (by omega) hcs negative
    have he : ((j + 1 : ℕ) : ℤ) - ds.length = x.exponent := by omega
    rw [he] at hr
    simpa [hj] using hr
  · obtain ⟨k, hk⟩ : ∃ k : ℕ, -(x.exponent + ds.length - 1) - 1 = k :=
      Int.eq_ofNat_of_zero_le (by omega)
    have hr := readUnsigned_before hne hd k hcs negative
    have he : -((k : ℤ) + ds.length) = x.exponent := by omega
    rw [he] at hr
    rw [hk, Int.toNat_natCast]
    simpa using hr
  · cases ds with
    | nil => exact absurd rfl hne
    | cons d ds =>
      obtain ⟨hd₁, hds⟩ := List.forall_mem_cons.mp hd
      have hr := readUnsigned_exponent (List.cons_ne_nil d []) (by simpa using hd₁) (by simp) hds
        (x.exponent + (d :: ds).length - 1) (by simp [maxDigits]) hcs negative
      have he : x.exponent + (d :: ds).length - 1 - ds.length = x.exponent := by
        rw [List.length_cons]
        push_cast
        omega
      rw [he] at hr
      cases ds with
      | nil => simpa using hr
      | cons d' ds => simpa using hr

end Floats

/-! ## Signs -/

section Signs

variable {dialect : Dialect} {c : Char} {cs : List Char}

/-- A number without a sign begins with a digit. -/
lemma readScalar_digit (h : c.isDigit = true) (cs : List Char) :
    readScalar dialect (c :: cs) = readUnsigned dialect false (c :: cs) := by
  unfold readScalar
  split <;> first | rfl | simp_all

lemma readScalar_minus (h : c.isDigit = true) (cs : List Char) :
    readScalar dialect ('-' :: c :: cs) = readUnsigned dialect true (c :: cs) := by
  unfold readScalar
  split <;> simp_all

/-- A sign in front of a number is read with it. -/
lemma readScalar_signed (negative : Bool) (h : ∀ c ∈ cs.head?, c.isDigit = true) (hne : cs ≠ []) :
    readScalar dialect ((if negative then ['-'] else []) ++ cs) =
      readUnsigned dialect negative cs := by
  obtain ⟨c, cs, rfl⟩ := List.exists_cons_of_ne_nil hne
  cases negative with
  | false => exact readScalar_digit (h c rfl) cs
  | true => exact readScalar_minus (h c rfl) cs

lemma head_of_readUnsigned {negative : Bool} {r : Json × List Char}
    (h : readUnsigned dialect negative cs = .ok r) :
    (∀ c ∈ cs.head?, c.isDigit = true) ∧ cs ≠ [] := by
  cases cs with
  | nil => simp [readUnsigned] at h
  | cons c cs =>
    refine ⟨?_, List.cons_ne_nil c cs⟩
    rintro _ ⟨⟩
    by_contra hc
    simp [readUnsigned, hc] at h

end Signs

/-- The integer is short enough for a document, its sign included. -/
def IsShort (i : ℤ) : Prop :=
  (toString i).length ≤ maxDigits

instance (i : ℤ) : Decidable (IsShort i) :=
  inferInstanceAs (Decidable (_ ≤ _))

lemma toList_toString (i : ℤ) : (toString i).toList =
    (if decide (i < 0) then ['-'] else []) ++ Nat.toDigits 10 i.natAbs := by
  cases i with
  | ofNat n =>
    rw [if_neg (by simp)]
    exact Nat.toList_repr
  | negSucc n => simp [Int.repr]

/-- Two integers that begin one text are one, if no digit follows them. -/
theorem toString_append_inj {i j : ℤ} {r s : List Char} (hr : Text.EndsDigits r)
    (hs : Text.EndsDigits s) (h : (toString i).toList ++ r = (toString j).toList ++ s) :
    i = j ∧ r = s := by
  have hdigits : ∀ n, ∀ c ∈ Nat.toDigits 10 n, c.isDigit = true :=
    fun _ => Text.isDigit_of_mem_toDigits
  have hread : ∀ {n m : ℕ}, Nat.toDigits 10 n ++ r = Nat.toDigits 10 m ++ s → n = m ∧ r = s := by
    intro n m h
    have htake := congrArg (List.takeWhile Char.isDigit) h
    have hdrop := congrArg (List.dropWhile Char.isDigit) h
    rw [Text.takeWhile_digits (hdigits n) hr, Text.takeWhile_digits (hdigits m) hs] at htake
    rw [Text.dropWhile_digits (hdigits n) hr, Text.dropWhile_digits (hdigits m) hs] at hdrop
    refine ⟨?_, hdrop⟩
    rw [← Text.digitsToNat_toDigits n, htake, Text.digitsToNat_toDigits]
  have hminus : ∀ {n : ℕ} {t u : List Char}, '-' :: t ≠ Nat.toDigits 10 n ++ u := by
    intro n t u h
    obtain ⟨d, ds, hds⟩ := List.exists_cons_of_ne_nil (Nat.toDigits_ne_nil (n := n) (b := 10))
    rw [hds, List.cons_append, List.cons.injEq] at h
    have hd := hdigits n d (hds ▸ List.mem_cons_self)
    rw [← h.1] at hd
    cases hd
  rw [toList_toString, toList_toString] at h
  split_ifs at h with hi hj hj
  · rw [decide_eq_true_eq] at hi hj
    obtain ⟨hnat, hrs⟩ := hread (List.cons.inj h).2
    exact ⟨by omega, hrs⟩
  · exact absurd h hminus
  · exact absurd h.symm hminus
  · rw [decide_eq_true_eq] at hi hj
    obtain ⟨hnat, hrs⟩ := hread h
    exact ⟨by omega, hrs⟩

lemma refuses_iff (i : ℤ) :
    Dialect.document.refuses (decide (i < 0)) (Nat.toDigits 10 i.natAbs) = !decide (IsShort i) := by
  have hshort : IsShort i ↔ (toString i).toList.length ≤ maxDigits := by
    rw [String.length_toList]
    rfl
  rw [Dialect.refuses, ← decide_not, decide_eq_decide, hshort, toList_toString, List.length_append,
    not_le]
  split_ifs <;> grind

/-- A written integer is read back, if it is short enough. -/
theorem readScalar_int (i : ℤ) {cs : List Char} (hcs : EndsNumber cs) :
    readScalar .document ((toString i).toList ++ cs) =
      if IsShort i then .ok (.int i, cs) else .error .malformed := by
  have hval : (if decide (i < 0) then -(i.natAbs : ℤ) else i.natAbs) = i := by
    split_ifs with hi
    · rw [decide_eq_true_eq] at hi
      omega
    · rw [decide_eq_true_eq] at hi
      omega
  have hdigits : ∀ c ∈ Nat.toDigits 10 i.natAbs, c.isDigit = true := Text.isDigit_of_mem_toDigits
  have hrefuses := refuses_iff i
  rw [toList_toString, List.append_assoc, readScalar_signed]
  · split_ifs with hshort
    · rw [readUnsigned_int hcs (by simpa [hshort] using hrefuses), hval]
    · exact readUnsigned_refused hdigits hcs.endsDigits (by simpa [hshort] using hrefuses)
  · obtain ⟨d, ds, hds⟩ := List.exists_cons_of_ne_nil
      (Nat.toDigits_ne_nil (n := i.natAbs) (b := 10))
    rw [hds] at hdigits ⊢
    rintro _ ⟨⟩
    exact hdigits d List.mem_cons_self
  · simp [Nat.toDigits_ne_nil]

/-- A written double-precision number is read back; what is no number is read as null. -/
theorem readScalar_float (x : Binary64) {cs : List Char} (hcs : EndsNumber cs) :
    readScalar .document (floatChars x ++ cs) =
      .ok (match x with | .finite n m e h => .float (.finite n m e h) | _ => .null, cs) := by
  cases x with
  | infinite => rfl
  | nan => rfl
  | finite negative m e h =>
    have htext : floatChars (.finite negative m e h) = (if negative then ['-'] else []) ++
        (if m = 0 then ['0', '.', '0'] else
          (FloatStyle.json.place (Binary64.shortest m e)).toList) := by
      rw [floatChars, FloatStyle.finiteText]
      split_ifs <;> simp
    have hread : readUnsigned .document negative ((if m = 0 then ['0', '.', '0'] else
        (FloatStyle.json.place (Binary64.shortest m e)).toList) ++ cs) =
        .ok (.float (.finite negative m e h), cs) := by
      split_ifs with hm
      · subst hm
        obtain rfl : e = -1074 := h.2.2.2 (by decide)
        have hzero : readUnsigned .document negative (['0'] ++ '.' :: (['0'] ++ cs)) = _ :=
          readUnsigned_point (by simp) (by simp) (by simp) (by simp) (by simp) (by decide) hcs
            negative
        exact hzero
      · have hm' : 0 < m := Nat.pos_of_ne_zero hm
        exact readUnsigned_place h hm' (Binary64.shortest_readsAs hm' h) hcs negative
    obtain ⟨hdigit, hne⟩ := head_of_readUnsigned hread
    rw [htext, List.append_assoc, readScalar_signed negative hdigit hne, hread]

end QueryTemplate.Json
