import Mathlib.Data.Nat.Digits.Defs
import QueryTemplate.Proofs.Expression.Division
import QueryTemplate.Proofs.Expression.Reading
import QueryTemplate.Proofs.Number.DecimalText
import QueryTemplate.Proofs.Number.Nearest

/-!
# The constants that tokens stand for

A run of digits denotes an integer in positional notation, digits around a point the nearest number
of the binary64 format, and a quoted text the text it spells (`Token.Denotes`).  Nothing of the
reader stands in this relation.  What the reader takes a token for is what the token denotes, as
long as the scanner made the token and an integer is not too long to be read.
-/

namespace QueryTemplate

open Decimal (signChars)
open Engine (Doubled)

/-! ## Positional notation -/

/-- The number that digits of any script denote, the last of them for the ones. -/
def positional (ds : List Char) : ℕ :=
  Nat.ofDigits 10 (ds.reverse.map fun d => (Text.digitValue? d).getD 0)

/-- The characters are digits, one at least. -/
def IsDigits (ds : List Char) : Prop :=
  ds ≠ [] ∧ ∀ d ∈ ds, Text.isDigit d

lemma digitsToNat_eq_positional (ds : List Char) : Text.digitsToNat ds = positional ds := by
  rw [positional, Nat.ofDigits_eq_foldr, List.foldr_map, List.foldr_reverse, Text.digitsToNat]
  refine List.foldl_ext _ _ _ fun n d _ => ?_
  rw [Nat.cast_id, Nat.add_comm]

/-- Digits are neither a sign nor a point. -/
lemma IsDigits.ne {ds : List Char} (h : IsDigits ds) : ∀ d ∈ ds, d ≠ '-' ∧ d ≠ '.' := by
  intro d hd
  have hdigit := h.2 d hd
  constructor
  · rintro rfl
    exact absurd hdigit (by decide)
  · rintro rfl
    exact absurd hdigit (by decide)

namespace Token

/-- The constant that a number or a quoted text stands for. -/
inductive Denotes (o : Token) : Constant → Prop where
  | integer {negative : Bool} {ds : List Char} (kind : o.kind = .number) (hds : IsDigits ds)
      (spelling : o.text.toList = signChars negative ++ ds) :
      Denotes o (.number (.int (if negative then -(positional ds : ℤ) else positional ds)))
  | decimal {negative : Bool} {ws fs : List Char} {x : Binary64} (kind : o.kind = .number)
      (hws : IsDigits ws) (hfs : IsDigits fs)
      (spelling : o.text.toList = signChars negative ++ (ws ++ '.' :: fs))
      (nearest : x.IsNearest negative (positional (ws ++ fs) / 10 ^ fs.length)) :
      Denotes o (.number (.float x))
  | singleQuoted {body s : List Char} (kind : o.kind = .string) (h : Doubled body s)
      (spelling : o.text.toList = '\'' :: (body ++ ['\''])) : Denotes o (.text (String.ofList s))
  | doubleQuoted {body s : List Char} (kind : o.kind = .string) (h : Escaped body s)
      (spelling : o.text.toList = '"' :: (body ++ ['"'])) : Denotes o (.text (String.ofList s))

/-- The token is an integer of too many digits to be read. -/
def IsTooLong (o : Token) : Prop :=
  o.kind = .number ∧ ∃ negative ds, IsDigits ds ∧ o.text.toList = signChars negative ++ ds ∧
    maxDigits < ds.length

variable {o : Token} {v : Constant} {negative : Bool} {ds ws fs body s : List Char} {limit : ℕ}

/-! ## Numbers -/

lemma number_integer (negative : Bool) (h : IsDigits ds) :
    number (String.ofList (signChars negative ++ ds)) =
      .int (if negative then -(positional ds : ℤ) else positional ds) := by
  obtain ⟨d, ds, rfl⟩ := List.exists_cons_of_ne_nil h.1
  have hd := (h.ne d List.mem_cons_self).1
  have hwhole : (d :: ds).takeWhile (· != '.') = d :: ds :=
    List.takeWhile_eq_self_iff.mpr fun c hc => bne_iff_ne.mpr (h.ne c hc).2
  cases negative <;> simp [number, signChars, hd, hwhole, digitsToNat_eq_positional]

lemma number_decimal (negative : Bool) (hws : IsDigits ws) (fs : List Char) :
    number (String.ofList (signChars negative ++ (ws ++ '.' :: fs))) =
      .float (.ofDecimal negative (positional (ws ++ fs)) (-fs.length)) := by
  obtain ⟨w, ws, rfl⟩ := List.exists_cons_of_ne_nil hws.1
  have hw := (hws.ne w List.mem_cons_self).1
  have hwhole : (w :: ws ++ '.' :: fs).takeWhile (· != '.') = w :: ws := by
    rw [List.takeWhile_append_of_pos fun c hc => bne_iff_ne.mpr (hws.ne c hc).2,
      List.takeWhile_cons_of_neg (by simp), List.append_nil]
  cases negative <;> simp_all [number, signChars, digitsToNat_eq_positional]

lemma Fraction.eq_nil_or (h : Fraction s) : s = [] ∨ ∃ fs, IsDigits fs ∧ s = '.' :: fs := by
  cases h with
  | none => exact .inl rfl
  | @digits f fs hfs => exact .inr ⟨f :: fs, ⟨List.cons_ne_nil f fs, hfs⟩, rfl⟩

/-- A number is digits behind a sign or none, or two runs of digits with a point between them. -/
lemma Spelled.exists_digits (h : Spelled (some .number) s) : ∃ negative ws, IsDigits ws ∧
    (s = signChars negative ++ ws ∨
      ∃ fs, IsDigits fs ∧ s = signChars negative ++ (ws ++ '.' :: fs)) := by
  cases h with
  | @number d ds fraction hds hfraction =>
    refine ⟨false, d :: ds, ⟨List.cons_ne_nil d ds, hds⟩, ?_⟩
    rcases hfraction.eq_nil_or with rfl | ⟨fs, hfs, rfl⟩
    · exact .inl (by rw [List.append_nil]; rfl)
    · exact .inr ⟨fs, hfs, rfl⟩
  | @negative d ds fraction hds hfraction =>
    refine ⟨true, d :: ds, ⟨List.cons_ne_nil d ds, hds⟩, ?_⟩
    rcases hfraction.eq_nil_or with rfl | ⟨fs, hfs, rfl⟩
    · exact .inl (by rw [List.append_nil]; rfl)
    · exact .inr ⟨fs, hfs, rfl⟩

/-- The digits of a number are all its characters but the sign and the point. -/
lemma filter_isDigit (negative : Bool) (h : IsDigits ds) (rest : List Char) :
    ((signChars negative ++ (ds ++ rest)).filter Text.isDigit) =
      ds ++ rest.filter Text.isDigit := by
  have hsign : (signChars negative).filter Text.isDigit = [] := by
    cases negative <;> decide
  rw [List.filter_append, hsign, List.nil_append, List.filter_append,
    List.filter_eq_self.mpr h.2]

lemma manyDigits?_of_isTooLong (h : o.IsTooLong) : o.manyDigits? maxDigits ≠ none := by
  obtain ⟨kind, negative, ds, hds, spelling, hlong⟩ := h
  have hpoint : '.' ∉ o.text.toList := by
    rw [spelling, List.mem_append, not_or]
    exact ⟨by cases negative <;> decide, fun hmem => (hds.ne _ hmem).2 rfl⟩
  have hcount := filter_isDigit negative hds []
  rw [List.append_nil, List.filter_nil, List.append_nil, ← spelling] at hcount
  rw [manyDigits?, hcount, if_pos ⟨kind, hpoint, hlong⟩]
  exact Option.some_ne_none _

lemma isTooLong_of_manyDigits? (hspelled : Spelled (some o.kind) o.text.toList)
    (h : o.manyDigits? maxDigits ≠ none) : o.IsTooLong := by
  rw [manyDigits?] at h
  split_ifs at h with hmany
  · obtain ⟨kind, hpoint, hlong⟩ := hmany
    rw [kind] at hspelled
    obtain ⟨negative, ws, hws, hspelling | ⟨fs, -, hspelling⟩⟩ := hspelled.exists_digits
    · have hcount := filter_isDigit negative hws []
      rw [List.append_nil, List.filter_nil, List.append_nil, ← hspelling] at hcount
      exact ⟨kind, negative, ws, hws, hspelling, hcount ▸ hlong⟩
    · refine absurd ?_ hpoint
      rw [hspelling]
      simp
  · exact absurd rfl h

/-- Some limit is wide enough for all integers of a list of tokens. -/
lemma exists_limit (ts : List Token) : ∃ limit, ∀ o ∈ ts, o.manyDigits? limit = none := by
  refine ⟨(ts.map fun o => (o.text.toList.filter Text.isDigit).length).sum, fun o ho => ?_⟩
  have hle := List.le_sum_of_mem
    (List.mem_map_of_mem (f := fun o : Token => (o.text.toList.filter Text.isDigit).length) ho)
  rw [manyDigits?]
  exact if_neg fun hmany => Nat.not_lt.mpr hle hmany.2.2

/-! ## Texts -/

lemma unpairMarks_of_doubled (h : Doubled body s) : unpairMarks body = s := by
  induction h with
  | nil => rfl
  | plain hc _ ih => simp [unpairMarks, hc, ih]
  | mark _ ih => simp [unpairMarks, ih]

lemma unescape_of_escaped (h : Escaped body s) : unescape body = s := by
  induction h with
  | nil => rfl
  | plain _ hslash _ ih => simp [unescape, hslash, ih]
  | escape _ _ ih => simp [unescape, ih]

lemma unquote_singleQuoted (h : Doubled body s) :
    unquote (String.ofList ('\'' :: (body ++ ['\'']))) = String.ofList s := by
  simp [unquote, unpairMarks_of_doubled h]

lemma unquote_doubleQuoted (h : Escaped body s) :
    unquote (String.ofList ('"' :: (body ++ ['"']))) = String.ofList s := by
  simp [unquote, unescape_of_escaped h]

/-! ## What a token is read as -/

/-- A constant that a token denotes is what the token is read as, if it is not too long. -/
theorem Denotes.readAs (h : o.Denotes v) (hshort : o.manyDigits? limit = none) :
    o.ReadAs limit v := by
  cases h with
  | @integer negative ds kind hds spelling =>
    have hread := ReadAs.number kind hshort
    rwa [← String.ofList_toList (s := o.text), spelling, number_integer negative hds] at hread
  | @decimal negative ws fs x kind hws hfs spelling nearest =>
    have hread := ReadAs.number kind hshort
    have hnearest := Binary64.isNearest_ofDecimal negative (positional (ws ++ fs)) (-fs.length)
    rw [zpow_neg, zpow_natCast, ← div_eq_mul_inv] at hnearest
    rwa [← String.ofList_toList (s := o.text), spelling, number_decimal negative hws,
      hnearest.unique nearest] at hread
  | singleQuoted kind h spelling =>
    have hread : o.ReadAs limit _ := .text kind
    rwa [← String.ofList_toList (s := o.text), spelling, unquote_singleQuoted h] at hread
  | doubleQuoted kind h spelling =>
    have hread : o.ReadAs limit _ := .text kind
    rwa [← String.ofList_toList (s := o.text), spelling, unquote_doubleQuoted h] at hread

/-- What a token of the scanner is read as is the constant that it denotes. -/
theorem ReadAs.denotes (h : o.ReadAs limit v) (hspelled : Spelled (some o.kind) o.text.toList) :
    o.Denotes v := by
  cases h with
  | number kind hshort =>
    rw [kind] at hspelled
    obtain ⟨negative, ws, hws, hspelling | ⟨fs, hfs, hspelling⟩⟩ := hspelled.exists_digits
    · rw [← String.ofList_toList (s := o.text), hspelling, number_integer negative hws]
      exact .integer kind hws hspelling
    · rw [← String.ofList_toList (s := o.text), hspelling, number_decimal negative hws]
      refine .decimal kind hws hfs hspelling ?_
      have hnearest := Binary64.isNearest_ofDecimal negative (positional (ws ++ fs)) (-fs.length)
      rwa [zpow_neg, zpow_natCast, ← div_eq_mul_inv] at hnearest
  | text kind =>
    rw [kind] at hspelled
    generalize hspelling : o.text.toList = cs at hspelled
    rw [← String.ofList_toList (s := o.text), hspelling]
    cases hspelled with
    | singleQuoted hbody =>
      rw [unquote_singleQuoted hbody]
      exact .singleQuoted kind hbody hspelling
    | doubleQuoted hbody =>
      rw [unquote_doubleQuoted hbody]
      exact .doubleQuoted kind hbody hspelling

end Token

end QueryTemplate
