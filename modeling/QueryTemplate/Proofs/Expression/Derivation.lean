import QueryTemplate.Proofs.Expression.Constants

/-!
# Expressions and their derivations

The reader gives a text the tree that the grammar derives from its tokens, each number and quoted
text with the constant it denotes, and refuses every text without one.  Only an integer of too many
digits is refused where the grammar has a tree, and with an error that is not the library's own.

That a list of tokens has one tree, and how tightly the connectives bind, is a fact about the
grammar.  It is read off the reader all the same: with a limit that is wide enough for the integers
of a list, reading is a function that finds every tree of it.
-/

namespace QueryTemplate.Grammar

open Token (Denotes ReadAs)

variable {ts x o y p z : List Token} {l r t u : Tree} {op op' : Operator} {limit : ℕ}

/-! ## Trees of a list of tokens -/

/-- With a limit for all integers of a list, what denotes a constant is read as it. -/
lemma readAs_of_denotes (hshort : ∀ q ∈ ts, q.manyDigits? limit = none) :
    ∀ q ∈ ts, ∀ v, q.Denotes v → q.ReadAs limit v :=
  fun q hq _ h => h.readAs (hshort q hq)

theorem IsOr.unique (ht : IsOr Denotes ts t) (hu : IsOr Denotes ts u) : t = u := by
  obtain ⟨limit, hshort⟩ := Token.exists_limit ts
  have ht := ofTokens_eq_ok_iff.mpr (ht.mono (readAs_of_denotes hshort))
  have hu := ofTokens_eq_ok_iff.mpr (hu.mono (readAs_of_denotes hshort))
  exact Except.ok.inj (ht.symm.trans hu)

theorem not_isOr_of_two_comparators (hx : IsOperand Denotes x l) (ho : IsComparator o op)
    (hy : IsOperand Denotes y r) (hp : IsComparator p op') :
    ¬ IsOr Denotes (x ++ (o ++ y) ++ (p ++ z)) t := by
  intro h
  obtain ⟨limit, hshort⟩ := Token.exists_limit (x ++ (o ++ y) ++ (p ++ z))
  have hread := readAs_of_denotes hshort
  refine not_isOr_of_comparators (hx.mono fun q hq => hread q ?_) ho
    (hy.mono fun q hq => hread q ?_) hp (h.mono hread)
  · simp [hq]
  · simp [hq]

/-! ## Reading -/

/-- In a run of the grammar that is read no integer is too long. -/
lemma not_isTooLong_of_isOr (h : IsOr (ReadAs maxDigits) ts t) : ∀ q ∈ ts, ¬ q.IsTooLong := by
  intro q hq hlong
  obtain ⟨v, hv⟩ := h.numbers q hq hlong.1
  cases hv with
  | number _ hshort => exact Token.manyDigits?_of_isTooLong hlong hshort
  | text kind => exact absurd (kind.symm.trans hlong.1) (by decide)

lemma manyDigits?_of_scan {s : String} (h : Token.scan s = .ok ts)
    (hshort : ∀ q ∈ ts, ¬ q.IsTooLong) : ∀ q ∈ ts, q.manyDigits? maxDigits = none := by
  intro q hq
  by_contra hlong
  exact hshort q hq (Token.isTooLong_of_manyDigits? ((Token.divides_of_scan h).spelled q hq) hlong)

theorem parse_eq_ok_iff_derived {s : String} : Tree.parse s = .ok t ↔
    ∃ ts, Token.scan s = .ok ts ∧ IsOr Denotes ts t ∧ ∀ q ∈ ts, ¬ q.IsTooLong := by
  rw [parse_eq_ok_iff]
  constructor
  · rintro ⟨ts, hscan, h⟩
    have hspelled := (Token.divides_of_scan hscan).spelled
    exact ⟨ts, hscan, h.mono fun q hq _ hv => hv.denotes (hspelled q hq),
      not_isTooLong_of_isOr h⟩
  · rintro ⟨ts, hscan, h, hshort⟩
    exact ⟨ts, hscan, h.mono (readAs_of_denotes (manyDigits?_of_scan hscan hshort))⟩

/-- An error that is not the library's own comes from an integer that is too long. -/
lemma isOwn_of_parse {s : String} {e : ExpressionError} (h : Tree.parse s = .error e)
    (hshort : ∀ ts, Token.scan s = .ok ts → ∀ q ∈ ts, ¬ q.IsTooLong) : e.isOwn := by
  rw [Tree.parse] at h
  split at h
  · obtain rfl := Except.error.inj h
    rfl
  · next ts hscan => exact isOwn_of_ofTokens h (manyDigits?_of_scan hscan (hshort ts hscan))

/-- Reading gives a text the tree of its tokens, of which there is at most one, and refuses every
text without one; where no integer is too long to be read, with an error of the library.
Comparisons do not chain, and a negation reaches as far as a comparison and no further. -/
theorem parse_decides_grammar :
    (∀ (s : String) (t : Tree), Tree.parse s = .ok t ↔
      ∃ ts, Token.scan s = .ok ts ∧ IsOr Denotes ts t ∧ ∀ q ∈ ts, ¬ q.IsTooLong) ∧
    (∀ (s : String), (∀ ts, Token.scan s = .ok ts → ∀ q ∈ ts, ¬ q.IsTooLong) →
      ((¬ ∃ ts t, Token.scan s = .ok ts ∧ IsOr Denotes ts t) ↔
        ∃ e : ExpressionError, Tree.parse s = .error e ∧ e.isOwn)) ∧
    (∀ (ts : List Token) (t u : Tree), IsOr Denotes ts t → IsOr Denotes ts u → t = u) ∧
    (∀ (x o y p z : List Token) (l r t : Tree) (op op' : Operator), IsOperand Denotes x l →
      IsComparator o op → IsOperand Denotes y r → IsComparator p op' →
        ¬ IsOr Denotes (x ++ (o ++ y) ++ (p ++ z)) t) ∧
    (∀ (n : Token) (x o y : List Token) (l r t : Tree) (op : Operator), n.saysNot →
      IsOperand Denotes x l → IsComparator o op → IsOperand Denotes y r →
        (IsOr Denotes (n :: (x ++ (o ++ y))) t ↔ t = .not (.compare op l r))) ∧
    (∀ (n a : Token) (x y : List Token) (l r t : Tree), n.saysNot → IsUnary Denotes x l →
      a.saysAnd → IsUnary Denotes y r →
        (IsOr Denotes (n :: x ++ a :: y) t ↔ t = .and [.not l, r])) := by
  refine ⟨fun s t => parse_eq_ok_iff_derived, fun s hshort => ⟨fun hnone => ?_, ?_⟩,
    fun ts t u => IsOr.unique, fun x o y p z l r t op op' => not_isOr_of_two_comparators, ?_, ?_⟩
  · cases h : Tree.parse s with
    | ok t =>
      obtain ⟨ts, hscan, hderived, -⟩ := parse_eq_ok_iff_derived.mp h
      exact absurd ⟨ts, t, hscan, hderived⟩ hnone
    | error e => exact ⟨e, rfl, isOwn_of_parse h hshort⟩
  · rintro ⟨e, herror, -⟩ ⟨ts, t, hscan, hderived⟩
    have hread := parse_eq_ok_iff_derived.mpr ⟨ts, hscan, hderived, hshort ts hscan⟩
    cases herror.symm.trans hread
  · intro n x o y l r t op hn hx ho hy
    have h : IsUnary Denotes (n :: (x ++ (o ++ y))) (.not (.compare op l r)) :=
      .not hn (.comparison (.compare hx ho hy))
    exact ⟨fun ht => ht.unique h.isAnd.isOr, fun ht => ht ▸ h.isAnd.isOr⟩
  · intro n a x y l r t hn hx ha hy
    have h : IsAnd Denotes (n :: x ++ a :: (y ++ [])) (connect .and [.not l, r]) :=
      .mk (.not hn hx) (.cons ha hy .nil)
    have h : IsOr Denotes (n :: x ++ a :: y) (.and [.not l, r]) := by
      simpa [connect] using h.isOr
    exact ⟨fun ht => ht.unique h, fun ht => ht ▸ h⟩

lemma parse_of_manyDigits? {s : String} {q : Token} {digits : ℕ} (hscan : Token.scan s = .ok [q])
    (hkind : q.kind = .number) (hmany : q.manyDigits? maxDigits = some digits) :
    Tree.parse s = .error (.tooLong digits) := by
  have hnot : ¬ q.saysNot := fun h => absurd hkind (kind_ne_of_saying h)
  simp [Tree.parse, hscan, Tree.ofTokens, Tree.fuelFor, Tree.parseOr, Tree.parseAnd,
    Tree.parseUnary, Tree.parseComparison, Tree.parseOperand, hnot, hmany]

/-- An integer of 4301 digits is an operand, and it is not read: the error is that of the conversion
to an integer. -/
theorem long_integer_not_read : ∃ ts t e,
    Token.scan (String.ofList (List.replicate 4301 '1')) = .ok ts ∧ IsOr Denotes ts t ∧
      Tree.parse (String.ofList (List.replicate 4301 '1')) = .error e ∧ ¬ e.isOwn := by
  have hdigits : IsDigits (List.replicate 4301 '1') :=
    ⟨List.replicate_succ_ne_nil, fun d hd => by rw [List.eq_of_mem_replicate hd]; decide⟩
  have hspelled : Token.Spelled (some .number) (List.replicate 4301 '1') := by
    have h : Token.Spelled (some .number) ('1' :: (List.replicate 4300 '1' ++ [])) :=
      .number hdigits.2 .none
    rwa [List.append_nil] at h
  have hscan : Token.scan (String.ofList (List.replicate 4301 '1')) =
      .ok [⟨.number, String.ofList (List.replicate 4301 '1'), 0⟩] := by
    rw [Token.scan, String.toList_ofList, hspelled.scanFrom_eq]
  set q : Token := ⟨.number, String.ofList (List.replicate 4301 '1'), 0⟩
  have hdenotes : q.Denotes (.number (.int (if false then _ else _))) :=
    .integer rfl hdigits String.toList_ofList
  have hderived : IsOperand Denotes [q] _ := .const hdenotes
  have hlong : q.IsTooLong :=
    ⟨rfl, false, _, hdigits, String.toList_ofList, by rw [List.length_replicate]; decide⟩
  obtain ⟨digits, hmany⟩ := Option.ne_none_iff_exists'.mp (Token.manyDigits?_of_isTooLong hlong)
  exact ⟨_, _, _, hscan, hderived.isUnary.isAnd.isOr, parse_of_manyDigits? hscan rfl hmany,
    Bool.false_ne_true⟩

end QueryTemplate.Grammar
