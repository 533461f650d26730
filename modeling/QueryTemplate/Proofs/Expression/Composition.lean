import Mathlib.Tactic.Common
import QueryTemplate.Condition.Eval
import QueryTemplate.Proofs.Expression.Lexemes
import QueryTemplate.Proofs.Expression.Reading
import QueryTemplate.Proofs.Outcome

/-!
# Composing expressions as texts

The text of an expression between parentheses is an operand of whatever stands around it.  Two
things carry this.  A parenthesis ends every lexeme but a quoted text, and a quoted text that is
closed is not opened again by what comes later, unless an apostrophe follows it directly; then the
text would have had no tokens to begin with.  And the grammar asks for the kinds and the texts of
tokens only, not for their places.

The three compositions are expressions of their own, and what is asked of them as conditions is
answered by the answers about their operands alone: an operand that is null or of another kind
counts as not true.
-/

namespace QueryTemplate

/-! ## A parenthesis behind a lexeme -/

namespace Token

variable {c : Char} {cs rest w : List Char} {kind? k : Option TokenKind} {n position : ℕ}
  {ts : List Token}

/-- Where no apostrophe follows, a closed text in apostrophes is closed for good. -/
lemma singleQuoted?_append_close (h : singleQuoted? cs = some n)
    (hnext : (cs.drop n).head? ≠ some '\'') (ext : List Char) :
    singleQuoted? (cs ++ ')' :: ext) = some n := by
  fun_induction singleQuoted? cs generalizing n with
  | case1 => simp at h
  | case2 rest k hk ih =>
    obtain rfl : k + 2 = n := by simpa using h
    simp [singleQuoted?, ih hk hnext]
  | case3 rest hk =>
    obtain rfl : 1 = n := by simpa using h
    exact absurd rfl hnext
  | case4 rest hne =>
    obtain rfl : 1 = n := by simpa using h
    cases rest with
    | nil => rfl
    | cons d rest =>
      have hd : d ≠ '\'' := fun hd => hne rest (by rw [hd])
      simp [singleQuoted?, hd]
  | case5 c rest hpair hmark ih =>
    obtain ⟨k, hk, rfl⟩ := Option.map_eq_some_iff.mp h
    have hc : c ≠ '\'' := hmark
    simp [singleQuoted?, hc, ih hk hnext]

/-- An apostrophe behind a closed text opens nothing. -/
lemma singleQuoted?_eq_none_of_drop (h : singleQuoted? cs = some n)
    (hdrop : cs.drop n = '\'' :: rest) : singleQuoted? rest = none := by
  fun_induction singleQuoted? cs generalizing n with
  | case1 => simp at h
  | case2 more k hk ih =>
    obtain rfl : k + 2 = n := by simpa using h
    exact ih hk hdrop
  | case3 more hk =>
    obtain rfl : 1 = n := by simpa using h
    obtain rfl : more = rest := by simpa using hdrop
    exact hk
  | case4 more hne =>
    obtain rfl : 1 = n := by simpa using h
    exact absurd hdrop (hne rest)
  | case5 c more hpair hmark ih =>
    obtain ⟨k, hk, rfl⟩ := Option.map_eq_some_iff.mp h
    exact ih hk hdrop

/-- A text in quotation marks is closed for good. -/
lemma doubleQuoted?_append_of_some (h : doubleQuoted? cs = some n) (ext : List Char) :
    doubleQuoted? (cs ++ ext) = some n := by
  obtain ⟨body, s, hbody, htake⟩ := exists_escaped_of_doubleQuoted h
  obtain ⟨rest, rfl⟩ : ∃ rest, cs = body ++ '"' :: rest := by
    refine ⟨cs.drop n, ?_⟩
    rw [← List.singleton_append, ← List.append_assoc, ← htake, List.take_append_drop]
  rw [doubleQuoted?_append hbody] at h
  rw [List.append_assoc, List.cons_append, doubleQuoted?_append hbody, h]

/-- The digits of a number and its fraction hold no closing parenthesis. -/
lemma Fraction.close_not_mem {ds fraction : List Char} (h : Fraction fraction)
    (hds : ∀ x ∈ ds, Text.isDigit x) : ')' ∉ ds ++ fraction := by
  intro hmem
  rcases List.mem_append.mp hmem with hmem | hmem
  · exact absurd (hds _ hmem) (by decide)
  · cases h with
    | none => simp at hmem
    | digits hfs =>
      rcases List.mem_cons.mp hmem with hmem | hmem
      · exact absurd hmem (by decide)
      · exact absurd (hfs _ hmem) (by decide)

/-- Only quoted texts hold a closing parenthesis behind their first character. -/
lemma Spelled.close_not_mem (h : Spelled k (c :: w)) (hsingle : c ≠ '\'') (hdouble : c ≠ '"') :
    ')' ∉ w := by
  intro hmem
  cases h with
  | blanks h => exact absurd (h _ (List.mem_cons_of_mem _ hmem)) (by decide)
  | param h => exact absurd (h _ hmem) (by decide)
  | number h hfraction => exact hfraction.close_not_mem (List.forall_mem_cons.mp h).2 hmem
  | negative h hfraction => exact hfraction.close_not_mem h hmem
  | singleQuoted => exact hsingle rfl
  | doubleQuoted => exact hdouble rfl
  | @pair c d h =>
    obtain rfl := List.mem_singleton.mp hmem
    unfold isPair at h
    split at h <;> simp_all
  | sign => simp at hmem
  | word _ h => exact absurd (h _ hmem) (by decide)

/-- A lexeme is taken all the same where a closing parenthesis stands behind the text. -/
lemma lexeme?_append_close (h : lexeme? c rest = some (kind?, n))
    (hnext : c = '\'' → (rest.drop n).head? ≠ some '\'') (ext : List Char) :
    lexeme? c (rest ++ ')' :: ext) = some (kind?, n) := by
  by_cases hsingle : c = '\''
  · subst hsingle
    obtain ⟨hkind, hclosed⟩ := lexeme?_apostrophe_eq_some.mp h
    have hclosed' := singleQuoted?_append_close hclosed (hnext rfl) ext
    exact lexeme?_apostrophe_eq_some.mpr ⟨hkind, hclosed'⟩
  by_cases hdouble : c = '"'
  · subst hdouble
    obtain ⟨hkind, hclosed⟩ := lexeme?_quotationMark_eq_some.mp h
    have hclosed' := doubleQuoted?_append_of_some hclosed (')' :: ext)
    exact lexeme?_quotationMark_eq_some.mpr ⟨hkind, hclosed'⟩
  obtain ⟨hle, hspelled, hlongest⟩ := lexeme?_eq_some_iff.mp h
  refine lexeme?_eq_some_iff.mpr ⟨?_, ?_, fun k w hw hpre => ?_⟩
  · rw [List.length_append]
    exact Nat.le_add_right_of_le hle
  · rwa [List.take_append_of_le_length hle]
  · have hsplit := List.prefix_or_prefix_of_prefix hpre (List.prefix_append rest _)
    rcases hsplit with hbegin | ⟨more, rfl⟩
    · exact hlongest k w hw hbegin
    · -- what reaches beyond the text reaches beyond the parenthesis
      cases more with
      | nil => exact hlongest k _ hw (by simp)
      | cons d more =>
        obtain ⟨rfl, -⟩ := List.cons_prefix_cons.mp ((List.prefix_append_right_inj rest).mp hpre)
        exact absurd (List.mem_append_right rest List.mem_cons_self)
          (hw.close_not_mem hsingle hdouble)

/-! ## A text between parentheses -/

/-- The token, so many characters further on. -/
def moved (k : ℕ) (t : Token) : Token :=
  { t with position := t.position + k }

/-- In a text that has tokens no apostrophe follows a text in apostrophes. -/
lemma head?_of_scanFrom (hlex : lexeme? '\'' rest = some (kind?, n))
    (h : scanFrom position (rest.drop n) = .ok ts) : (rest.drop n).head? ≠ some '\'' := by
  intro hhead
  obtain ⟨more, hmore⟩ := List.head?_eq_some_iff.mp hhead
  obtain ⟨-, hclosed⟩ := lexeme?_apostrophe_eq_some.mp hlex
  have hnone : lexeme? '\'' more = none := by
    rw [lexeme?_apostrophe, singleQuoted?_eq_none_of_drop hclosed hmore, Option.map_none]
  rw [hmore, scanFrom_eq_error hnone] at h
  cases h

/-- The first lexeme of a text that has tokens gives the same token elsewhere, and in front of a
closing parenthesis, if those behind it do. -/
lemma scanFrom_cons_append_close (hlex : lexeme? c rest = some (kind?, n))
    (h : scanFrom (position + 1 + n) (rest.drop n) = .ok ts) {k : ℕ} {ext : List Char}
    (hmore : scanFrom (position + 1 + n + k) (rest.drop n ++ ')' :: ext) =
      (scanFrom (position + 1 + n + k + (rest.drop n).length) (')' :: ext)).map
        (ts.map (moved k) ++ ·)) :
    scanFrom (position + k) (c :: rest ++ ')' :: ext) =
      (scanFrom (position + k + (c :: rest).length) (')' :: ext)).map
        (((kind?.map fun kind => Token.mk kind (String.ofList (c :: rest.take n)) position).toList ++
          ts).map (moved k) ++ ·) := by
  have hle := (lexeme_of_eq_some hlex).le_length
  have hnext : c = '\'' → (rest.drop n).head? ≠ some '\'' := by
    rintro rfl
    exact head?_of_scanFrom hlex h
  have hplace : position + k + 1 + n = position + 1 + n + k := by omega
  have hend : position + 1 + n + k + (rest.drop n).length = position + k + (c :: rest).length := by
    rw [List.length_drop, List.length_cons]
    omega
  rw [List.cons_append, scanFrom_cons (lexeme?_append_close hlex hnext ext),
    List.drop_append_of_le_length hle, List.take_append_of_le_length hle, hplace, hmore, hend,
    Outcome.map_map]
  cases kind? <;> rfl

/-- A text has the same tokens elsewhere, and in front of a closing parenthesis. -/
lemma scanFrom_append_close (h : scanFrom position cs = .ok ts) (k : ℕ) (ext : List Char) :
    scanFrom (position + k) (cs ++ ')' :: ext) =
      (scanFrom (position + k + cs.length) (')' :: ext)).map (ts.map (moved k) ++ ·) := by
  fun_induction scanFrom position cs generalizing ts with
  | case1 position =>
    obtain rfl := Except.ok.inj h
    simp
  | case2 | case3 => simp at h
  | case4 position c rest n ts' hmore hlex ih =>
    obtain rfl := Except.ok.inj h
    exact scanFrom_cons_append_close hlex hmore (ih hmore)
  | case5 position c rest n ts' hmore kind hlex ih =>
    obtain rfl := Except.ok.inj h
    exact scanFrom_cons_append_close hlex hmore (ih hmore)

/-- A parenthesis is a token of its own. -/
lemma scanFrom_parenthesis (hc : c = '(' ∨ c = ')') (position : ℕ) (ext : List Char) :
    scanFrom position (c :: ext) =
      (scanFrom (position + 1) ext).map (⟨.op, String.singleton c, position⟩ :: ·) := by
  have hpair : ¬ ext.head?.any (isPair c) := by
    intro h
    obtain ⟨d, -, hd⟩ := (Option.any_eq_true _ _).mp h
    rcases hc with rfl | rfl <;> simp [isPair] at hd
  have hlex : lexeme? c ext = some (some .op, 0) := by
    have hsigns : c ∈ signs := by rcases hc with rfl | rfl <;> decide
    have hsingle : isSingle c := by rcases hc with rfl | rfl <;> decide
    rw [lexeme?_of_mem_signs hsigns, if_neg hpair, if_pos hsingle]
  rw [scanFrom_cons hlex]
  rfl

/-- A word in small letters is the keyword of its letters. -/
lemma isKeyword_of_toLower {text : String} (h : text.toLower = text) (position : ℕ) :
    isKeyword ⟨.word, text, position⟩ text := by
  simp [isKeyword, h]

/-- A letter is not blank. -/
lemma isBlank_of_letter (hc : c.isAlpha ∨ c = '_') : ¬ Text.isBlank c := by
  intro hblank
  have hword := lexeme?_of_letter hc []
  rw [lexeme?_of_isBlank hblank] at hword
  cases hword

/-- A word in front of a blank and a parenthesis is a token of its own. -/
lemma scanFrom_word (hc : c.isAlpha ∨ c = '_') (hcs : cs.all Text.isWordChar) (position : ℕ)
    (ext : List Char) : scanFrom position (c :: (cs ++ ' ' :: '(' :: ext)) =
      (scanFrom (position + 1 + cs.length + 1) ('(' :: ext)).map
        (⟨.word, String.ofList (c :: cs), position⟩ :: ·) := by
  have hlex := lexeme?_of_letter hc (cs ++ ' ' :: '(' :: ext)
  have htail : wordTail (cs ++ ' ' :: '(' :: ext) = cs.length := by
    rw [wordTail, List.takeWhile_append_of_pos (List.all_eq_true.mp hcs),
      List.takeWhile_cons_of_neg (by decide), List.append_nil]
  rw [htail] at hlex
  rw [scanFrom_cons hlex, List.take_left, List.drop_left, scanFrom_blank (by decide)]
  rfl

end Token

/-! ## Tokens elsewhere -/

lemma Token.ReadAs.moved {limit : ℕ} {o : Token} {v : Constant} (h : o.ReadAs limit v) (k : ℕ) :
    (o.moved k).ReadAs limit v := by
  cases h with
  | number kind short => exact .number kind short
  | text kind => exact .text kind

namespace Grammar

open Token (ReadAs moved)

variable {limit : ℕ}

lemma IsComparator.moved {o : List Token} {op : Operator} (h : IsComparator o op) (k : ℕ) :
    IsComparator (o.map (moved k)) op := by
  cases h with
  | sign kind mem => exact .sign kind mem
  | isIn hi => exact .isIn hi
  | notIn hn hi => exact .notIn hn hi

mutual

/-- The same tokens elsewhere have the same tree. -/
theorem IsOr.moved : ∀ {a : List Token} {t : Tree}, IsOr (ReadAs limit) a t →
    ∀ k, IsOr (ReadAs limit) (a.map (moved k)) t
  | _, _, .mk first more, k => by
      rw [List.map_append]
      exact .mk (first.moved k) (more.moved k)

theorem IsOrTail.moved : ∀ {a : List Token} {ts : List Tree}, IsOrTail (ReadAs limit) a ts →
    ∀ k, IsOrTail (ReadAs limit) (a.map (moved k)) ts
  | _, _, .nil, _ => .nil
  | _, _, .cons ho next more, k => by
      rw [List.map_cons, List.map_append]
      exact .cons ho (next.moved k) (more.moved k)

theorem IsAnd.moved : ∀ {a : List Token} {t : Tree}, IsAnd (ReadAs limit) a t →
    ∀ k, IsAnd (ReadAs limit) (a.map (moved k)) t
  | _, _, .mk first more, k => by
      rw [List.map_append]
      exact .mk (first.moved k) (more.moved k)

theorem IsAndTail.moved : ∀ {a : List Token} {ts : List Tree}, IsAndTail (ReadAs limit) a ts →
    ∀ k, IsAndTail (ReadAs limit) (a.map (moved k)) ts
  | _, _, .nil, _ => .nil
  | _, _, .cons ho next more, k => by
      rw [List.map_cons, List.map_append]
      exact .cons ho (next.moved k) (more.moved k)

theorem IsUnary.moved : ∀ {a : List Token} {t : Tree}, IsUnary (ReadAs limit) a t →
    ∀ k, IsUnary (ReadAs limit) (a.map (moved k)) t
  | _, _, .not hn operand, k => .not hn (operand.moved k)
  | _, _, .comparison h, k => .comparison (h.moved k)

theorem IsComparison.moved : ∀ {a : List Token} {t : Tree}, IsComparison (ReadAs limit) a t →
    ∀ k, IsComparison (ReadAs limit) (a.map (moved k)) t
  | _, _, .operand h, k => .operand (h.moved k)
  | _, _, .compare left ho right, k => by
      rw [List.map_append, List.map_append]
      exact .compare (left.moved k) (ho.moved k) (right.moved k)

theorem IsOperand.moved : ∀ {a : List Token} {t : Tree}, IsOperand (ReadAs limit) a t →
    ∀ k, IsOperand (ReadAs limit) (a.map (moved k)) t
  | _, _, .param kind, _ => .param kind
  | _, _, .const hv, k => .const (hv.moved k)
  | _, _, .true ho, _ => .true ho
  | _, _, .false ho, _ => .false ho
  | _, _, .null ho, _ => .null ho
  | _, _, .group ho inner hc, k => by
      rw [List.map_cons, List.map_append]
      exact .group ho (inner.moved k) hc
  | _, _, .list mem ho items hc, k => by
      rw [List.map_cons, List.map_append]
      exact .list mem ho (items.moved k) hc

theorem IsList.moved : ∀ {a : List Token} {ts : List Tree}, IsList (ReadAs limit) a ts →
    ∀ k, IsList (ReadAs limit) (a.map (moved k)) ts
  | _, _, .nil, _ => .nil
  | _, _, .cons first more, k => by
      rw [List.map_append]
      exact .cons (first.moved k) (more.moved k)

theorem IsListTail.moved : ∀ {a : List Token} {ts : List Tree}, IsListTail (ReadAs limit) a ts →
    ∀ k, IsListTail (ReadAs limit) (a.map (moved k)) ts
  | _, _, .nil, _ => .nil
  | _, _, .cons ho next more, k => by
      rw [List.map_cons, List.map_append]
      exact .cons ho (next.moved k) (more.moved k)

end

end Grammar

/-! ## Compositions -/

namespace Expression

open Token (ReadAs moved scanFrom)
open Grammar (IsOr IsOperand IsUnary IsAnd IsAndTail)

/-- An expression between parentheses is an operand, wherever it stands. -/
lemma exists_operand (e : Expression) (position : ℕ) (ext : List Char) :
    ∃ a place, IsOperand (ReadAs maxDigits) a e.tree ∧
      scanFrom position ('(' :: (e.source.toList ++ ')' :: ext)) =
        (scanFrom place ext).map (a ++ ·) := by
  obtain ⟨ts, hscan, hor⟩ := Grammar.parse_eq_ok_iff.mp e.parse_source
  have hinner := Token.scanFrom_append_close hscan (position + 1) ext
  rw [Nat.zero_add, Token.scanFrom_parenthesis (.inr rfl), Outcome.map_map] at hinner
  have hgroup : IsOperand (ReadAs maxDigits) (⟨.op, String.singleton '(', position⟩ ::
      (ts.map (moved (position + 1)) ++
        [⟨.op, String.singleton ')', position + 1 + e.source.toList.length⟩])) e.tree :=
    .group (by rfl) (hor.moved (position + 1)) (by rfl)
  refine ⟨_, position + 1 + e.source.toList.length + 1, hgroup, ?_⟩
  rw [Token.scanFrom_parenthesis (.inl rfl), hinner, Outcome.map_map]
  simp

/-- Two expressions between parentheses with a word between them are two operands with a token
between them. -/
lemma exists_operands (e f : Expression) (c : Char) (cs : List Char) {s : String}
    (hs : s.toList = '(' :: (e.source.toList ++ ')' :: ' ' :: c :: (cs ++ ' ' :: '(' ::
      (f.source.toList ++ [')']))))
    (hc : c.isAlpha ∨ c = '_') (hcs : cs.all Text.isWordChar) :
    ∃ a place b, IsOperand (ReadAs maxDigits) a e.tree ∧ IsOperand (ReadAs maxDigits) b f.tree ∧
      Token.scan s = .ok (a ++ ⟨.word, String.ofList (c :: cs), place⟩ :: b) := by
  obtain ⟨a, p, ha, hleft⟩ := e.exists_operand 0
    (' ' :: c :: (cs ++ ' ' :: '(' :: (f.source.toList ++ [')'])))
  obtain ⟨b, q, hb, hright⟩ := f.exists_operand (p + 1 + 1 + cs.length + 1) []
  refine ⟨a, p + 1, b, ha, hb, ?_⟩
  rw [Token.scan, hs, hleft, Token.scanFrom_blank (Token.isBlank_of_letter hc),
    Token.scanFrom_word hc hcs, hright, Token.scanFrom_nil]
  simp [Except.map]

/-- The negation of an expression, as a text. -/
def negation (e : Expression) : Expression where
  source := "not (" ++ e.source ++ ")"
  tree := .not e.tree
  parse_source := by
    obtain ⟨a, p, ha, hscan⟩ := e.exists_operand (0 + 1 + ['o', 't'].length + 1) []
    have htext : ("not (" ++ e.source ++ ")").toList =
        'n' :: (['o', 't'] ++ ' ' :: '(' :: (e.source.toList ++ [')'])) := by
      simp
    have hnot : IsUnary (ReadAs maxDigits) (⟨.word, String.ofList ['n', 'o', 't'], 0⟩ :: a)
        (.not e.tree) :=
      .not (by decide +kernel) ha.isUnary
    refine Grammar.parse_eq_ok_iff.mpr ⟨_, ?_, hnot.isAnd.isOr⟩
    rw [Token.scan, htext, Token.scanFrom_word (by decide) (by decide), hscan,
      Token.scanFrom_nil]
    simp [Except.map]

/-- The conjunction of two expressions, as a text. -/
def both (e f : Expression) : Expression where
  source := "(" ++ e.source ++ ") and (" ++ f.source ++ ")"
  tree := .and [e.tree, f.tree]
  parse_source := by
    obtain ⟨a, p, b, ha, hb, hscan⟩ := exists_operands e f 'a' ['n', 'd']
      (s := "(" ++ e.source ++ ") and (" ++ f.source ++ ")") (by simp) (by decide) (by decide)
    have hand : Token.saysAnd ⟨.word, String.ofList ['a', 'n', 'd'], p⟩ :=
      Bool.or_eq_true_iff.mpr (.inl (Token.isKeyword_of_toLower (by decide +kernel) p))
    have hall : IsAnd (ReadAs maxDigits)
        (a ++ ⟨.word, String.ofList ['a', 'n', 'd'], p⟩ :: (b ++ []))
        (connect .and [e.tree, f.tree]) := .mk ha.isUnary (.cons hand hb.isUnary .nil)
    rw [List.append_nil] at hall
    exact Grammar.parse_eq_ok_iff.mpr ⟨_, hscan, hall.isOr⟩

/-- The alternative of two expressions, as a text. -/
def either (e f : Expression) : Expression where
  source := "(" ++ e.source ++ ") or (" ++ f.source ++ ")"
  tree := .or [e.tree, f.tree]
  parse_source := by
    obtain ⟨a, p, b, ha, hb, hscan⟩ := exists_operands e f 'o' ['r']
      (s := "(" ++ e.source ++ ") or (" ++ f.source ++ ")") (by simp) (by decide) (by decide)
    have hor : Token.saysOr ⟨.word, String.ofList ['o', 'r'], p⟩ :=
      Bool.or_eq_true_iff.mpr (.inl (Token.isKeyword_of_toLower (by decide +kernel) p))
    have hall : IsOr (ReadAs maxDigits) (a ++ ⟨.word, String.ofList ['o', 'r'], p⟩ :: (b ++ []))
        (connect .or [e.tree, f.tree]) := .mk ha.isUnary.isAnd (.cons hor hb.isUnary.isAnd .nil)
    rw [List.append_nil] at hall
    exact Grammar.parse_eq_ok_iff.mpr ⟨_, hscan, hall⟩

/-! ## What compositions say -/

/-- As a condition the expression is found true when `holds`, and false otherwise. -/
def Says (e : Expression) (b : Binding) (holds : Bool) : Prop :=
  (Condition.isTrue e).eval b = .ok holds ∧ (Condition.isFalse e).eval b = .ok !holds

variable {e f : Expression} {b : Binding} {v w : Value} {holds : Bool}

lemma isTrue_of_eval (h : e.eval b = .ok v) : (Condition.isTrue e).eval b = .ok v.isTrue := by
  rw [Condition.eval, h]
  rfl

lemma says_of_eval (h : e.eval b = .ok (.bool holds)) : e.Says b holds := by
  constructor
  · rw [isTrue_of_eval h]
    cases holds <;> rfl
  · rw [Condition.eval, h]
    cases holds <;> rfl

lemma exists_outcome (h : e.eval b = .ok v) :
    ∃ x, e.tree.operand b = .ok x ∧ x.toValue = v :=
  Outcome.map_eq_ok.mp h

/-- A negation is true unless its operand is. -/
lemma eval_negation (h : e.eval b = .ok v) : e.negation.eval b = .ok (.bool !v.isTrue) := by
  obtain ⟨x, hx, rfl⟩ := exists_outcome h
  rw [eval, negation, Tree.eval, Tree.operand, hx]
  rfl

/-- A conjunction is true when both operands are. -/
lemma eval_both (he : e.eval b = .ok v) (hf : f.eval b = .ok w) :
    (e.both f).eval b = .ok (.bool (v.isTrue && w.isTrue)) := by
  obtain ⟨x, hx, rfl⟩ := exists_outcome he
  obtain ⟨y, hy, rfl⟩ := exists_outcome hf
  have hall : Tree.allTrue b [e.tree, f.tree] = .ok (x.toValue.isTrue && y.toValue.isTrue) := by
    cases hp : x.toValue.isTrue <;> cases hq : y.toValue.isTrue <;>
      simp [Tree.allTrue, hx, hy, hp, hq]
  rw [eval, both, Tree.eval, Tree.operand, hall]
  rfl

/-- An alternative is true when an operand is. -/
lemma eval_either (he : e.eval b = .ok v) (hf : f.eval b = .ok w) :
    (e.either f).eval b = .ok (.bool (v.isTrue || w.isTrue)) := by
  obtain ⟨x, hx, rfl⟩ := exists_outcome he
  obtain ⟨y, hy, rfl⟩ := exists_outcome hf
  have hany : Tree.anyTrue b [e.tree, f.tree] = .ok (x.toValue.isTrue || y.toValue.isTrue) := by
    cases hp : x.toValue.isTrue <;> cases hq : y.toValue.isTrue <;>
      simp [Tree.anyTrue, hx, hy, hp, hq]
  rw [eval, either, Tree.eval, Tree.operand, hany]
  rfl

/-- The texts `not (e)`, `(e) and (f)` and `(e) or (f)` are expressions, with the trees that are
composed from those of `e` and `f`.  Where `e` and `f` have values, a composition is true as the
truth of its operands requires, whatever kind of values these are, and it is false otherwise. -/
theorem compose_as_text (e f : Expression) :
    Tree.parse ("not (" ++ e.source ++ ")") = .ok (.not e.tree) ∧
    Tree.parse ("(" ++ e.source ++ ") and (" ++ f.source ++ ")") = .ok (.and [e.tree, f.tree]) ∧
    Tree.parse ("(" ++ e.source ++ ") or (" ++ f.source ++ ")") = .ok (.or [e.tree, f.tree]) ∧
    ∀ b v w, e.eval b = .ok v → f.eval b = .ok w → ∃ p q : Bool,
      (Condition.isTrue e).eval b = .ok p ∧ (Condition.isTrue f).eval b = .ok q ∧
      e.negation.Says b (!p) ∧ (e.both f).Says b (p && q) ∧ (e.either f).Says b (p || q) := by
  refine ⟨e.negation.parse_source, (e.both f).parse_source, (e.either f).parse_source, ?_⟩
  intro b v w he hf
  exact ⟨v.isTrue, w.isTrue, isTrue_of_eval he, isTrue_of_eval hf, says_of_eval (eval_negation he),
    says_of_eval (eval_both he hf), says_of_eval (eval_either he hf)⟩

/-- An expression that is null where nobody owns anything. -/
def owner : Expression where
  source := "@owner"
  tree := .param "owner"
  parse_source := by
    have hscan : Token.scan "@owner" = .ok [⟨.param, "@owner", 0⟩] := by decide +kernel
    rw [Tree.parse, hscan]
    rfl

/-- An expression that is a text with an apostrophe and parentheses in it. -/
def remark : Expression where
  source := "'(it''s) or ('"
  tree := .const (.text "(it's) or (")
  parse_source := by
    have hscan : Token.scan "'(it''s) or ('" = .ok [⟨.string, "'(it''s) or ('", 0⟩] := by
      decide +kernel
    rw [Tree.parse, hscan]
    rfl

/-- Neither null nor a text is true, and of each composition one answer is given all the same. -/
theorem compose_owner_with_remark :
    Tree.parse "(@owner) and ('(it''s) or (')" = .ok (.and [owner.tree, remark.tree]) ∧
    owner.negation.Says .empty true ∧ (owner.both remark).Says .empty false ∧
      (owner.either remark).Says .empty false := by
  obtain ⟨-, hboth, -, hsays⟩ := compose_as_text owner remark
  obtain ⟨p, q, hp, hq, hall⟩ := hsays .empty .null (.text "(it's) or (") rfl rfl
  obtain rfl : false = p := Except.ok.inj hp
  obtain rfl : false = q := Except.ok.inj hq
  exact ⟨hboth, hall⟩

end Expression

end QueryTemplate
