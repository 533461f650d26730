import Mathlib.Tactic.Common
import QueryTemplate.Expression.Parser

/-!
# The grammar of expressions

The reader of expressions descends through fuel and looks ahead; the grammar does neither.  Each
relation here is one rule: it relates a run of tokens, and nothing before or after it, to the tree
that the run stands for.

    or         := and (('or' | '||') and)*
    and        := unary (('and' | '&&') unary)*
    unary      := ('not' | '!') unary | comparison
    comparison := operand [comparator operand]
    comparator := '==' | '=' | '!=' | '<>' | '>' | '>=' | '<' | '<=' | 'in' | 'not' 'in'
    operand    := @name | number | text | 'true' | 'false' | 'null'
                | '(' or ')' | '[' list ']' | '{' list '}'
    list       := [operand (',' operand)*]

What numbers and texts stand for is a parameter of the grammar.  A run may in principle have several
trees; that it has at most one, if each number and text stands for one constant, is a theorem about
the reader.
-/

namespace QueryTemplate.Grammar

/-- The operators written as signs, with what they mean. -/
def signs : List (String × Operator) :=
  [("==", .eq), ("=", .eq), ("!=", .ne), ("<>", .ne), (">", .gt), (">=", .ge), ("<", .lt),
   ("<=", .le)]

/-- The brackets around a list. -/
def brackets : List (String × String) :=
  [("[", "]"), ("\x7b", "\x7d")]

/-- The rule `comparator`. -/
inductive IsComparator : List Token → Operator → Prop where
  | sign {o : Token} {op : Operator} (kind : o.kind = .op) (mem : (o.text, op) ∈ signs) :
      IsComparator [o] op
  | isIn {i : Token} (hi : i.isKeyword "in") : IsComparator [i] .isIn
  | notIn {n i : Token} (hn : n.isKeyword "not") (hi : i.isKeyword "in") :
      IsComparator [n, i] .notIn

section Rules

variable (constant : Token → Constant → Prop)

mutual

/-- The rule `or`. -/
inductive IsOr : List Token → Tree → Prop where
  | mk {a s : List Token} {t : Tree} {ts : List Tree} (first : IsAnd a t)
      (more : IsOrTail s ts) : IsOr (a ++ s) (connect .or (t :: ts))

/-- The operands of an alternative after the first, each behind its word or sign. -/
inductive IsOrTail : List Token → List Tree → Prop where
  | nil : IsOrTail [] []
  | cons {o : Token} {a s : List Token} {t : Tree} {ts : List Tree} (ho : o.saysOr)
      (next : IsAnd a t) (more : IsOrTail s ts) : IsOrTail (o :: (a ++ s)) (t :: ts)

/-- The rule `and`. -/
inductive IsAnd : List Token → Tree → Prop where
  | mk {a s : List Token} {t : Tree} {ts : List Tree} (first : IsUnary a t)
      (more : IsAndTail s ts) : IsAnd (a ++ s) (connect .and (t :: ts))

/-- The operands of a conjunction after the first, each behind its word or sign. -/
inductive IsAndTail : List Token → List Tree → Prop where
  | nil : IsAndTail [] []
  | cons {o : Token} {a s : List Token} {t : Tree} {ts : List Tree} (ho : o.saysAnd)
      (next : IsUnary a t) (more : IsAndTail s ts) : IsAndTail (o :: (a ++ s)) (t :: ts)

/-- The rule `unary`. -/
inductive IsUnary : List Token → Tree → Prop where
  | not {n : Token} {a : List Token} {t : Tree} (hn : n.saysNot) (operand : IsUnary a t) :
      IsUnary (n :: a) (.not t)
  | comparison {a : List Token} {t : Tree} (h : IsComparison a t) : IsUnary a t

/-- The rule `comparison`. -/
inductive IsComparison : List Token → Tree → Prop where
  | operand {a : List Token} {t : Tree} (h : IsOperand a t) : IsComparison a t
  | compare {a o b : List Token} {op : Operator} {l r : Tree} (left : IsOperand a l)
      (ho : IsComparator o op) (right : IsOperand b r) :
      IsComparison (a ++ (o ++ b)) (.compare op l r)

/-- The rule `operand`. -/
inductive IsOperand : List Token → Tree → Prop where
  | param {o : Token} (kind : o.kind = .param) :
      IsOperand [o] (.param (String.ofList o.text.toList.tail))
  | const {o : Token} {v : Constant} (h : constant o v) : IsOperand [o] (.const v)
  | true {o : Token} (ho : o.isKeyword "true") : IsOperand [o] (.const (.bool true))
  | false {o : Token} (ho : o.isKeyword "false") : IsOperand [o] (.const (.bool false))
  | null {o : Token} (ho : o.isKeyword "null") : IsOperand [o] (.const .null)
  | group {o c : Token} {a : List Token} {t : Tree} (ho : o.isOp "(") (inner : IsOr a t)
      (hc : c.isOp ")") : IsOperand (o :: (a ++ [c])) t
  | list {o c : Token} {s : List Token} {ts : List Tree} {opening closing : String}
      (mem : (opening, closing) ∈ brackets) (ho : o.isOp opening) (items : IsList s ts)
      (hc : c.isOp closing) : IsOperand (o :: (s ++ [c])) (.list ts)

/-- The rule `list`. -/
inductive IsList : List Token → List Tree → Prop where
  | nil : IsList [] []
  | cons {a s : List Token} {t : Tree} {ts : List Tree} (first : IsOperand a t)
      (more : IsListTail s ts) : IsList (a ++ s) (t :: ts)

/-- The items of a list after the first, each behind a comma. -/
inductive IsListTail : List Token → List Tree → Prop where
  | nil : IsListTail [] []
  | cons {o : Token} {a s : List Token} {t : Tree} {ts : List Tree} (ho : o.isOp ",")
      (next : IsOperand a t) (more : IsListTail s ts) : IsListTail (o :: (a ++ s)) (t :: ts)

end

end Rules

/-! ## Words and signs -/

lemma kind_of_isKeyword {o : Token} {w : String} (h : o.isKeyword w) : o.kind = .word := by
  simp only [Token.isKeyword, Bool.and_eq_true, beq_iff_eq] at h
  exact h.1

lemma kind_of_isOp {o : Token} {w : String} (h : o.isOp w) : o.kind = .op := by
  simp only [Token.isOp, Bool.and_eq_true, beq_iff_eq] at h
  exact h.1

lemma text_of_isOp {o : Token} {w : String} (h : o.isOp w) : o.text = w := by
  simp only [Token.isOp, Bool.and_eq_true, beq_iff_eq] at h
  exact h.2

lemma kind_ne_of_saying {o : Token} {w s : String} (h : (o.isKeyword w || o.isOp s) = true) :
    o.kind ≠ .number := by
  rcases Bool.or_eq_true_iff.mp h with h | h
  · simp [kind_of_isKeyword h]
  · simp [kind_of_isOp h]

lemma IsComparator.kind {o : List Token} {op : Operator} (h : IsComparator o op) :
    ∀ p ∈ o, p.kind ≠ .number := by
  cases h with
  | sign kind _ => simp [kind]
  | isIn hi => simp [kind_of_isKeyword hi]
  | notIn hn hi => simp [kind_of_isKeyword hn, kind_of_isKeyword hi]

/-! ## No rule derives the empty run -/

section

variable {constant : Token → Constant → Prop}

mutual

lemma IsOr.pos : ∀ {a : List Token} {t : Tree}, IsOr constant a t → 0 < a.length
  | _, _, .mk first _ => by
      have := first.pos
      simp only [List.length_append]
      omega

lemma IsAnd.pos : ∀ {a : List Token} {t : Tree}, IsAnd constant a t → 0 < a.length
  | _, _, .mk first _ => by
      have := first.pos
      simp only [List.length_append]
      omega

lemma IsUnary.pos : ∀ {a : List Token} {t : Tree}, IsUnary constant a t → 0 < a.length
  | _, _, .not _ _ => by simp
  | _, _, .comparison h => h.pos

lemma IsComparison.pos : ∀ {a : List Token} {t : Tree}, IsComparison constant a t → 0 < a.length
  | _, _, .operand h => h.pos
  | _, _, .compare left _ _ => by
      have := left.pos
      simp only [List.length_append]
      omega

lemma IsOperand.pos : ∀ {a : List Token} {t : Tree}, IsOperand constant a t → 0 < a.length
  | _, _, .param _ | _, _, .const _ | _, _, .true _ | _, _, .false _
  | _, _, .null _ | _, _, .group _ _ _ | _, _, .list _ _ _ _ => by simp

end

end

/-! ## The constants of a run -/

section Constants

variable {constant constant' : Token → Constant → Prop}

lemma IsUnary.isAnd {a : List Token} {t : Tree} (h : IsUnary constant a t) :
    IsAnd constant a t := by
  simpa [connect] using IsAnd.mk h .nil

lemma IsAnd.isOr {a : List Token} {t : Tree} (h : IsAnd constant a t) : IsOr constant a t := by
  simpa [connect] using IsOr.mk h .nil

lemma IsOperand.isUnary {a : List Token} {t : Tree} (h : IsOperand constant a t) :
    IsUnary constant a t :=
  .comparison (.operand h)

mutual

/-- A run keeps its tree if its tokens stand for the same constants. -/
theorem IsOr.mono : ∀ {a : List Token} {t : Tree}, IsOr constant a t →
    (∀ o ∈ a, ∀ v, constant o v → constant' o v) → IsOr constant' a t
  | _, _, .mk first more, h => by
      rw [List.forall_mem_append] at h
      exact .mk (first.mono h.1) (more.mono h.2)

theorem IsOrTail.mono : ∀ {a : List Token} {ts : List Tree}, IsOrTail constant a ts →
    (∀ o ∈ a, ∀ v, constant o v → constant' o v) → IsOrTail constant' a ts
  | _, _, .nil, _ => .nil
  | _, _, .cons ho next more, h => by
      rw [List.forall_mem_cons, List.forall_mem_append] at h
      exact .cons ho (next.mono h.2.1) (more.mono h.2.2)

theorem IsAnd.mono : ∀ {a : List Token} {t : Tree}, IsAnd constant a t →
    (∀ o ∈ a, ∀ v, constant o v → constant' o v) → IsAnd constant' a t
  | _, _, .mk first more, h => by
      rw [List.forall_mem_append] at h
      exact .mk (first.mono h.1) (more.mono h.2)

theorem IsAndTail.mono : ∀ {a : List Token} {ts : List Tree}, IsAndTail constant a ts →
    (∀ o ∈ a, ∀ v, constant o v → constant' o v) → IsAndTail constant' a ts
  | _, _, .nil, _ => .nil
  | _, _, .cons ho next more, h => by
      rw [List.forall_mem_cons, List.forall_mem_append] at h
      exact .cons ho (next.mono h.2.1) (more.mono h.2.2)

theorem IsUnary.mono : ∀ {a : List Token} {t : Tree}, IsUnary constant a t →
    (∀ o ∈ a, ∀ v, constant o v → constant' o v) → IsUnary constant' a t
  | _, _, .not hn operand, h => .not hn (operand.mono (List.forall_mem_cons.mp h).2)
  | _, _, .comparison hc, h => .comparison (hc.mono h)

theorem IsComparison.mono : ∀ {a : List Token} {t : Tree}, IsComparison constant a t →
    (∀ o ∈ a, ∀ v, constant o v → constant' o v) → IsComparison constant' a t
  | _, _, .operand ha, h => .operand (ha.mono h)
  | _, _, .compare left ho right, h => by
      rw [List.forall_mem_append, List.forall_mem_append] at h
      exact .compare (left.mono h.1) ho (right.mono h.2.2)

theorem IsOperand.mono : ∀ {a : List Token} {t : Tree}, IsOperand constant a t →
    (∀ o ∈ a, ∀ v, constant o v → constant' o v) → IsOperand constant' a t
  | _, _, .param kind, _ => .param kind
  | _, _, .const hv, h => .const (h _ List.mem_cons_self _ hv)
  | _, _, .true ho, _ => .true ho
  | _, _, .false ho, _ => .false ho
  | _, _, .null ho, _ => .null ho
  | _, _, .group ho inner hc, h => by
      rw [List.forall_mem_cons, List.forall_mem_append] at h
      exact .group ho (inner.mono h.2.1) hc
  | _, _, .list mem ho items hc, h => by
      rw [List.forall_mem_cons, List.forall_mem_append] at h
      exact .list mem ho (items.mono h.2.1) hc

theorem IsList.mono : ∀ {a : List Token} {ts : List Tree}, IsList constant a ts →
    (∀ o ∈ a, ∀ v, constant o v → constant' o v) → IsList constant' a ts
  | _, _, .nil, _ => .nil
  | _, _, .cons first more, h => by
      rw [List.forall_mem_append] at h
      exact .cons (first.mono h.1) (more.mono h.2)

theorem IsListTail.mono : ∀ {a : List Token} {ts : List Tree}, IsListTail constant a ts →
    (∀ o ∈ a, ∀ v, constant o v → constant' o v) → IsListTail constant' a ts
  | _, _, .nil, _ => .nil
  | _, _, .cons ho next more, h => by
      rw [List.forall_mem_cons, List.forall_mem_append] at h
      exact .cons ho (next.mono h.2.1) (more.mono h.2.2)

end

mutual

/-- Every number in a run stands for a constant. -/
theorem IsOr.numbers : ∀ {a : List Token} {t : Tree}, IsOr constant a t →
    ∀ o ∈ a, o.kind = .number → ∃ v, constant o v
  | _, _, .mk first more => List.forall_mem_append.mpr ⟨first.numbers, more.numbers⟩

theorem IsOrTail.numbers : ∀ {a : List Token} {ts : List Tree}, IsOrTail constant a ts →
    ∀ o ∈ a, o.kind = .number → ∃ v, constant o v
  | _, _, .nil => by simp
  | _, _, .cons ho next more =>
      List.forall_mem_cons.mpr ⟨fun h => absurd h (kind_ne_of_saying ho),
        List.forall_mem_append.mpr ⟨next.numbers, more.numbers⟩⟩

theorem IsAnd.numbers : ∀ {a : List Token} {t : Tree}, IsAnd constant a t →
    ∀ o ∈ a, o.kind = .number → ∃ v, constant o v
  | _, _, .mk first more => List.forall_mem_append.mpr ⟨first.numbers, more.numbers⟩

theorem IsAndTail.numbers : ∀ {a : List Token} {ts : List Tree}, IsAndTail constant a ts →
    ∀ o ∈ a, o.kind = .number → ∃ v, constant o v
  | _, _, .nil => by simp
  | _, _, .cons ho next more =>
      List.forall_mem_cons.mpr ⟨fun h => absurd h (kind_ne_of_saying ho),
        List.forall_mem_append.mpr ⟨next.numbers, more.numbers⟩⟩

theorem IsUnary.numbers : ∀ {a : List Token} {t : Tree}, IsUnary constant a t →
    ∀ o ∈ a, o.kind = .number → ∃ v, constant o v
  | _, _, .not hn operand =>
      List.forall_mem_cons.mpr ⟨fun h => absurd h (kind_ne_of_saying hn), operand.numbers⟩
  | _, _, .comparison h => h.numbers

theorem IsComparison.numbers : ∀ {a : List Token} {t : Tree}, IsComparison constant a t →
    ∀ o ∈ a, o.kind = .number → ∃ v, constant o v
  | _, _, .operand h => h.numbers
  | _, _, .compare left ho right =>
      List.forall_mem_append.mpr ⟨left.numbers,
        List.forall_mem_append.mpr ⟨fun o hmem h => absurd h (ho.kind o hmem), right.numbers⟩⟩

theorem IsOperand.numbers : ∀ {a : List Token} {t : Tree}, IsOperand constant a t →
    ∀ o ∈ a, o.kind = .number → ∃ v, constant o v
  | _, _, .param kind => by simp [kind]
  | _, _, .const hv => List.forall_mem_singleton.mpr fun _ => ⟨_, hv⟩
  | _, _, .true ho | _, _, .false ho | _, _, .null ho => by simp [kind_of_isKeyword ho]
  | _, _, .group ho inner hc =>
      List.forall_mem_cons.mpr ⟨by simp [kind_of_isOp ho],
        List.forall_mem_append.mpr ⟨inner.numbers, by simp [kind_of_isOp hc]⟩⟩
  | _, _, .list _ ho items hc =>
      List.forall_mem_cons.mpr ⟨by simp [kind_of_isOp ho],
        List.forall_mem_append.mpr ⟨items.numbers, by simp [kind_of_isOp hc]⟩⟩

theorem IsList.numbers : ∀ {a : List Token} {ts : List Tree}, IsList constant a ts →
    ∀ o ∈ a, o.kind = .number → ∃ v, constant o v
  | _, _, .nil => by simp
  | _, _, .cons first more => List.forall_mem_append.mpr ⟨first.numbers, more.numbers⟩

theorem IsListTail.numbers : ∀ {a : List Token} {ts : List Tree}, IsListTail constant a ts →
    ∀ o ∈ a, o.kind = .number → ∃ v, constant o v
  | _, _, .nil => by simp
  | _, _, .cons ho next more =>
      List.forall_mem_cons.mpr ⟨by simp [kind_of_isOp ho],
        List.forall_mem_append.mpr ⟨next.numbers, more.numbers⟩⟩

end

end Constants

end QueryTemplate.Grammar
