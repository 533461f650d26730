import Mathlib.Tactic.Common
import QueryTemplate.Proofs.Expression.Grammar
import QueryTemplate.Proofs.Outcome

/-!
# The reader of expressions and the grammar

What the reader takes off the front of a list of tokens is a run of the grammar, whatever fuel it
has; and with fuel for the length of a run it takes that run, if what follows cannot continue it.
-/

namespace QueryTemplate

/-- What the reader takes a number of at most so many digits for, or a text. -/
inductive Token.ReadAs (limit : ℕ) (o : Token) : Constant → Prop where
  | number (kind : o.kind = .number) (short : o.manyDigits? limit = none) :
      ReadAs limit o (.number (Token.number o.text))
  | text (kind : o.kind = .string) : ReadAs limit o (.text (Token.unquote o.text))

lemma Token.ReadAs.kind {limit : ℕ} {o : Token} {v : Constant} (h : o.ReadAs limit v) :
    o.kind = .number ∨ o.kind = .string := by
  cases h with
  | number kind => exact .inl kind
  | text kind => exact .inr kind

namespace Grammar

open Outcome
open Token (ReadAs)

variable {limit : ℕ}

/-! ## Tokens -/

lemma mem_signs {o : Token} {op : Operator} (h : o.comparison? = some op) :
    o.kind = .op ∧ (o.text, op) ∈ signs := by
  simp only [Token.comparison?] at h
  split at h
  · next hk =>
    refine ⟨hk, ?_⟩
    split at h <;> simp_all [signs]
  · simp at h

lemma comparison?_of_mem {o : Token} {op : Operator} (hk : o.kind = .op)
    (h : (o.text, op) ∈ signs) : o.comparison? = some op := by
  simp only [signs, List.mem_cons, Prod.mk.injEq, List.not_mem_nil, or_false] at h
  rcases h with ⟨ht, rfl⟩ | ⟨ht, rfl⟩ | ⟨ht, rfl⟩ | ⟨ht, rfl⟩ | ⟨ht, rfl⟩ | ⟨ht, rfl⟩ |
    ⟨ht, rfl⟩ | ⟨ht, rfl⟩ <;> simp [Token.comparison?, hk, ht]

lemma isComparator_of_ahead {ts rest : List Token} {op : Operator}
    (h : comparisonAhead? ts = some (op, rest)) : ∃ o, ts = o ++ rest ∧ IsComparator o op := by
  cases ts with
  | nil => simp [comparisonAhead?] at h
  | cons t ts =>
    simp only [comparisonAhead?] at h
    split at h
    · next hop =>
      simp only [Option.some.injEq, Prod.mk.injEq] at h
      obtain ⟨rfl, rfl⟩ := h
      exact ⟨[t], rfl, .sign (mem_signs hop).1 (mem_signs hop).2⟩
    · split_ifs at h with hin hnot
      · simp only [Option.some.injEq, Prod.mk.injEq] at h
        obtain ⟨rfl, rfl⟩ := h
        exact ⟨[t], rfl, .isIn hin⟩
      · cases ts with
        | nil => simp at h
        | cons u ts =>
          simp only at h
          split_ifs at h with hu
          simp only [Option.some.injEq, Prod.mk.injEq] at h
          obtain ⟨rfl, rfl⟩ := h
          exact ⟨[t, u], rfl, .notIn hnot hu⟩

lemma isOp_of_takeOp {due : String} {ts rest : List Token} (h : takeOp due ts = .ok rest) :
    ∃ c, ts = c :: rest ∧ c.isOp due := by
  cases ts with
  | nil => simp [takeOp] at h
  | cons c ts =>
    simp only [takeOp] at h
    split_ifs at h with hc
    exact ⟨c, by simpa using h, hc⟩

/-- A token that stands for something by itself is an operand. -/
lemma isOperand_of_atom {o : Token} {t : Tree} (hshort : o.manyDigits? limit = none)
    (h : o.atom? = some t) : IsOperand (ReadAs limit) [o] t := by
  simp only [Token.atom?] at h
  cases hk : o.kind <;> simp only [hk] at h
  case param => exact Option.some.inj h ▸ .param hk
  case number => exact Option.some.inj h ▸ .const (.number hk hshort)
  case string => exact Option.some.inj h ▸ .const (.text hk)
  case word =>
    split_ifs at h with h₁ h₂ h₃
    · exact Option.some.inj h ▸ .true h₁
    · exact Option.some.inj h ▸ .false h₂
    · exact Option.some.inj h ▸ .null h₃
  case op => simp at h

lemma mem_brackets {o : Token} {closing : String} (h : o.listClose? = some closing) :
    ∃ opening, (opening, closing) ∈ brackets ∧ o.isOp opening := by
  simp only [Token.listClose?] at h
  split_ifs at h with h₁ h₂
  · exact ⟨"[", by simpa [brackets] using h.symm, h₁⟩
  · exact ⟨"\x7b", by simpa [brackets] using h.symm, h₂⟩

/-! ## What is read is a run of the grammar -/

mutual

theorem isOr_of_parse : ∀ {fuel : ℕ} {ts rest : List Token} {t : Tree},
    Tree.parseOr limit fuel ts = .ok (t, rest) → ∃ a, ts = a ++ rest ∧ IsOr (ReadAs limit) a t
  | 0, _, _, _, h => by simp [Tree.parseOr] at h
  | fuel + 1, _, _, _, h => by
      simp only [Tree.parseOr, bind_eq_ok] at h
      obtain ⟨⟨first, mid⟩, h₁, ⟨more, last⟩, h₂, h⟩ := h
      simp only [Except.ok.injEq, Prod.mk.injEq] at h
      obtain ⟨rfl, rfl⟩ := h
      obtain ⟨a, rfl, ha⟩ := isAnd_of_parse h₁
      obtain ⟨as, rfl, has⟩ := isOrTail_of_parse h₂
      exact ⟨a ++ as, by simp, .mk ha has⟩

theorem isOrTail_of_parse : ∀ {fuel : ℕ} {ts rest : List Token} {l : List Tree},
    Tree.parseOrTail limit fuel ts = .ok (l, rest) →
      ∃ a, ts = a ++ rest ∧ IsOrTail (ReadAs limit) a l
  | 0, _, _, _, h => by
      simp only [Tree.parseOrTail, Except.ok.injEq, Prod.mk.injEq] at h
      obtain ⟨rfl, rfl⟩ := h
      exact ⟨[], rfl, .nil⟩
  | fuel + 1, [], _, _, h => by
      simp only [Tree.parseOrTail, Except.ok.injEq, Prod.mk.injEq] at h
      obtain ⟨rfl, rfl⟩ := h
      exact ⟨[], rfl, .nil⟩
  | fuel + 1, o :: ts, _, _, h => by
      simp only [Tree.parseOrTail] at h
      split_ifs at h with ho
      · simp only [bind_eq_ok] at h
        obtain ⟨⟨next, mid⟩, h₁, ⟨more, last⟩, h₂, h⟩ := h
        simp only [Except.ok.injEq, Prod.mk.injEq] at h
        obtain ⟨rfl, rfl⟩ := h
        obtain ⟨a, rfl, ha⟩ := isAnd_of_parse h₁
        obtain ⟨as, rfl, has⟩ := isOrTail_of_parse h₂
        exact ⟨o :: (a ++ as), by simp, .cons ho ha has⟩
      · simp only [Except.ok.injEq, Prod.mk.injEq] at h
        obtain ⟨rfl, rfl⟩ := h
        exact ⟨[], rfl, .nil⟩

theorem isAnd_of_parse : ∀ {fuel : ℕ} {ts rest : List Token} {t : Tree},
    Tree.parseAnd limit fuel ts = .ok (t, rest) → ∃ a, ts = a ++ rest ∧ IsAnd (ReadAs limit) a t
  | 0, _, _, _, h => by simp [Tree.parseAnd] at h
  | fuel + 1, _, _, _, h => by
      simp only [Tree.parseAnd, bind_eq_ok] at h
      obtain ⟨⟨first, mid⟩, h₁, ⟨more, last⟩, h₂, h⟩ := h
      simp only [Except.ok.injEq, Prod.mk.injEq] at h
      obtain ⟨rfl, rfl⟩ := h
      obtain ⟨a, rfl, ha⟩ := isUnary_of_parse h₁
      obtain ⟨as, rfl, has⟩ := isAndTail_of_parse h₂
      exact ⟨a ++ as, by simp, .mk ha has⟩

theorem isAndTail_of_parse : ∀ {fuel : ℕ} {ts rest : List Token} {l : List Tree},
    Tree.parseAndTail limit fuel ts = .ok (l, rest) →
      ∃ a, ts = a ++ rest ∧ IsAndTail (ReadAs limit) a l
  | 0, _, _, _, h => by
      simp only [Tree.parseAndTail, Except.ok.injEq, Prod.mk.injEq] at h
      obtain ⟨rfl, rfl⟩ := h
      exact ⟨[], rfl, .nil⟩
  | fuel + 1, [], _, _, h => by
      simp only [Tree.parseAndTail, Except.ok.injEq, Prod.mk.injEq] at h
      obtain ⟨rfl, rfl⟩ := h
      exact ⟨[], rfl, .nil⟩
  | fuel + 1, o :: ts, _, _, h => by
      simp only [Tree.parseAndTail] at h
      split_ifs at h with ho
      · simp only [bind_eq_ok] at h
        obtain ⟨⟨next, mid⟩, h₁, ⟨more, last⟩, h₂, h⟩ := h
        simp only [Except.ok.injEq, Prod.mk.injEq] at h
        obtain ⟨rfl, rfl⟩ := h
        obtain ⟨a, rfl, ha⟩ := isUnary_of_parse h₁
        obtain ⟨as, rfl, has⟩ := isAndTail_of_parse h₂
        exact ⟨o :: (a ++ as), by simp, .cons ho ha has⟩
      · simp only [Except.ok.injEq, Prod.mk.injEq] at h
        obtain ⟨rfl, rfl⟩ := h
        exact ⟨[], rfl, .nil⟩

theorem isUnary_of_parse : ∀ {fuel : ℕ} {ts rest : List Token} {t : Tree},
    Tree.parseUnary limit fuel ts = .ok (t, rest) → ∃ a, ts = a ++ rest ∧ IsUnary (ReadAs limit) a t
  | 0, _, _, _, h => by simp [Tree.parseUnary] at h
  | fuel + 1, [], _, _, h => by simp [Tree.parseUnary] at h
  | fuel + 1, n :: ts, _, _, h => by
      simp only [Tree.parseUnary] at h
      split_ifs at h with hn
      · simp only [bind_eq_ok] at h
        obtain ⟨⟨t, mid⟩, h₁, h⟩ := h
        simp only [Except.ok.injEq, Prod.mk.injEq] at h
        obtain ⟨rfl, rfl⟩ := h
        obtain ⟨a, rfl, ha⟩ := isUnary_of_parse h₁
        exact ⟨n :: a, rfl, .not hn ha⟩
      · obtain ⟨a, ha, hd⟩ := isComparison_of_parse h
        exact ⟨a, ha, .comparison hd⟩

theorem isComparison_of_parse : ∀ {fuel : ℕ} {ts rest : List Token} {t : Tree},
    Tree.parseComparison limit fuel ts = .ok (t, rest) →
      ∃ a, ts = a ++ rest ∧ IsComparison (ReadAs limit) a t
  | 0, _, _, _, h => by simp [Tree.parseComparison] at h
  | fuel + 1, _, _, _, h => by
      simp only [Tree.parseComparison, bind_eq_ok] at h
      obtain ⟨⟨left, mid⟩, h₁, h⟩ := h
      obtain ⟨a, rfl, ha⟩ := isOperand_of_parse h₁
      simp only at h
      split at h
      · simp only [Except.ok.injEq, Prod.mk.injEq] at h
        obtain ⟨rfl, rfl⟩ := h
        exact ⟨a, rfl, .operand ha⟩
      · next op rest' ho =>
        simp only [bind_eq_ok] at h
        obtain ⟨⟨right, last⟩, h₂, h⟩ := h
        simp only [Except.ok.injEq, Prod.mk.injEq] at h
        obtain ⟨rfl, rfl⟩ := h
        obtain ⟨o, rfl, hco⟩ := isComparator_of_ahead ho
        obtain ⟨b, rfl, hb⟩ := isOperand_of_parse h₂
        exact ⟨a ++ (o ++ b), by simp, .compare ha hco hb⟩

theorem isOperand_of_parse : ∀ {fuel : ℕ} {ts rest : List Token} {t : Tree},
    Tree.parseOperand limit fuel ts = .ok (t, rest) →
      ∃ a, ts = a ++ rest ∧ IsOperand (ReadAs limit) a t
  | 0, _, _, _, h => by simp [Tree.parseOperand] at h
  | fuel + 1, [], _, _, h => by simp [Tree.parseOperand] at h
  | fuel + 1, o :: ts, _, _, h => by
      simp only [Tree.parseOperand] at h
      split at h
      · simp at h
      next hshort =>
      split at h
      · next hat =>
        simp only [Except.ok.injEq, Prod.mk.injEq] at h
        obtain ⟨rfl, rfl⟩ := h
        exact ⟨[o], rfl, isOperand_of_atom hshort hat⟩
      · split_ifs at h with ho
        · simp only [bind_eq_ok] at h
          obtain ⟨⟨t, mid⟩, h₁, last, h₂, h⟩ := h
          simp only [Except.ok.injEq, Prod.mk.injEq] at h
          obtain ⟨rfl, rfl⟩ := h
          obtain ⟨a, rfl, ha⟩ := isOr_of_parse h₁
          obtain ⟨c, rfl, hc⟩ := isOp_of_takeOp h₂
          exact ⟨o :: (a ++ [c]), by simp, .group ho ha hc⟩
        · split at h
          · simp at h
          · next close hclose =>
            obtain ⟨opening, hmem, hopen⟩ := mem_brackets hclose
            split at h
            · next last htake =>
              simp only [Except.ok.injEq, Prod.mk.injEq] at h
              obtain ⟨rfl, rfl⟩ := h
              obtain ⟨c, rfl, hc⟩ := isOp_of_takeOp htake
              exact ⟨[o, c], rfl, .list hmem hopen .nil hc⟩
            · simp only [bind_eq_ok] at h
              obtain ⟨⟨items, last⟩, h₁, h⟩ := h
              simp only [Except.ok.injEq, Prod.mk.injEq] at h
              obtain ⟨rfl, rfl⟩ := h
              obtain ⟨a, as, c, t, l, rfl, rfl, ha, has, hc⟩ := isList_of_parse h₁
              exact ⟨o :: (a ++ as ++ [c]), by simp, .list hmem hopen (.cons ha has) hc⟩

theorem isList_of_parse : ∀ {fuel : ℕ} {close : String} {ts rest : List Token} {l : List Tree},
    Tree.parseItems limit fuel close ts = .ok (l, rest) →
      ∃ a as c t l', ts = a ++ as ++ c :: rest ∧ l = t :: l' ∧ IsOperand (ReadAs limit) a t ∧
        IsListTail (ReadAs limit) as l' ∧ c.isOp close
  | 0, _, _, _, _, h => by simp [Tree.parseItems] at h
  | fuel + 1, close, _, _, _, h => by
      simp only [Tree.parseItems, bind_eq_ok] at h
      obtain ⟨⟨item, mid⟩, h₁, h⟩ := h
      obtain ⟨a, rfl, ha⟩ := isOperand_of_parse h₁
      simp only at h
      split at h
      · next last htake =>
        simp only [Except.ok.injEq, Prod.mk.injEq] at h
        obtain ⟨rfl, rfl⟩ := h
        obtain ⟨c, rfl, hc⟩ := isOp_of_takeOp htake
        exact ⟨a, [], c, item, [], by simp, rfl, ha, .nil, hc⟩
      · simp only [bind_eq_ok] at h
        obtain ⟨after, hcomma, ⟨items, last⟩, h₂, h⟩ := h
        simp only [Except.ok.injEq, Prod.mk.injEq] at h
        obtain ⟨rfl, rfl⟩ := h
        obtain ⟨o, rfl, ho⟩ := isOp_of_takeOp hcomma
        obtain ⟨b, bs, c, t, l', rfl, rfl, hb, hbs, hc⟩ := isList_of_parse h₂
        exact ⟨a, o :: (b ++ bs), c, item, t :: l', by simp, rfl, ha, .cons ho hb hbs, hc⟩

end

/-! ## What may follow a run

A run is taken in full only if what follows cannot continue it. -/

/-- No comparator follows. -/
def AfterUnary (rest : List Token) : Prop :=
  comparisonAhead? rest = none

/-- Neither a comparator nor a further operand of a conjunction follows. -/
def AfterAnd (rest : List Token) : Prop :=
  AfterUnary rest ∧ ∀ o ∈ rest.head?, ¬ o.saysAnd

/-- Nothing follows that belongs to an alternative. -/
def AfterOr (rest : List Token) : Prop :=
  AfterAnd rest ∧ ∀ o ∈ rest.head?, ¬ o.saysOr

lemma afterUnary_of_isKeyword {o : Token} {w : String} {rest : List Token} (h : o.isKeyword w)
    (hin : w ≠ "in") (hnot : w ≠ "not") : AfterUnary (o :: rest) := by
  have hk := kind_of_isKeyword h
  simp only [Token.isKeyword, Bool.and_eq_true, beq_iff_eq] at h
  simp [AfterUnary, comparisonAhead?, Token.comparison?, Token.isKeyword, hk, h.2, hin, hnot]

lemma afterUnary_of_isOp {o : Token} {s : String} {rest : List Token} (h : o.isOp s)
    (hs : ∀ op, (s, op) ∉ signs) : AfterUnary (o :: rest) := by
  have hk := kind_of_isOp h
  have hc : o.comparison? = none := by
    cases ho : o.comparison? with
    | none => rfl
    | some op => exact absurd (text_of_isOp h ▸ (mem_signs ho).2) (hs op)
  simp [AfterUnary, comparisonAhead?, hc, Token.isKeyword, hk]

lemma afterUnary_of_saysAnd {o : Token} {rest : List Token} (h : o.saysAnd) :
    AfterUnary (o :: rest) := by
  rcases Bool.or_eq_true_iff.1 h with h | h
  · exact afterUnary_of_isKeyword h (by decide) (by decide)
  · exact afterUnary_of_isOp h (by simp [signs])

lemma afterAnd_of_saysOr {o : Token} {rest : List Token} (h : o.saysOr) :
    AfterAnd (o :: rest) := by
  rcases Bool.or_eq_true_iff.1 h with h | h
  · refine ⟨afterUnary_of_isKeyword h (by decide) (by decide), ?_⟩
    simp_all [Token.saysAnd, Token.isKeyword, Token.isOp]
  · refine ⟨afterUnary_of_isOp h (by simp [signs]), ?_⟩
    simp_all [Token.saysAnd, Token.isKeyword, Token.isOp]

lemma afterOr_nil : AfterOr [] := by simp [AfterOr, AfterAnd, AfterUnary, comparisonAhead?]

lemma afterOr_close {c : Token} {r : List Token} (h : c.isOp ")") : AfterOr (c :: r) := by
  refine ⟨⟨afterUnary_of_isOp h (by simp [signs]), ?_⟩, ?_⟩ <;>
    simp_all [Token.saysAnd, Token.saysOr, Token.isKeyword, Token.isOp]

/-- The first token of an operand is neither a negation nor a closing bracket. -/
lemma IsOperand.head {a : List Token} {t : Tree} (h : IsOperand (ReadAs limit) a t) :
    ∃ o a', a = o :: a' ∧ ¬ o.saysNot ∧ ∀ b ∈ brackets, ¬ o.isOp b.2 := by
  cases h with
  | const h =>
    rcases h.kind with hk | hk <;>
      exact ⟨_, _, rfl, by simp [Token.saysNot, Token.isKeyword, Token.isOp, hk],
        by simp [Token.isOp, brackets, hk]⟩
  | _ =>
    refine ⟨_, _, rfl, ?_, ?_⟩ <;>
      simp_all [Token.saysNot, Token.isKeyword, Token.isOp, brackets] <;> grind

lemma IsComparison.head {a : List Token} {t : Tree} (h : IsComparison (ReadAs limit) a t) :
    ∃ o a', a = o :: a' ∧ ¬ o.saysNot := by
  cases h with
  | operand h =>
    obtain ⟨o, a', rfl, hn, -⟩ := h.head
    exact ⟨o, a', rfl, hn⟩
  | compare left _ _ =>
    obtain ⟨o, a', rfl, hn, -⟩ := left.head
    exact ⟨o, _, rfl, hn⟩

lemma comparisonAhead?_append {o rest : List Token} {op : Operator} (h : IsComparator o op) :
    comparisonAhead? (o ++ rest) = some (op, rest) := by
  cases h with
  | sign kind mem => simp [comparisonAhead?, comparison?_of_mem kind mem]
  | isIn hi => simp [comparisonAhead?, Token.comparison?, kind_of_isKeyword hi, hi]
  | @notIn n i hn hi =>
    have hne : ¬ n.isKeyword "in" := by simp_all [Token.isKeyword]
    simp [comparisonAhead?, Token.comparison?, kind_of_isKeyword hn, hn, hi, hne]

lemma takeOp_cons {c : Token} {due : String} {rest : List Token} (h : c.isOp due) :
    takeOp due (c :: rest) = .ok rest := by
  simp [takeOp, h]

lemma takeOp_ne {c : Token} {due : String} {r : List Token} (h : ¬ c.isOp due) :
    takeOp due (c :: r) = .error (.expected due (some c.text)) := by
  simp [takeOp, h]

/-- The token before a list is taken for its bracket. -/
lemma listClose?_of_mem (limit : ℕ) {o : Token} {opening closing : String}
    (mem : (opening, closing) ∈ brackets) (ho : o.isOp opening) :
    o.manyDigits? limit = none ∧ o.atom? = none ∧ ¬ o.isOp "(" ∧ o.listClose? = some closing := by
  simp only [brackets, List.mem_cons, Prod.mk.injEq, List.not_mem_nil, or_false] at mem
  have hk := kind_of_isOp ho
  have ht := text_of_isOp ho
  rcases mem with ⟨rfl, rfl⟩ | ⟨rfl, rfl⟩ <;>
    simp [Token.manyDigits?, Token.atom?, Token.listClose?, Token.isOp, hk, ht]

lemma IsAndTail.afterUnary {a rest : List Token} {l : List Tree} (h : IsAndTail (ReadAs limit) a l)
    (hr : AfterAnd rest) : AfterUnary (a ++ rest) := by
  cases h with
  | nil => exact hr.1
  | cons ho _ _ => exact afterUnary_of_saysAnd ho

lemma IsOrTail.afterAnd {a rest : List Token} {l : List Tree} (h : IsOrTail (ReadAs limit) a l)
    (hr : AfterOr rest) : AfterAnd (a ++ rest) := by
  cases h with
  | nil => exact hr.1
  | cons ho _ _ => exact afterAnd_of_saysOr ho

/-- After a comparison of two operands anything may follow: a second comparator is left alone. -/
lemma parseComparison_of_operands {fuel : ℕ} {a o b rest : List Token} {op : Operator}
    {l r : Tree}
    (h₁ : Tree.parseOperand limit fuel (a ++ (o ++ (b ++ rest))) = .ok (l, o ++ (b ++ rest)))
    (ho : IsComparator o op) (h₂ : Tree.parseOperand limit fuel (b ++ rest) = .ok (r, rest)) :
    Tree.parseComparison limit (fuel + 1) (a ++ (o ++ b) ++ rest) =
      .ok (.compare op l r, rest) := by
  simp [Tree.parseComparison, List.append_assoc, h₁, h₂, comparisonAhead?_append ho]

/-! ## A run of the grammar is read

The fuel of each rule is six steps for a token of the run, less the number of rules that can be
entered before the first token is taken. -/

mutual

theorem parseOr_of_isOr : ∀ {a : List Token} {t : Tree}, IsOr (ReadAs limit) a t →
    ∀ {n : ℕ} {r : List Token}, 6 * a.length ≤ n + 1 → AfterOr r →
      Tree.parseOr limit n (a ++ r) = .ok (t, r)
  | _, _, .mk (a := a) (s := as) first more, fuel, rest, hf, hr => by
      have hpos := first.pos
      rw [List.length_append] at hf
      obtain ⟨fuel, rfl⟩ : ∃ n, fuel = n + 1 := ⟨fuel - 1, by omega⟩
      have h₁ := parseAnd_of_isAnd first (n := fuel) (r := as ++ rest) (by omega)
        (more.afterAnd hr)
      have h₂ := parseOrTail_of_isOrTail more (n := fuel) (by omega) hr
      simp [Tree.parseOr, List.append_assoc, h₁, h₂]

theorem parseOrTail_of_isOrTail : ∀ {a : List Token} {l : List Tree}, IsOrTail (ReadAs limit) a l →
    ∀ {n : ℕ} {r : List Token}, 6 * a.length ≤ n → AfterOr r →
      Tree.parseOrTail limit n (a ++ r) = .ok (l, r)
  | _, _, .nil, 0, rest, _, _ => rfl
  | _, _, .nil, fuel + 1, [], _, _ => rfl
  | _, _, .nil, fuel + 1, o :: rest, _, hr => by
      simp [Tree.parseOrTail, hr.2 o rfl]
  | _, _, .cons (s := as) ho next more, fuel, rest, hf, hr => by
      rw [List.length_cons, List.length_append] at hf
      obtain ⟨fuel, rfl⟩ : ∃ n, fuel = n + 1 := ⟨fuel - 1, by omega⟩
      have h₁ := parseAnd_of_isAnd next (n := fuel) (r := as ++ rest) (by omega)
        (more.afterAnd hr)
      have h₂ := parseOrTail_of_isOrTail more (n := fuel) (by omega) hr
      simp [Tree.parseOrTail, ho, List.append_assoc, h₁, h₂]

theorem parseAnd_of_isAnd : ∀ {a : List Token} {t : Tree}, IsAnd (ReadAs limit) a t →
    ∀ {n : ℕ} {r : List Token}, 6 * a.length ≤ n + 2 → AfterAnd r →
      Tree.parseAnd limit n (a ++ r) = .ok (t, r)
  | _, _, .mk (a := a) (s := as) first more, fuel, rest, hf, hr => by
      have hpos := first.pos
      rw [List.length_append] at hf
      obtain ⟨fuel, rfl⟩ : ∃ n, fuel = n + 1 := ⟨fuel - 1, by omega⟩
      have h₁ := parseUnary_of_isUnary first (n := fuel) (r := as ++ rest) (by omega)
        (more.afterUnary hr)
      have h₂ := parseAndTail_of_isAndTail more (n := fuel) (by omega) hr
      simp [Tree.parseAnd, List.append_assoc, h₁, h₂]

theorem parseAndTail_of_isAndTail : ∀ {a : List Token} {l : List Tree},
    IsAndTail (ReadAs limit) a l →
    ∀ {n : ℕ} {r : List Token}, 6 * a.length ≤ n → AfterAnd r →
      Tree.parseAndTail limit n (a ++ r) = .ok (l, r)
  | _, _, .nil, 0, rest, _, _ => rfl
  | _, _, .nil, fuel + 1, [], _, _ => rfl
  | _, _, .nil, fuel + 1, o :: rest, _, hr => by
      simp [Tree.parseAndTail, hr.2 o rfl]
  | _, _, .cons (s := as) ho next more, fuel, rest, hf, hr => by
      rw [List.length_cons, List.length_append] at hf
      obtain ⟨fuel, rfl⟩ : ∃ n, fuel = n + 1 := ⟨fuel - 1, by omega⟩
      have h₁ := parseUnary_of_isUnary next (n := fuel) (r := as ++ rest) (by omega)
        (more.afterUnary hr)
      have h₂ := parseAndTail_of_isAndTail more (n := fuel) (by omega) hr
      simp [Tree.parseAndTail, ho, List.append_assoc, h₁, h₂]

theorem parseUnary_of_isUnary : ∀ {a : List Token} {t : Tree}, IsUnary (ReadAs limit) a t →
    ∀ {n : ℕ} {r : List Token}, 6 * a.length ≤ n + 3 → AfterUnary r →
      Tree.parseUnary limit n (a ++ r) = .ok (t, r)
  | _, _, .not hn operand, fuel, rest, hf, hr => by
      rw [List.length_cons] at hf
      obtain ⟨fuel, rfl⟩ : ∃ n, fuel = n + 1 := ⟨fuel - 1, by omega⟩
      have h := parseUnary_of_isUnary operand (n := fuel) (by omega) hr
      simp [Tree.parseUnary, hn, h]
  | _, _, .comparison h, fuel, rest, hf, hr => by
      have hpos := h.pos
      obtain ⟨fuel, rfl⟩ : ∃ n, fuel = n + 1 := ⟨fuel - 1, by omega⟩
      have hc := parseComparison_of_isComparison h (n := fuel) (by omega) hr
      obtain ⟨o, a', rfl, hn⟩ := h.head
      simpa [Tree.parseUnary, hn] using hc

theorem parseComparison_of_isComparison : ∀ {a : List Token} {t : Tree},
    IsComparison (ReadAs limit) a t →
    ∀ {n : ℕ} {r : List Token}, 6 * a.length ≤ n + 4 → AfterUnary r →
      Tree.parseComparison limit n (a ++ r) = .ok (t, r)
  | _, _, .operand h, fuel, rest, hf, hr => by
      have hpos := h.pos
      obtain ⟨fuel, rfl⟩ : ∃ n, fuel = n + 1 := ⟨fuel - 1, by omega⟩
      have ho := parseOperand_of_isOperand h (n := fuel) (r := rest) (by omega)
      rw [AfterUnary] at hr
      simp [Tree.parseComparison, ho, hr]
  | _, _, .compare (a := a) (o := o) (b := b) left ho right, fuel, rest, hf, _ => by
      have hpos := left.pos
      simp only [List.length_append] at hf
      obtain ⟨fuel, rfl⟩ : ∃ n, fuel = n + 1 := ⟨fuel - 1, by omega⟩
      exact parseComparison_of_operands
        (parseOperand_of_isOperand left (n := fuel) (r := o ++ (b ++ rest)) (by omega)) ho
        (parseOperand_of_isOperand right (n := fuel) (r := rest) (by omega))

theorem parseOperand_of_isOperand : ∀ {a : List Token} {t : Tree}, IsOperand (ReadAs limit) a t →
    ∀ {n : ℕ} {r : List Token}, 6 * a.length ≤ n + 5 →
      Tree.parseOperand limit n (a ++ r) = .ok (t, r)
  | _, _, .param kind, fuel, rest, hf => by
      obtain ⟨fuel, rfl⟩ : ∃ n, fuel = n + 1 := ⟨fuel - 1, by simp at hf; omega⟩
      simp [Tree.parseOperand, Token.manyDigits?, Token.atom?, kind]
  | _, _, .const h, fuel, rest, hf => by
      obtain ⟨fuel, rfl⟩ : ∃ n, fuel = n + 1 := ⟨fuel - 1, by simp at hf; omega⟩
      cases h with
      | number kind short => simp [Tree.parseOperand, short, Token.atom?, kind]
      | text kind => simp [Tree.parseOperand, Token.manyDigits?, Token.atom?, kind]
  | _, _, .true ho, fuel, rest, hf => by
      obtain ⟨fuel, rfl⟩ : ∃ n, fuel = n + 1 := ⟨fuel - 1, by simp at hf; omega⟩
      simp [Tree.parseOperand, Token.manyDigits?, Token.atom?, kind_of_isKeyword ho, ho]
  | _, _, .false (o := o) ho, fuel, rest, hf => by
      obtain ⟨fuel, rfl⟩ : ∃ n, fuel = n + 1 := ⟨fuel - 1, by simp at hf; omega⟩
      have hne : ¬ o.isKeyword "true" := by simp_all [Token.isKeyword]
      simp [Tree.parseOperand, Token.manyDigits?, Token.atom?, kind_of_isKeyword ho, ho, hne]
  | _, _, .null (o := o) ho, fuel, rest, hf => by
      obtain ⟨fuel, rfl⟩ : ∃ n, fuel = n + 1 := ⟨fuel - 1, by simp at hf; omega⟩
      have hne : ¬ o.isKeyword "true" := by simp_all [Token.isKeyword]
      have hne' : ¬ o.isKeyword "false" := by simp_all [Token.isKeyword]
      simp [Tree.parseOperand, Token.manyDigits?, Token.atom?, kind_of_isKeyword ho, ho, hne, hne']
  | _, _, .group ho inner hc, fuel, rest, hf => by
      simp only [List.length_cons, List.length_append, List.length_nil] at hf
      obtain ⟨fuel, rfl⟩ : ∃ n, fuel = n + 1 := ⟨fuel - 1, by omega⟩
      have h := parseOr_of_isOr inner (n := fuel) (by omega) (afterOr_close (r := rest) hc)
      simp [Tree.parseOperand, Token.manyDigits?, Token.atom?, kind_of_isOp ho, ho, h,
        takeOp_cons hc]
  | _, _, .list mem ho items hc, fuel, rest, hf => by
      simp only [List.length_cons, List.length_append, List.length_nil] at hf
      obtain ⟨fuel, rfl⟩ : ∃ n, fuel = n + 1 := ⟨fuel - 1, by omega⟩
      have h := parseOperand_of_isList items mem ho hc (n := fuel) (r := rest) (by omega)
      simpa using h

theorem parseOperand_of_isList : ∀ {as : List Token} {l : List Tree} {opening closing : String}
    {o c : Token}, IsList (ReadAs limit) as l → (opening, closing) ∈ brackets → o.isOp opening →
    c.isOp closing →
    ∀ {n : ℕ} {r : List Token}, 6 * as.length ≤ n →
      Tree.parseOperand limit (n + 1) (o :: (as ++ c :: r)) = .ok (.list l, r)
  | _, _, _, _, _, _, .nil, mem, ho, hc, fuel, rest, _ => by
      obtain ⟨hshort, hat, hgroup, hclose⟩ := listClose?_of_mem limit mem ho
      simp [Tree.parseOperand, hshort, hat, hgroup, hclose, takeOp_cons hc]
  | _, _, _, closing, _, c, .cons (s := as) first more, mem, ho, hc, fuel, rest, hf => by
      rw [List.length_append] at hf
      obtain ⟨hshort, hat, hgroup, hclose⟩ := listClose?_of_mem limit mem ho
      have h := parseItems_of_isListTail more first.pos
        (fun hf => parseOperand_of_isOperand first hf) mem hc (n := fuel) (r := rest)
        (by omega)
      obtain ⟨o', a', rfl, -, hne⟩ := first.head
      have ht := takeOp_ne (r := a' ++ (as ++ c :: rest)) (hne _ mem)
      simp only [List.cons_append] at h
      simp [Tree.parseOperand, hshort, hat, hgroup, hclose, ht, h]

/-- The items of a list from one of them on, given how that one is read. -/
theorem parseItems_of_isListTail : ∀ {as : List Token} {l : List Tree},
    IsListTail (ReadAs limit) as l →
    ∀ {a : List Token} {t : Tree}, 0 < a.length →
      (∀ {n : ℕ} {r : List Token}, 6 * a.length ≤ n + 5 →
        Tree.parseOperand limit n (a ++ r) = .ok (t, r)) →
      ∀ {opening closing : String} {c : Token}, (opening, closing) ∈ brackets →
      c.isOp closing → ∀ {n : ℕ} {r : List Token}, 6 * (a.length + as.length) ≤ n →
        Tree.parseItems limit n closing (a ++ (as ++ c :: r)) = .ok (t :: l, r)
  | _, _, .nil, a, t, hpos, first, _, _, c, _, hc, fuel, rest, hf => by
      obtain ⟨fuel, rfl⟩ : ∃ n, fuel = n + 1 := ⟨fuel - 1, by omega⟩
      have h := first (n := fuel) (r := c :: rest) (by omega)
      simp [Tree.parseItems, h, takeOp_cons hc]
  | _, _, .cons (o := o) (a := b) (s := bs) ho next more, a, t, hpos, first, _, closing, c, mem,
      hc, fuel, rest, hf => by
      simp only [List.length_cons, List.length_append] at hf
      obtain ⟨fuel, rfl⟩ : ∃ n, fuel = n + 1 := ⟨fuel - 1, by omega⟩
      have h₁ := first (n := fuel) (r := o :: (b ++ (bs ++ c :: rest))) (by omega)
      have h₂ := parseItems_of_isListTail more next.pos
        (fun hf => parseOperand_of_isOperand next hf) mem hc (n := fuel) (r := rest)
        (by omega)
      have hne : ¬ o.isOp closing := by
        simp only [brackets, List.mem_cons, Prod.mk.injEq, List.not_mem_nil, or_false] at mem
        rcases mem with ⟨rfl, rfl⟩ | ⟨rfl, rfl⟩ <;> simp_all [Token.isOp]
      simp [Tree.parseItems, h₁, h₂, takeOp_ne hne, takeOp_cons ho]

end

/-! ## The reader decides the grammar -/

/-- A list of tokens has a tree exactly when the grammar gives it that tree. -/
theorem ofTokens_eq_ok_iff {ts : List Token} {t : Tree} :
    Tree.ofTokens limit ts = .ok t ↔ IsOr (ReadAs limit) ts t := by
  constructor
  · intro h
    simp only [Tree.ofTokens] at h
    split_ifs at h
    split at h
    · simp at h
    · next hp =>
      obtain ⟨a, ha, hd⟩ := isOr_of_parse hp
      simp only [List.append_nil] at ha
      exact Except.ok.inj h ▸ ha ▸ hd
    · simp at h
  · intro h
    have hp := parseOr_of_isOr h (n := Tree.fuelFor ts) (by simp [Tree.fuelFor]; omega)
      afterOr_nil
    rw [List.append_nil] at hp
    have hne : ts.isEmpty = false := by
      have := h.pos
      cases ts <;> simp_all
    simp [Tree.ofTokens, hne, hp]

theorem parse_eq_ok_iff {s : String} {t : Tree} :
    Tree.parse s = .ok t ↔ ∃ ts, Token.scan s = .ok ts ∧ IsOr (ReadAs maxDigits) ts t := by
  simp only [Tree.parse, ← ofTokens_eq_ok_iff]
  cases Token.scan s <;> simp

/-- What a comparison leaves is left by the rules above it, unless it continues them. -/
lemma parseOr_of_parseComparison {fuel : ℕ} {o : Token} {ts rest : List Token} {t : Tree}
    (h : Tree.parseComparison limit fuel (o :: ts) = .ok (t, rest)) (hnot : ¬ o.saysNot)
    (hand : ∀ p ∈ rest.head?, ¬ p.saysAnd) (hor : ∀ p ∈ rest.head?, ¬ p.saysOr) :
    Tree.parseOr limit (fuel + 3) (o :: ts) = .ok (t, rest) := by
  have hu : Tree.parseUnary limit (fuel + 1) (o :: ts) = .ok (t, rest) := by
    simp [Tree.parseUnary, hnot, h]
  cases rest with
  | nil => simp [Tree.parseOr, Tree.parseAnd, hu, Tree.parseAndTail, Tree.parseOrTail, connect]
  | cons p rest =>
    have hand := hand p rfl
    have hor := hor p rfl
    simp [Tree.parseOr, Tree.parseAnd, hu, Tree.parseAndTail, Tree.parseOrTail, connect, hand, hor]

/-- A comparison is not compared again: no tree begins with two comparators in a row. -/
theorem not_isOr_of_comparators {x o y p z : List Token} {l r t : Tree} {op op' : Operator}
    (hx : IsOperand (ReadAs limit) x l) (ho : IsComparator o op)
    (hy : IsOperand (ReadAs limit) y r) (hp : IsComparator p op') :
    ¬ IsOr (ReadAs limit) (x ++ (o ++ y) ++ (p ++ z)) t := by
  intro h
  obtain ⟨first, x', rfl, hnot, -⟩ := hx.head
  set ts := first :: x' ++ (o ++ y) ++ (p ++ z) with hts
  set fuel := 6 * ts.length
  have hlen : (first :: x').length ≤ ts.length ∧ y.length ≤ ts.length := by
    simp only [hts, List.length_append]
    omega
  have hc : Tree.parseComparison limit (fuel + 1) ts = .ok (.compare op l r, p ++ z) :=
    parseComparison_of_operands (parseOperand_of_isOperand hx (by omega)) ho
      (parseOperand_of_isOperand hy (by omega))
  have hne : comparisonAhead? (p ++ z) ≠ none := by simp [comparisonAhead?_append hp]
  have hand : ∀ q ∈ (p ++ z).head?, ¬ q.saysAnd := by
    intro q hq hsays
    obtain ⟨rest, hrest⟩ := List.head?_eq_some_iff.1 hq
    exact hne (hrest ▸ afterUnary_of_saysAnd hsays)
  have hor : ∀ q ∈ (p ++ z).head?, ¬ q.saysOr := by
    intro q hq hsays
    obtain ⟨rest, hrest⟩ := List.head?_eq_some_iff.1 hq
    exact hne (hrest ▸ (afterAnd_of_saysOr hsays).1)
  have hshort : Tree.parseOr limit (fuel + 1 + 3) ts = .ok (.compare op l r, p ++ z) :=
    parseOr_of_parseComparison hc hnot hand hor
  have hfull := parseOr_of_isOr h (n := fuel + 1 + 3) (by omega) afterOr_nil
  rw [List.append_nil, hshort] at hfull
  simp only [Except.ok.injEq, Prod.mk.injEq] at hfull
  exact hne (hfull.2 ▸ rfl)

/-! ## Errors of the reader

An integer of too many digits apart, the errors are those of the library. -/

lemma isOwn_of_takeOp {due : String} {ts : List Token} {e : ExpressionError}
    (h : takeOp due ts = .error e) : e.isOwn := by
  cases ts with
  | nil =>
    obtain rfl := Except.error.inj h
    rfl
  | cons t ts =>
    rw [takeOp] at h
    split_ifs at h
    obtain rfl := Except.error.inj h
    rfl

mutual

theorem isOwn_of_parseOr : ∀ {fuel : ℕ} {ts : List Token} {e : ExpressionError},
    Tree.parseOr limit fuel ts = .error e → (∀ o ∈ ts, o.manyDigits? limit = none) → e.isOwn
  | 0, _, _, h, _ => by
      obtain rfl := Except.error.inj h
      rfl
  | fuel + 1, _, _, h, hshort => by
      simp only [Tree.parseOr, bind_eq_error] at h
      rcases h with h | ⟨⟨first, mid⟩, h₁, h | ⟨_, _, h⟩⟩
      · exact isOwn_of_parseAnd h hshort
      · obtain ⟨a, rfl, -⟩ := isAnd_of_parse h₁
        exact isOwn_of_parseOrTail h (List.forall_mem_append.mp hshort).2
      · cases h

theorem isOwn_of_parseOrTail : ∀ {fuel : ℕ} {ts : List Token} {e : ExpressionError},
    Tree.parseOrTail limit fuel ts = .error e → (∀ o ∈ ts, o.manyDigits? limit = none) → e.isOwn
  | 0, _, _, h, _ => by simp [Tree.parseOrTail] at h
  | fuel + 1, [], _, h, _ => by simp [Tree.parseOrTail] at h
  | fuel + 1, o :: ts, _, h, hshort => by
      simp only [Tree.parseOrTail] at h
      split_ifs at h
      simp only [bind_eq_error] at h
      have hshort := (List.forall_mem_cons.mp hshort).2
      rcases h with h | ⟨⟨next, mid⟩, h₁, h | ⟨_, _, h⟩⟩
      · exact isOwn_of_parseAnd h hshort
      · obtain ⟨a, rfl, -⟩ := isAnd_of_parse h₁
        exact isOwn_of_parseOrTail h (List.forall_mem_append.mp hshort).2
      · cases h

theorem isOwn_of_parseAnd : ∀ {fuel : ℕ} {ts : List Token} {e : ExpressionError},
    Tree.parseAnd limit fuel ts = .error e → (∀ o ∈ ts, o.manyDigits? limit = none) → e.isOwn
  | 0, _, _, h, _ => by
      obtain rfl := Except.error.inj h
      rfl
  | fuel + 1, _, _, h, hshort => by
      simp only [Tree.parseAnd, bind_eq_error] at h
      rcases h with h | ⟨⟨first, mid⟩, h₁, h | ⟨_, _, h⟩⟩
      · exact isOwn_of_parseUnary h hshort
      · obtain ⟨a, rfl, -⟩ := isUnary_of_parse h₁
        exact isOwn_of_parseAndTail h (List.forall_mem_append.mp hshort).2
      · cases h

theorem isOwn_of_parseAndTail : ∀ {fuel : ℕ} {ts : List Token} {e : ExpressionError},
    Tree.parseAndTail limit fuel ts = .error e → (∀ o ∈ ts, o.manyDigits? limit = none) → e.isOwn
  | 0, _, _, h, _ => by simp [Tree.parseAndTail] at h
  | fuel + 1, [], _, h, _ => by simp [Tree.parseAndTail] at h
  | fuel + 1, o :: ts, _, h, hshort => by
      simp only [Tree.parseAndTail] at h
      split_ifs at h
      simp only [bind_eq_error] at h
      have hshort := (List.forall_mem_cons.mp hshort).2
      rcases h with h | ⟨⟨next, mid⟩, h₁, h | ⟨_, _, h⟩⟩
      · exact isOwn_of_parseUnary h hshort
      · obtain ⟨a, rfl, -⟩ := isUnary_of_parse h₁
        exact isOwn_of_parseAndTail h (List.forall_mem_append.mp hshort).2
      · cases h

theorem isOwn_of_parseUnary : ∀ {fuel : ℕ} {ts : List Token} {e : ExpressionError},
    Tree.parseUnary limit fuel ts = .error e → (∀ o ∈ ts, o.manyDigits? limit = none) → e.isOwn
  | 0, _, _, h, _ | fuel + 1, [], _, h, _ => by
      obtain rfl := Except.error.inj h
      rfl
  | fuel + 1, o :: ts, _, h, hshort => by
      simp only [Tree.parseUnary] at h
      split_ifs at h
      · simp only [bind_eq_error] at h
        rcases h with h | ⟨_, _, h⟩
        · exact isOwn_of_parseUnary h (List.forall_mem_cons.mp hshort).2
        · cases h
      · exact isOwn_of_parseComparison h hshort

theorem isOwn_of_parseComparison : ∀ {fuel : ℕ} {ts : List Token} {e : ExpressionError},
    Tree.parseComparison limit fuel ts = .error e → (∀ o ∈ ts, o.manyDigits? limit = none) →
      e.isOwn
  | 0, _, _, h, _ => by
      obtain rfl := Except.error.inj h
      rfl
  | fuel + 1, _, _, h, hshort => by
      simp only [Tree.parseComparison, bind_eq_error] at h
      rcases h with h | ⟨⟨left, mid⟩, h₁, h⟩
      · exact isOwn_of_parseOperand h hshort
      · obtain ⟨a, rfl, -⟩ := isOperand_of_parse h₁
        split at h
        · cases h
        · next op rest ho =>
          obtain ⟨o, rfl, -⟩ := isComparator_of_ahead ho
          have hshort := (List.forall_mem_append.mp (List.forall_mem_append.mp hshort).2).2
          rcases bind_eq_error.mp h with h | ⟨_, _, h⟩
          · exact isOwn_of_parseOperand h hshort
          · cases h

theorem isOwn_of_parseOperand : ∀ {fuel : ℕ} {ts : List Token} {e : ExpressionError},
    Tree.parseOperand limit fuel ts = .error e → (∀ o ∈ ts, o.manyDigits? limit = none) → e.isOwn
  | 0, _, _, h, _ | fuel + 1, [], _, h, _ => by
      obtain rfl := Except.error.inj h
      rfl
  | fuel + 1, o :: ts, _, h, hshort => by
      obtain ⟨ho, hshort⟩ := List.forall_mem_cons.mp hshort
      simp only [Tree.parseOperand, ho] at h
      split at h
      · cases h
      · split_ifs at h
        · rcases bind_eq_error.mp h with h | ⟨_, _, h⟩
          · exact isOwn_of_parseOr h hshort
          · rcases bind_eq_error.mp h with h | ⟨_, _, h⟩
            · exact isOwn_of_takeOp h
            · cases h
        · split at h
          · obtain rfl := Except.error.inj h
            rfl
          · split at h
            · cases h
            · rcases bind_eq_error.mp h with h | ⟨_, _, h⟩
              · exact isOwn_of_parseItems h hshort
              · cases h

theorem isOwn_of_parseItems : ∀ {fuel : ℕ} {close : String} {ts : List Token}
    {e : ExpressionError}, Tree.parseItems limit fuel close ts = .error e →
      (∀ o ∈ ts, o.manyDigits? limit = none) → e.isOwn
  | 0, _, _, _, h, _ => by
      obtain rfl := Except.error.inj h
      rfl
  | fuel + 1, close, _, _, h, hshort => by
      simp only [Tree.parseItems, bind_eq_error] at h
      rcases h with h | ⟨⟨item, mid⟩, h₁, h⟩
      · exact isOwn_of_parseOperand h hshort
      · obtain ⟨a, rfl, -⟩ := isOperand_of_parse h₁
        have hshort := (List.forall_mem_append.mp hshort).2
        split at h
        · cases h
        · rcases bind_eq_error.mp h with h | ⟨after, hcomma, h⟩
          · exact isOwn_of_takeOp h
          · obtain ⟨o, rfl, -⟩ := isOp_of_takeOp hcomma
            rcases bind_eq_error.mp h with h | ⟨_, _, h⟩
            · exact isOwn_of_parseItems h (List.forall_mem_cons.mp hshort).2
            · cases h

end

/-- Where no integer is too long, what is refused is refused with an error of the library. -/
theorem isOwn_of_ofTokens {ts : List Token} {e : ExpressionError}
    (h : Tree.ofTokens limit ts = .error e) (hshort : ∀ o ∈ ts, o.manyDigits? limit = none) :
    e.isOwn := by
  rw [Tree.ofTokens] at h
  split_ifs at h
  · obtain rfl := Except.error.inj h
    rfl
  · split at h
    · next hparse =>
      obtain rfl := Except.error.inj h
      exact isOwn_of_parseOr hparse hshort
    · cases h
    · obtain rfl := Except.error.inj h
      rfl

end Grammar

end QueryTemplate
