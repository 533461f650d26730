import Mathlib.Tactic.Common
import QueryTemplate.Binding

/-!
# What is assumed of the template engine

The engine that a statement is shown to is not part of this library.  This file says how it reads
the few phrases that are relied on, and no more: two constants, literals in which two apostrophes
denote one, the test whether a parameter is bound and the reference to it, and how tightly `!`,
the comparisons, `and`, `or` and the choice bind.

    choice      := disjunction [' ? ' disjunction ':' disjunction]
    disjunction := conjunction [' or ' disjunction]
    conjunction := comparison [' and ' conjunction]
    comparison  := negation [(' == ' | ' != ') negation]
    negation    := '!' negation | operand
    operand     := 'null' | 'true' | 'false' | text | '(' choice ')'
                 | "#p.containsKey('" name "')" | "#p['" name "']"

An evaluator is anything that gives these phrases their values; what it makes of other texts is
left open, and so is what becomes of operands that are neither truth values nor compared with null.
-/

namespace QueryTemplate.Engine

/-- How loosely the outermost sign of a phrase binds, from the tightest on. -/
inductive Rank where
  | operand
  | negation
  | comparison
  | conjunction
  | disjunction
  | choice
  deriving DecidableEq

namespace Rank

/-- The next looser rank; nothing is looser than a choice. -/
def looser : Rank → Rank
  | .operand => .negation
  | .negation => .comparison
  | .comparison => .conjunction
  | .conjunction => .disjunction
  | .disjunction | .choice => .choice

/-- The next tighter rank; nothing is tighter than an operand. -/
def tighter : Rank → Rank
  | .operand | .negation => .operand
  | .comparison => .negation
  | .conjunction => .comparison
  | .disjunction => .conjunction
  | .choice => .disjunction

end Rank

/-- A sign between two phrases. -/
inductive Connective where
  | equal
  | differ
  | and
  | or
  deriving DecidableEq

namespace Connective

/-- The written form, with the blanks around it. -/
def sign : Connective → String
  | .equal => " == "
  | .differ => " != "
  | .and => " and "
  | .or => " or "

/-- The rank of what is connected.  The phrase before the sign binds more tightly. -/
def rank : Connective → Rank
  | .equal | .differ => .comparison
  | .and => .conjunction
  | .or => .disjunction

/-- The loosest rank behind the sign: a comparison has two sides, the others go on. -/
def right : Connective → Rank
  | .equal | .differ => .negation
  | .and => .conjunction
  | .or => .disjunction

/-- The truth of two connected values, as far as it is relied on. -/
def holds? : Connective → Value → Value → Option Bool
  | .equal, .bool x, .bool y => some (x == y)
  | .equal, v, .null => some v.isNull
  | .differ, .bool x, .bool y => some (x != y)
  | .differ, v, .null => some !v.isNull
  | .and, .bool x, .bool y => some (x && y)
  | .or, .bool x, .bool y => some (x || y)
  | _, _, _ => none

end Connective

/-- What a phrase means. -/
inductive Term where
  | null
  | truth (v : Bool)
  | text (s : String)
  | isBound (name : String)
  | param (name : String)
  | not (t : Term)
  | connect (op : Connective) (l r : Term)
  | choice (c l r : Term)
  deriving DecidableEq

/-- The value of a term under a binding, as far as it is relied on. -/
def Term.value (b : Binding) : Term → Option Value
  | .null => some .null
  | .truth v => some (.bool v)
  | .text s => some (.text s)
  | .isBound name => some (.bool (b.contains name))
  | .param name => some (b.getD name)
  | .not t =>
    match t.value b with
    | some (.bool v) => some (.bool !v)
    | _ => none
  | .connect op l r => do
    let x ← l.value b
    let y ← r.value b
    (op.holds? x y).map .bool
  | .choice c l r =>
    match c.value b with
    | some (.bool true) => l.value b
    | some (.bool false) => r.value b
    | _ => none

/-- The characters between the marks of a literal and those they denote. -/
inductive Doubled : List Char → List Char → Prop where
  | nil : Doubled [] []
  | plain {c : Char} {cs ds : List Char} (hc : c ≠ '\'') (h : Doubled cs ds) :
      Doubled (c :: cs) (c :: ds)
  | mark {cs ds : List Char} (h : Doubled cs ds) : Doubled ('\'' :: '\'' :: cs) ('\'' :: ds)

/-- The text is a phrase of the rank and means the term. -/
inductive Phrase : Rank → String → Term → Prop where
  | null : Phrase .operand "null" .null
  | true : Phrase .operand "true" (.truth true)
  | false : Phrase .operand "false" (.truth false)
  | text {body s : String} (h : Doubled body.toList s.toList) :
      Phrase .operand ("'" ++ body ++ "'") (.text s)
  | isBound {name : String} (h : '\'' ∉ name.toList) :
      Phrase .operand ("#p.containsKey('" ++ name ++ "')") (.isBound name)
  | param {name : String} (h : '\'' ∉ name.toList) :
      Phrase .operand ("#p['" ++ name ++ "']") (.param name)
  | group {s : String} {t : Term} (inner : Phrase .choice s t) :
      Phrase .operand ("(" ++ s ++ ")") t
  | not {s : String} {t : Term} (inner : Phrase .negation s t) :
      Phrase .negation ("!" ++ s) (.not t)
  | connect {l r : String} {t u : Term} (op : Connective) (left : Phrase op.rank.tighter l t)
      (right : Phrase op.right r u) : Phrase op.rank (l ++ op.sign ++ r) (.connect op t u)
  | choice {c l r : String} {t u v : Term} (guard : Phrase .disjunction c t)
      (left : Phrase .disjunction l u) (right : Phrase .disjunction r v) :
      Phrase .choice (c ++ " ? " ++ l ++ ":" ++ r) (.choice t u v)
  | looser {r : Rank} {s : String} {t : Term} (h : Phrase r s t) : Phrase r.looser s t

/-- An engine: whatever gives every phrase the value of its term. -/
structure Evaluator where
  value : Binding → String → Option Value
  value_of_phrase : ∀ {b : Binding} {r : Rank} {s : String} {t : Term} {v : Value},
    Phrase r s t → t.value b = some v → value b s = some v

/-- The fragment stands for the text. -/
def Evaluator.Yields (E : Evaluator) (b : Binding) (fragment text : String) : Prop :=
  ∃ s, fragment = "#\x7b" ++ s ++ "\x7d" ∧ E.value b s = some (.text text)

/-- A phrase of any rank stands where a choice may stand. -/
lemma Phrase.toChoice {r : Rank} {s : String} {t : Term} (h : Phrase r s t) :
    Phrase .choice s t := by
  cases r with
  | operand => exact h.looser.looser.looser.looser.looser
  | negation => exact h.looser.looser.looser.looser
  | comparison => exact h.looser.looser.looser
  | conjunction => exact h.looser.looser
  | disjunction => exact h.looser
  | choice => exact h

end QueryTemplate.Engine
