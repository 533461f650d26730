import QueryTemplate.Expression.Eval
import QueryTemplate.Expression.Parser

/-!
# Expressions

An expression is a text together with the tree it was read as, so a malformed text never gets
further than its reading.
-/

namespace QueryTemplate

/-- An expression of parameters. -/
structure Expression where
  source : String
  tree : Tree
  parse_source : Tree.parse source = .ok tree

namespace Expression

/-- Reads an expression. -/
def ofSource (source : String) : Except ExpressionError Expression :=
  match h : Tree.parse source with
  | .ok tree => .ok ⟨source, tree, h⟩
  | .error e => .error e

/-- Two expressions of one text are the same. -/
theorem ext_source {a b : Expression} (h : a.source = b.source) : a = b := by
  obtain ⟨s, t, ht⟩ := a
  obtain ⟨s', u, hu⟩ := b
  obtain rfl : s = s' := h
  obtain rfl : t = u := Except.ok.inj (ht.symm.trans hu)
  rfl

instance : DecidableEq Expression := fun a b =>
  if h : a.source = b.source then isTrue (ext_source h)
  else isFalse fun e => h (congrArg source e)

/-- The value of an expression under a binding. -/
def eval (e : Expression) (b : Binding) : Except ComparisonError Value :=
  e.tree.eval b

end Expression

end QueryTemplate
