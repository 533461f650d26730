import QueryTemplate.Condition.Eval
import QueryTemplate.Condition.Inspect

/-!
# Decisions

A decision chooses a text for a binding.  A branch has one condition; a chain has alternatives, of
which the first whose condition holds is chosen, and a text for the case that none does.  A chain
that ends in a condition without a text is incomplete and stands for no text at all.
-/

namespace QueryTemplate

/-- A text under a condition.  The text for the other case is checked when a branch is made, but
not when it is amended, so it can be any value; null stands for none. -/
structure Branch where
  condition : Condition
  text : String
  elseText : Value
  deriving Inhabited

/-- The branch with another text for the case that the condition does not hold. -/
def Branch.otherwise (b : Branch) (elseText : Value) : Branch :=
  { b with elseText }

/-- A text with its condition in a chain. -/
structure Alternative where
  condition : Condition
  text : String
  deriving Inhabited

/-- A choice among several texts. -/
structure Chain where
  alternatives : List Alternative
  elseText : Option String
  /-- The condition of a last alternative that has no text. -/
  dangling : Option Condition
  deriving Inhabited

namespace Chain

/-- Has every condition its text? -/
def isComplete (c : Chain) : Bool :=
  c.dangling.isNone

/-- The condition under which the text for the other case is chosen. -/
def elseCondition (c : Chain) : Condition :=
  .noneOf (c.alternatives.map (·.condition))

end Chain

/-- A place of a template whose text depends on the binding. -/
inductive Decision where
  | branch (b : Branch)
  | chain (c : Chain)
  deriving Inhabited

/-- The tag of a decision in documents. -/
def Decision.tag : Decision → String
  | .branch _ => "branch"
  | .chain _ => "chain"

end QueryTemplate
