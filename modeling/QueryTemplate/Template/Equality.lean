import QueryTemplate.Template.Basic

/-!
# Equality of templates

Two templates are equal when their parts are, compare values by content like the items of a
container.  The parts are compared in order up to the first difference, and a compare value that
cannot be compared leaves the question open.
-/

namespace QueryTemplate

/-- One comparison and then, if it succeeds, another. -/
def andThen (a : Except Number.Undefined Bool) (b : Except Number.Undefined Bool) :
    Except Number.Undefined Bool :=
  match a with
  | .ok true => b
  | r => r

namespace Condition

mutual

/-- Equality of conditions. -/
def equal : Condition → Condition → Except Number.Undefined Bool
  | .hasParam a, .hasParam b => .ok (a == b)
  | .hasNoParam a, .hasNoParam b => .ok (a == b)
  | .isNull a, .isNull b => .ok (a == b)
  | .isNotNull a, .isNotNull b => .ok (a == b)
  | .isTrue a, .isTrue b => .ok (a.source == b.source)
  | .isFalse a, .isFalse b => .ok (a.source == b.source)
  | .compare n o v, .compare n' o' v' => if n = n' ∧ o = o' then v.equalWithin v' else .ok false
  | .contains a m, .contains b m' => .ok (a == b && m == m')
  | .nullOrEmpty n s, .nullOrEmpty n' s' => .ok (n == n' && s == s')
  | .literal a, .literal b => .ok (a == b)
  | .noneOf as, .noneOf bs => equalAll as bs
  | _, _ => .ok false
termination_by structural x => x

/-- Are the conditions equal in order, and equally many? -/
def equalAll : List Condition → List Condition → Except Number.Undefined Bool
  | [], [] => .ok true
  | a :: as, b :: bs => andThen (equal a b) (equalAll as bs)
  | _, _ => .ok false
termination_by structural x => x

end

/-- Equality of conditions that may be missing. -/
def equal? : Option Condition → Option Condition → Except Number.Undefined Bool
  | none, none => .ok true
  | some a, some b => a.equal b
  | _, _ => .ok false

end Condition

/-- Equality of alternatives, in order. -/
def Alternative.equalAll : List Alternative → List Alternative → Except Number.Undefined Bool
  | [], [] => .ok true
  | a :: as, b :: bs =>
    andThen (andThen (a.condition.equal b.condition) (.ok (a.text == b.text))) (equalAll as bs)
  | _, _ => .ok false

/-- Equality of decisions. -/
def Decision.equal : Decision → Decision → Except Number.Undefined Bool
  | .branch a, .branch b =>
    andThen (a.condition.equal b.condition)
      (andThen (.ok (a.text == b.text)) (a.elseText.equalWithin b.elseText))
  | .chain a, .chain b =>
    andThen (Alternative.equalAll a.alternatives b.alternatives)
      (andThen (.ok (a.elseText == b.elseText)) (Condition.equal? a.dangling b.dangling))
  | _, _ => .ok false

/-- Equality of segments, in order. -/
def Segment.equalAll : List Segment → List Segment → Except Number.Undefined Bool
  | [], [] => .ok true
  | .literal s :: as, .literal t :: bs => andThen (.ok (s == t)) (equalAll as bs)
  | .decision d :: as, .decision e :: bs => andThen (d.equal e) (equalAll as bs)
  | _, _ => .ok false

/-- Equality of templates. -/
def Template.equal (a b : Template) : Except Number.Undefined Bool :=
  Segment.equalAll a.segments b.segments

end QueryTemplate
