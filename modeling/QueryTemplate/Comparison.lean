import QueryTemplate.Value.Equality

/-!
# Comparison operators

The operators of value comparisons.  Null takes part in `>=` and `<=` as the least value, and
otherwise in no order; values without a common order satisfy no ordering operator, and membership
in what is no container is neither given nor denied.
-/

namespace QueryTemplate

/-- A comparison operator. -/
inductive Operator where
  | eq
  | ne
  | gt
  | ge
  | lt
  | le
  | isIn
  | notIn
  deriving DecidableEq

namespace Operator

/-- The written form of an operator. -/
def text : Operator → String
  | .eq => "=="
  | .ne => "!="
  | .gt => ">"
  | .ge => ">="
  | .lt => "<"
  | .le => "<="
  | .isIn => "in"
  | .notIn => "not in"

/-- All operators. -/
def all : List Operator :=
  [.eq, .ne, .gt, .ge, .lt, .le, .isIn, .notIn]

theorem mem_all (op : Operator) : op ∈ all := by
  cases op <;> decide

/-- Does an ordering operator hold of operands in this order?  The other operators never do. -/
def accepts : Operator → Ordering → Bool
  | .gt, .gt => true
  | .ge, .gt | .ge, .eq => true
  | .lt, .lt => true
  | .le, .lt | .le, .eq => true
  | _, _ => false

/-- Does an ordering operator hold of two values that are not null? -/
def holdsOrdered (op : Operator) (a b : Value) : Except ComparisonError Bool :=
  ((a.order? b).map fun o => o.any op.accepts).mapError .undefined

/-- Does an operator hold of two values, given their equality and membership? -/
def holdsWith (op : Operator) (a b : Value) (equal : Unit → Except Number.Undefined Bool)
    (member : Unit → Except ComparisonError (Option Bool)) : Except ComparisonError Bool :=
  match op with
  | .eq => (equal ()).mapError .undefined
  | .ne => ((equal ()).map not).mapError .undefined
  | .gt | .lt => if a.isNull || b.isNull then .ok false else op.holdsOrdered a b
  | .ge =>
    if a.isNull then .ok b.isNull else if b.isNull then .ok true else op.holdsOrdered a b
  | .le =>
    if b.isNull then .ok a.isNull else if a.isNull then .ok true else op.holdsOrdered a b
  | .isIn => (member ()).map (· == some true)
  | .notIn => (member ()).map (· == some false)

/-- Does an operator hold of a parameter's value and a given one? -/
def holds (op : Operator) (a b : Value) : Except ComparisonError Bool :=
  op.holdsWith a b (fun _ => a.same b) (fun _ => a.memberOf b)

end Operator

end QueryTemplate
