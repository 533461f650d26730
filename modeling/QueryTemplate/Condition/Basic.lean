import QueryTemplate.Expression.Basic

/-!
# Conditions

A condition decides, for a binding of parameters, whether a piece of text belongs to a statement.
Most conditions ask whether parameters are bound or null; others evaluate an expression, compare
one parameter with a given value, or deny conditions of their own.
-/

namespace QueryTemplate

/-- The names of one parameter or more. -/
structure Names where
  first : String
  rest : List String
  deriving DecidableEq

namespace Names

/-- The names in order. -/
def toList (ns : Names) : List String :=
  ns.first :: ns.rest

/-- The names of a list, unless it is empty. -/
def ofList? : List String → Option Names
  | [] => none
  | n :: ns => some ⟨n, ns⟩

@[simp] theorem ofList?_toList (ns : Names) : ofList? ns.toList = some ns := rfl

end Names

/-- How many of several parameters have to be bound. -/
inductive Quantity where
  | one
  | all
  deriving DecidableEq

/-- What is asked about a value: to be null or blank, or to be an empty container. -/
inductive Emptiness where
  | null
  | notNull
  | empty
  | notEmpty
  deriving DecidableEq

/-- A condition on a binding. -/
inductive Condition where
  /-- Every parameter is bound, be it to null. -/
  | hasParam (names : Names)
  /-- No parameter is bound. -/
  | hasNoParam (names : Names)
  /-- Every parameter is unbound or null. -/
  | isNull (names : Names)
  /-- Every parameter is bound to a value that is not null. -/
  | isNotNull (names : Names)
  /-- The expression has the value true. -/
  | isTrue (e : Expression)
  /-- The expression has the value false. -/
  | isFalse (e : Expression)
  /-- The parameter, which must be bound, compares with the value. -/
  | compare (name : String) (op : Operator) (value : Value)
  /-- One of the parameters is bound, or all of them. -/
  | contains (names : Names) (mode : Quantity)
  /-- The parameter is null or blank, or an empty container, or the contrary. -/
  | nullOrEmpty (name : String) (status : Emptiness)
  /-- Always or never. -/
  | literal (value : Bool)
  /-- None of the conditions holds. -/
  | noneOf (conditions : List Condition)
  deriving Inhabited

/-! ## Written names -/

/-- The written form of a quantity. -/
def Quantity.text : Quantity → String
  | .one => "one"
  | .all => "all"

/-- Both quantities. -/
def Quantity.values : List Quantity := [.one, .all]

/-- The written form of an emptiness. -/
def Emptiness.text : Emptiness → String
  | .null => "null"
  | .notNull => "not_null"
  | .empty => "empty"
  | .notEmpty => "not_empty"

/-- All four. -/
def Emptiness.values : List Emptiness := [.null, .notNull, .empty, .notEmpty]

/-- The tag of a condition in documents. -/
def Condition.tag : Condition → String
  | .hasParam _ => "has_param"
  | .hasNoParam _ => "has_no_param"
  | .isNull _ => "is_null"
  | .isNotNull _ => "is_not_null"
  | .isTrue _ => "is_true"
  | .isFalse _ => "is_false"
  | .compare _ _ _ => "compare"
  | .contains _ _ => "contains"
  | .nullOrEmpty _ _ => "null_or_empty"
  | .literal _ => "literal"
  | .noneOf _ => "none_of"

end QueryTemplate
