import QueryTemplate.Condition.Basic
import QueryTemplate.Engine.Literal
import QueryTemplate.Expression.Reference
import QueryTemplate.Text.Blank

/-!
# Predicates of the template engine

The engine holds the parameters in a map `#p`.  Every condition has a predicate over that map, in
which the conditions on several parameters are connected by `and` and `or`.
-/

namespace QueryTemplate.Engine

/-- The test whether a parameter is bound. -/
def containsKey (name : String) : String :=
  "#p.containsKey('" ++ name ++ "')"

/-- The reference to a parameter. -/
def reference (name : String) : String :=
  "#p['" ++ name ++ "']"

/-- One predicate for each name, connected. -/
def forEach (connective : String) (names : Names) (predicate : String → String) : String :=
  connective.intercalate (names.toList.map predicate)

/-- A comparison.  Membership asks the container. -/
def comparison (name : String) (op : Operator) (value : Value) : String :=
  let method := if value.shape = .mapping then "containsValue" else "contains"
  let membership := literal value ++ "." ++ method ++ "(" ++ reference name ++ ")"
  match op with
  | .isIn => membership
  | .notIn => "!" ++ membership
  | op => reference name ++ " " ++ op.text ++ " " ++ literal value

/-- The test for null or a blank text, or for an empty container. -/
def emptiness (name : String) (status : Emptiness) : String :=
  let r := reference name
  let blank := "(" ++ r ++ " == null or " ++ r ++ ".toString().trim().isEmpty())"
  let container :=
    "(" ++ r ++ " instanceof T(java.util.Collection) or " ++ r ++
      " instanceof T(java.util.Map))"
  match status with
  | .null => blank
  | .notNull => "!" ++ blank
  | .empty => container ++ " and " ++ r ++ ".isEmpty()"
  | .notEmpty => container ++ " and !" ++ r ++ ".isEmpty()"

/-- The test whether an expression has a truth value. -/
def expression (e : Expression) (value : String) : String :=
  "(" ++ engineSyntax (Text.trimmed e.source) ++ ") == " ++ value

mutual

/-- The predicate of a condition. -/
def predicate : Condition → String
  | .hasParam ns => forEach " and " ns containsKey
  | .hasNoParam ns => forEach " and " ns fun n => containsKey n ++ " == false"
  | .isNull ns => forEach " and " ns fun n => reference n ++ " == null"
  | .isNotNull ns => forEach " and " ns fun n => reference n ++ " != null"
  | .isTrue e => expression e "true"
  | .isFalse e => expression e "false"
  | .compare name op value => comparison name op value
  | .contains ns .all => "(" ++ forEach " and " ns containsKey ++ ")"
  | .contains ns .one => "(" ++ forEach " or " ns containsKey ++ ")"
  | .nullOrEmpty name status => emptiness name status
  | .literal value => if value then "true" else "false"
  | .noneOf cs => if cs.isEmpty then "true" else " and ".intercalate (negations cs)
termination_by structural x => x

/-- The denials of conditions. -/
def negations : List Condition → List String
  | [] => []
  | c :: cs => ("!(" ++ predicate c ++ ")") :: negations cs
termination_by structural x => x

end

mutual

/-- The first obstacle to writing the predicate of a condition: a compare value without a
literal. -/
def predicateError? : Condition → Option FormError
  | .compare _ _ value => literalError? value
  | .noneOf cs => predicateErrorAmong? cs
  | _ => none
termination_by structural x => x

/-- The first obstacle among conditions. -/
def predicateErrorAmong? : List Condition → Option FormError
  | [] => none
  | c :: cs => (predicateError? c).or (predicateErrorAmong? cs)
termination_by structural x => x

end

end QueryTemplate.Engine
