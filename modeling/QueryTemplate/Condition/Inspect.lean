import QueryTemplate.Condition.Basic
import QueryTemplate.Value.Inspect

/-!
# Conditions in messages

Messages about a condition show its kind and its parts, in the form in which messages show
values.  A condition whose compare value has no form has none either.
-/

namespace QueryTemplate

/-- The form of an operator in messages. -/
def Operator.inspect (op : Operator) : String :=
  let member := match op with
    | .eq => "EQ"
    | .ne => "NEQ"
    | .gt => "GT"
    | .ge => "GE"
    | .lt => "LT"
    | .le => "LE"
    | .isIn => "IN"
    | .notIn => "NIN"
  "<CompareOp." ++ member ++ ": '" ++ op.text ++ "'>"

/-- The form of a quantity in messages. -/
def Quantity.inspect (q : Quantity) : String :=
  let member := match q with
    | .one => "ONE"
    | .all => "ALL"
  "<ContainsMode." ++ member ++ ": '" ++ q.text ++ "'>"

/-- The form of an emptiness in messages. -/
def Emptiness.inspect (e : Emptiness) : String :=
  let member := match e with
    | .null => "NULL"
    | .notNull => "NOT_NULL"
    | .empty => "EMPTY"
    | .notEmpty => "NOT_EMPTY"
  "<NullOrEmpty." ++ member ++ ": '" ++ e.text ++ "'>"

/-- Items between parentheses; a comma follows a single one. -/
def parenthesized : List String → String
  | [x] => "(" ++ x ++ ",)"
  | xs => "(" ++ ", ".intercalate xs ++ ")"

/-- The form of names in messages. -/
def Names.inspect (ns : Names) : String :=
  parenthesized (ns.toList.map Text.quoted)

/-- The name of a condition's class in messages. -/
def Condition.className : Condition → String
  | .hasParam _ => "HasParamCondition"
  | .hasNoParam _ => "HasNoParamCondition"
  | .isNull _ => "IsNullCondition"
  | .isNotNull _ => "IsNotNullCondition"
  | .isTrue _ => "IsTrueCondition"
  | .isFalse _ => "IsFalseCondition"
  | .compare _ _ _ => "CompareCondition"
  | .contains _ _ => "ContainsCondition"
  | .nullOrEmpty _ _ => "NullOrEmptyCondition"
  | .literal _ => "LiteralCondition"
  | .noneOf _ => "NoneOfCondition"

/-- A class name with named parts. -/
def named (className : String) (parts : List (String × String)) : String :=
  className ++ "(" ++ ", ".intercalate (parts.map fun p => p.1 ++ "=" ++ p.2) ++ ")"

namespace Condition

mutual

/-- The form of a condition in messages. -/
def inspect (c : Condition) : String :=
  let type := ("type", Text.quoted c.tag)
  match c with
  | .hasParam ns => named c.className [type, ("names", ns.inspect)]
  | .hasNoParam ns => named c.className [type, ("names", ns.inspect)]
  | .isNull ns => named c.className [type, ("names", ns.inspect)]
  | .isNotNull ns => named c.className [type, ("names", ns.inspect)]
  | .isTrue e => named c.className [("expression", Text.quoted e.source), type]
  | .isFalse e => named c.className [("expression", Text.quoted e.source), type]
  | .compare name op value =>
    named c.className
      [type, ("name", Text.quoted name), ("op", op.inspect), ("value", value.inspect)]
  | .contains ns mode =>
    named c.className [type, ("names", ns.inspect), ("mode", mode.inspect)]
  | .nullOrEmpty name status =>
    named c.className
      [type, ("name", Text.quoted name), ("status", status.inspect)]
  | .literal value => named c.className [type, ("value", (Value.bool value).inspect)]
  | .noneOf cs => named c.className [type, ("conditions", parenthesized (inspectAll cs))]
termination_by structural c

/-- The forms of conditions in messages. -/
def inspectAll : List Condition → List String
  | [] => []
  | c :: cs => inspect c :: inspectAll cs
termination_by structural x => x

end

mutual

/-- The first obstacle to the form of a condition. -/
def formError? : Condition → Option FormError
  | .compare _ _ value => value.formError?
  | .noneOf cs => formErrorAmong? cs
  | _ => none
termination_by structural x => x

/-- The first obstacle among conditions. -/
def formErrorAmong? : List Condition → Option FormError
  | [] => none
  | c :: cs => (formError? c).or (formErrorAmong? cs)
termination_by structural x => x

end

end Condition

end QueryTemplate
