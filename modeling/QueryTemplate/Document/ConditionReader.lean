import QueryTemplate.Condition.Inspect
import QueryTemplate.Document.Field

/-!
# Checking conditions

A condition is told by its tag, and then its fields are checked in order.  An expression has to be
readable, and a compare value may be tagged with its kind.
-/

namespace QueryTemplate

/-- What is given where a condition is due: a condition, or a value that may describe one. -/
inductive Draft where
  | built (c : Condition)
  | raw (v : Value)
  deriving Inhabited

/-- Does an error about a compare value count as an issue?  Others break the check off. -/
def DecodeError.isIssue : DecodeError → Bool
  | .unknownKind _ | .triple _ | .calendar _ _ => true
  | _ => false

namespace Checked

/-- The names of parameters, at least one.  Names that are no texts do not count. -/
def names (origin : Origin) (v : Value) : Checked Names :=
  (items origin v).bind fun xs =>
    let outcomes := xs.map text
    let checked := all (indexed 0 outcomes)
    let few : Checked Unit := if outcomes.any isOk then .ok () else fault .tooFew
    (checked.and few).bind fun r =>
      match Names.ofList? r.1 with
      | some ns => .ok ns
      | none => fault .tooFew

/-- The text of an expression. -/
def expression (v : Value) : Checked Expression :=
  (text v).bind fun s =>
    match Expression.ofSource s with
    | .ok e => .ok e
    | .error e => fault (.rejected (e.message s))

/-- A compare value. -/
def compareValue (v : Value) : Checked Value :=
  match v.decode with
  | .ok v => .ok v
  | .error e => if e.isIssue then fault (.rejected e.message) else .broken e

/-- The tags of conditions with their class names. -/
def conditionTags : List (String × String) :=
  [("has_param", "HasParamCondition"), ("has_no_param", "HasNoParamCondition"),
   ("is_null", "IsNullCondition"), ("is_not_null", "IsNotNullCondition"),
   ("is_true", "IsTrueCondition"), ("is_false", "IsFalseCondition"),
   ("compare", "CompareCondition"), ("contains", "ContainsCondition"),
   ("null_or_empty", "NullOrEmptyCondition"), ("literal", "LiteralCondition"),
   ("none_of", "NoneOfCondition")]

/-- A comparison from its checked parts. -/
def compareOf (name : Checked String) (op : Checked Operator) (value : Checked Value) :
    Checked Condition :=
  (name.and (op.and value)).map fun r => .compare r.1 r.2.1 r.2.2

/-- One of the conditions that hold no others, by its tag. -/
def simpleCondition (origin : Origin) (tag : String) (es : List (Value × Value)) :
    Checked Condition :=
  match tag with
  | "has_param" => (required "names" es (names origin)).map .hasParam
  | "has_no_param" => (required "names" es (names origin)).map .hasNoParam
  | "is_null" => (required "names" es (names origin)).map .isNull
  | "is_not_null" => (required "names" es (names origin)).map .isNotNull
  | "is_true" => (required "expression" es expression).map .isTrue
  | "is_false" => (required "expression" es expression).map .isFalse
  | "compare" =>
    compareOf (required "name" es text)
      (required "op" es (oneOf Operator.all Operator.text))
      (optional "value" es .null compareValue)
  | "contains" =>
    ((required "names" es (names origin)).and
      (optional "mode" es .one (oneOf Quantity.values Quantity.text))).map
        fun r => .contains r.1 r.2
  | "null_or_empty" =>
    ((required "name" es text).and
      (required "status" es (oneOf Emptiness.values Emptiness.text))).map
        fun r => .nullOrEmpty r.1 r.2
  | _ => (required "value" es (bool origin)).map .literal

/-- Is this the key of the inner conditions? -/
def isConditionsKey : Value → Bool
  | .text "conditions" => true
  | _ => false

mutual

/-- A condition described by a value. -/
def condition (origin : Origin) : Value → Checked Condition
  | .map readOnly es =>
    tagged origin conditionTags (.map readOnly es) fun tag es' =>
      if tag = "none_of" then (innerConditions origin es).map .noneOf
      else simpleCondition origin tag es'
  | v => tagged origin conditionTags v fun tag es => simpleCondition origin tag es
termination_by structural x => x

/-- The inner conditions among the fields of a condition. -/
def innerConditions (origin : Origin) : List (Value × Value) → Checked (List Condition)
  | [] => (fault .missing).under (.field "conditions")
  | (k, v) :: es =>
    if isConditionsKey k then (conditionItems origin v).under (.field "conditions")
    else innerConditions origin es
termination_by structural x => x

/-- The conditions that a sequence describes. -/
def conditionItems (origin : Origin) : Value → Checked (List Condition)
  | .list xs => all (indexed 0 (conditionEach origin xs))
  | .tuple xs => all (indexed 0 (conditionEach origin xs))
  | .set _ xs => all (indexed 0 (conditionEach origin xs))
  | .range p =>
    all (indexed 0 (p.items.map fun i =>
      tagged origin conditionTags (.int i) (simpleCondition origin)))
  | .record (.model _) fs =>
    all (indexed 0 (fs.map fun f =>
      tagged origin conditionTags (fieldItem f) (simpleCondition origin)))
  | _ => fault (.notTuple origin)
termination_by structural x => x

/-- What becomes of each item. -/
def conditionEach (origin : Origin) : List Value → List (Checked Condition)
  | [] => []
  | x :: xs => condition origin x :: conditionEach origin xs
termination_by structural x => x

end

/-- A condition, or a value that describes one. -/
def draft : Draft → Checked Condition
  | .built c => .ok c
  | .raw v => condition .values v

/-- A condition, or nothing. -/
def optionalDraft : Draft → Checked (Option Condition)
  | .raw .null => .ok none
  | d => (draft d).map some

end Checked

end QueryTemplate
