import QueryTemplate.Calendar.Basic
import QueryTemplate.Number.Basic
import QueryTemplate.Number.Progression

/-!
# Parameter values

Parameters are typed at run time.  Every rule that depends on the kind of a value asks for its
`Shape`, one of a closed set; a value outside the set is unsupported, and rules that need a
container, a number or a text simply do not hold of it.

Sequences are lists, tuples and progressions; all records of a kind are of classes of one name.
-/

namespace QueryTemplate

/-- What an object answers when it is to show itself. -/
inductive Showing where
  | text (s : String)
  /-- It fails with this message. -/
  | fails (message : String)
  deriving DecidableEq

/-- How an object shows itself: its form in messages, and its text. -/
structure Appearance where
  form : Showing
  text : Showing
  deriving DecidableEq

/-- How a record holds its fields. -/
inductive RecordKind where
  /-- An object with attributes.  Its appearance is its own and need not follow from them. -/
  | attributes (shown : Appearance)
  /-- A record with declared fields. -/
  | declared (frozen : Bool)
  /-- A record whose fields are validated. -/
  | model (frozen : Bool)
  deriving DecidableEq

/-- A parameter value.  The elements of a set are pairwise different, and so are the keys of a
map; both keep the order in which they came. -/
inductive Value where
  | null
  | bool (b : Bool)
  | number (n : Number)
  | text (s : String)
  | list (items : List Value)
  | tuple (items : List Value)
  | range (p : Progression)
  | set (frozen : Bool) (elements : List Value)
  | map (readOnly : Bool) (entries : List (Value × Value))
  | bytes (growable : Bool) (data : List UInt8)
  | date (d : Date)
  | time (t : Time)
  | moment (m : Moment)
  | record (kind : RecordKind) (fields : List (String × Value))
  deriving Inhabited

/-- What a predicate can tell about a value. -/
inductive Shape where
  | absent
  | null
  | boolean
  | number
  | string
  | sequence
  | set
  | mapping
  | unsupported
  deriving DecidableEq

/-- The name of a shape. -/
def Shape.text : Shape → String
  | .absent => "absent"
  | .null => "null"
  | .boolean => "boolean"
  | .number => "number"
  | .string => "string"
  | .sequence => "sequence"
  | .set => "set"
  | .mapping => "mapping"
  | .unsupported => "unsupported"

/-- Sequences, sets and mappings have items. -/
def Shape.isContainer : Shape → Bool
  | .sequence | .set | .mapping => true
  | _ => false

namespace Value

/-- An integer. -/
def int (i : Int) : Value :=
  .number (.int i)

/-- The shape of a value. -/
def shape : Value → Shape
  | .null => .null
  | .bool _ => .boolean
  | .number _ => .number
  | .text _ => .string
  | .list _ | .tuple _ | .range _ => .sequence
  | .set _ _ => .set
  | .map _ _ => .mapping
  | .bytes _ _ | .date _ | .time _ | .moment _ | .record _ _ => .unsupported

/-- The items a membership test runs against; those of a mapping are its values. -/
def items? : Value → Option (List Value)
  | .list xs | .tuple xs | .set _ xs => some xs
  | .range p => some (p.items.map .int)
  | .map _ es => some (es.map (·.2))
  | _ => none

/-- Are there more items than can be counted? -/
def hasTooManyItems : Value → Bool
  | .range p => Nat.pow 2 63 ≤ p.count
  | _ => false

/-- Exactly the containers have items. -/
theorem isSome_items? (v : Value) : v.items?.isSome = v.shape.isContainer := by
  cases v <;> rfl

/-- Is this the null value? -/
def isNull : Value → Bool
  | .null => true
  | _ => false

/-- Is this a truth value? -/
def isBool : Value → Bool
  | .bool _ => true
  | _ => false

/-- Is this exactly the truth value `true`? -/
def isTrue : Value → Bool
  | .bool b => b
  | _ => false

/-- Is this exactly the truth value `false`? -/
def isFalse : Value → Bool
  | .bool b => !b
  | _ => false

/-- A truth value counts as one or zero where numbers are compared. -/
def number? : Value → Option Number
  | .bool b => some (.int (if b then 1 else 0))
  | .number n => some n
  | _ => none

/-- The name of a value's type in messages. -/
def typeName : Value → String
  | .null => "NoneType"
  | .bool _ => "bool"
  | .number (.int _) => "int"
  | .number (.float _) => "float"
  | .number (.fraction _) => "Fraction"
  | .number (.decimal _) => "Decimal"
  | .text _ => "str"
  | .list _ => "list"
  | .tuple _ => "tuple"
  | .range _ => "range"
  | .set frozen _ => if frozen then "frozenset" else "set"
  | .map readOnly _ => if readOnly then "mappingproxy" else "dict"
  | .bytes growable _ => if growable then "bytearray" else "bytes"
  | .date _ => "date"
  | .time _ => "time"
  | .moment _ => "datetime"
  | .record (.attributes _) _ => "Obj"
  | .record (.declared _) _ => "Data"
  | .record (.model _) _ => "Model"

/-- The name of a value's type with the module that defines it, where messages show it. -/
def qualifiedTypeName (v : Value) : String :=
  match v with
  | .number (.decimal _) => "decimal.Decimal"
  | .date _ | .time _ | .moment _ => "datetime." ++ v.typeName
  | _ => v.typeName

/-- The name of a value's class in messages about classes: every class that is not built in is
shown with its module. -/
def className (v : Value) : String :=
  match v with
  | .number (.fraction _) => "fractions.Fraction"
  | v => v.qualifiedTypeName

/-- Does the value count as something?  Null, false, zero and what is empty do not. -/
def isTruthy : Value → Bool
  | .null => false
  | .bool b => b
  | .number (.int i) => i != 0
  | .number (.float (.finite _ m _ _)) => m != 0
  | .number (.float _) => true
  | .number (.fraction q) => q != 0
  | .number (.decimal (.finite _ c _)) => c != 0
  | .number (.decimal _) => true
  | .text s => s != ""
  | .list xs | .tuple xs | .set _ xs => !xs.isEmpty
  | .range p => p.count != 0
  | .map _ es => !es.isEmpty
  | .bytes _ data => !data.isEmpty
  | .date _ | .time _ | .moment _ | .record _ _ => true

end Value

end QueryTemplate
