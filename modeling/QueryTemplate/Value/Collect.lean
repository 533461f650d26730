import QueryTemplate.Value.Equality

/-!
# Sets and maps

Only values that cannot change may be elements of a set or keys of a map, among them tuples and
frozen records of such values, and of those that count as the same there is one.  A set keeps the
first of them; a map keeps the first key and takes the last value written under it.
-/

namespace QueryTemplate

/-- Why a value is neither element nor key. -/
inductive KeyError where
  /-- A value of this type may change. -/
  | changeable (typeName : String)
  /-- The number signals when it is compared. -/
  | signaling
  deriving DecidableEq

/-- The text of the error. -/
def KeyError.message : KeyError → String
  | .changeable typeName => "unhashable type: '" ++ typeName ++ "'"
  | .signaling => "Cannot hash a signaling NaN value"

namespace Value

mutual

/-- What keeps a value from being an element or key, if anything. -/
def keyError? : Value → Option KeyError
  | .number n => if n.isSignaling then some .signaling else none
  | .tuple xs => keyErrorAmong? xs
  | .set false xs => some (.changeable (Value.set false xs).typeName)
  | .bytes true data => some (.changeable (Value.bytes true data).typeName)
  | v@(.list _) => some (.changeable v.typeName)
  | v@(.map _ _) => some (.changeable v.typeName)
  | .record (.declared frozen) fs =>
    if frozen then keyErrorOfFields? fs
    else some (.changeable (Value.record (.declared frozen) fs).typeName)
  | .record (.model frozen) fs =>
    if frozen then keyErrorOfFields? fs
    else some (.changeable (Value.record (.model frozen) fs).typeName)
  | _ => none
termination_by structural x => x

/-- The first obstacle among the items of a tuple. -/
def keyErrorAmong? : List Value → Option KeyError
  | [] => none
  | x :: xs => (keyError? x).or (keyErrorAmong? xs)
termination_by structural x => x

/-- The first obstacle among the fields of a record that cannot change. -/
def keyErrorOfFields? : List (String × Value) → Option KeyError
  | [] => none
  | (_, v) :: fs => (keyError? v).or (keyErrorOfFields? fs)
termination_by structural x => x

end

/-- Adds an element to a set, unless one that counts as the same is there. -/
def addElement (elements : List Value) (v : Value) : Except KeyError (List Value) :=
  match v.keyError? with
  | some e => .error e
  | none => .ok (if elements.any (·.isSameKey v) then elements else elements ++ [v])

/-- Writes an entry of a map. -/
def putEntry (key value : Value) : List (Value × Value) → List (Value × Value)
  | [] => [(key, value)]
  | (k, v) :: rest =>
    if k.isSameKey key then (k, value) :: rest else (k, v) :: putEntry key value rest

/-- Writes an entry of a map whose key may be unfit. -/
def addEntry (entries : List (Value × Value)) (key value : Value) :
    Except KeyError (List (Value × Value)) :=
  match key.keyError? with
  | some e => .error e
  | none => .ok (putEntry key value entries)

/-- The set of these values. -/
def setOf (frozen : Bool) (items : List Value) : Except KeyError Value :=
  (items.foldlM addElement []).map (.set frozen)

/-- The map with these entries, written one after the other. -/
def mapOf (readOnly : Bool) (entries : List (Value × Value)) : Except KeyError Value :=
  (entries.foldlM (fun es e => addEntry es e.1 e.2) []).map (.map readOnly)

/-- The value of an entry whose key is a text. -/
def entry? (name : String) (entries : List (Value × Value)) : Option Value :=
  entries.findSome? fun
    | (.text n, v) => if n = name then some v else none
    | _ => none

end Value

end QueryTemplate
