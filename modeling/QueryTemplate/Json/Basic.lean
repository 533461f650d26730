import QueryTemplate.Number.Binary64

/-!
# JSON data

Stored templates and parameters given from outside are JSON.  Whole numbers and numbers with a
fraction or exponent are kept apart, and an object keeps its fields in order, each name once.
-/

namespace QueryTemplate

/-- A JSON value. -/
inductive Json where
  | null
  | bool (b : Bool)
  | int (i : Int)
  | float (x : Binary64)
  | text (s : String)
  | list (items : List Json)
  | object (fields : List (String × Json))
  deriving Inhabited

namespace Json

/-- Writes a field: a name that is there already keeps its place and takes the new value. -/
def putField (name : String) (value : Json) : List (String × Json) → List (String × Json)
  | [] => [(name, value)]
  | (n, v) :: rest => if n = name then (n, value) :: rest else (n, v) :: putField name value rest

/-- The object with these fields, written one after the other. -/
def ofFields (fields : List (String × Json)) : Json :=
  .object (fields.foldl (fun fs f => putField f.1 f.2 fs) [])

/-- Writing a field with a new name appends it. -/
theorem putField_of_not_mem {name : String} {value : Json} {fs : List (String × Json)}
    (h : name ∉ fs.map (·.1)) : putField name value fs = fs ++ [(name, value)] := by
  induction fs with
  | nil => rfl
  | cons f fs ih =>
    simp only [List.map_cons, List.mem_cons, not_or] at h
    rw [putField, if_neg (Ne.symm h.1), ih h.2]
    rfl

mutual

/-- How deep lists and objects are nested.  One that holds nothing does not count. -/
def nesting : Json → Nat
  | .list js => nestingOfItems js
  | .object fs => nestingOfFields fs
  | _ => 0
termination_by structural x => x

/-- The nesting of a list of these items. -/
def nestingOfItems : List Json → Nat
  | [] => 0
  | j :: js => max (nesting j + 1) (nestingOfItems js)
termination_by structural x => x

/-- The nesting of an object of these fields. -/
def nestingOfFields : List (String × Json) → Nat
  | [] => 0
  | (_, j) :: fs => max (nesting j + 1) (nestingOfFields fs)
termination_by structural x => x

end

mutual

/-- How many levels a value has, its own included. -/
def height : Json → Nat
  | .list js => heightOfItems js + 1
  | .object fs => heightOfFields fs + 1
  | _ => 1
termination_by structural x => x

/-- The levels below a list of these items. -/
def heightOfItems : List Json → Nat
  | [] => 0
  | j :: js => max (height j) (heightOfItems js)
termination_by structural x => x

/-- The levels below an object of these fields. -/
def heightOfFields : List (String × Json) → Nat
  | [] => 0
  | (_, j) :: fs => max (height j) (heightOfFields fs)
termination_by structural x => x

end

/-- The value of a field. -/
def field? (name : String) : Json → Option Json
  | .object fields => (fields.find? (·.1 == name)).map (·.2)
  | _ => none

end Json

end QueryTemplate
