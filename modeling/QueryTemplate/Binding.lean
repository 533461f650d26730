import QueryTemplate.Value.Collect

/-!
# Parameter bindings

A statement is evaluated against a binding of names to values.  Callers hand in nothing, a map, or
a record of any kind; all of them are read as a map, and the values stay as they are.  Only a
record with validated fields is read deeply: the records inside it become maps, and it cannot be
read when one of them is an element of a set or a key.
-/

namespace QueryTemplate

/-- Values bound to names.  A binding taken from a map also keeps the entries whose key is no
text; no name finds them. -/
structure Binding where
  entries : List (Value × Value)
  deriving Inhabited

namespace Binding

/-- The binding without any name. -/
def empty : Binding := ⟨[]⟩

/-- The value bound to a name. -/
def get? (b : Binding) (name : String) : Option Value :=
  Value.entry? name b.entries

/-- Is the name bound, be it to null? -/
def contains (b : Binding) (name : String) : Bool :=
  (b.get? name).isSome

/-- The value bound to a name, or null. -/
def getD (b : Binding) (name : String) : Value :=
  (b.get? name).getD .null

/-- The shape of what is bound to a name. -/
def shape (b : Binding) (name : String) : Shape :=
  match b.get? name with
  | none => .absent
  | some v => v.shape

end Binding

mutual

/-- A value with the records inside it as maps.  Maps are neither elements of sets nor keys, so a
record among those is refused. -/
def Value.unfoldRecords : Value → Except KeyError Value
  | .list xs => (unfoldRecordItems xs).map .list
  | .tuple xs => (unfoldRecordItems xs).map .tuple
  | .set frozen xs => do
    let ys ← unfoldRecordItems xs
    match Value.keyErrorAmong? ys with
    | some e => .error e
    | none => .ok (.set frozen ys)
  | .map false es => (unfoldRecordEntries es).map (.map false)
  | .record (.declared _) fs => (unfoldRecordFields fs).map (.map false)
  | .record (.model _) fs => (unfoldRecordFields fs).map (.map false)
  | v => .ok v
termination_by structural x => x

/-- Items with the records inside them as maps. -/
def unfoldRecordItems : List Value → Except KeyError (List Value)
  | [] => .ok []
  | x :: xs => do
    let y ← x.unfoldRecords
    let ys ← unfoldRecordItems xs
    .ok (y :: ys)
termination_by structural x => x

/-- Entries with the records inside them as maps. -/
def unfoldRecordEntries : List (Value × Value) → Except KeyError (List (Value × Value))
  | [] => .ok []
  | (k, v) :: es => do
    let key ← k.unfoldRecords
    let value ← v.unfoldRecords
    match key.keyError? with
    | some e => .error e
    | none => do
      let rest ← unfoldRecordEntries es
      .ok ((key, value) :: rest)
termination_by structural x => x

/-- Fields as entries. -/
def unfoldRecordFields : List (String × Value) → Except KeyError (List (Value × Value))
  | [] => .ok []
  | (name, v) :: fs => do
    let value ← v.unfoldRecords
    let rest ← unfoldRecordFields fs
    .ok ((.text name, value) :: rest)
termination_by structural x => x

end

namespace Binding

/-- Why a value cannot be read as a binding. -/
inductive Unreadable where
  /-- A value of this type is no parameter object. -/
  | unreadable (typeName : String)
  /-- A record inside it would become a map that is an element or a key. -/
  | key (e : KeyError)
  deriving DecidableEq

/-- The text of the error. -/
def Unreadable.message : Unreadable → String
  | .unreadable t => "Cannot bind parameters from " ++ t
  | .key e => e.message

/-- Fields as entries, their values as they are. -/
def ofFields (fields : List (String × Value)) : Binding :=
  ⟨fields.map fun f => (.text f.1, f.2)⟩

/-- Reads a parameter object. -/
def ofValue : Value → Except Unreadable Binding
  | .null => .ok empty
  | .map _ es => .ok ⟨es⟩
  | .record (.model _) fs => ((unfoldRecordFields fs).map Binding.mk).mapError .key
  | .record (.declared _) fs => .ok (ofFields fs)
  | .record (.attributes _) fs => .ok (ofFields (fs.filter fun f => !f.1.startsWith "_"))
  | v => .error (.unreadable v.typeName)

end Binding

end QueryTemplate
