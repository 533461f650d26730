import QueryTemplate.Document.Issue
import QueryTemplate.Number.Read
import QueryTemplate.Text.Utf8

/-!
# Checks of single fields

Fields are checked leniently.  A text may be given as bytes, a truth value as one of a few words
or as one or zero, and a sequence as any list, tuple or set, or as a record that has items.
-/

namespace QueryTemplate

namespace Checked

variable {α : Type}

/-- A text, or bytes that hold one. -/
def text : Value → Checked String
  | .text s => .ok s
  | .bytes _ data =>
    match Text.ofBytes data with
    | .ok s => .ok s
    | .error _ => .fault .notUnicode
  | _ => .fault .notText

/-- A text, or nothing. -/
def optionalText : Value → Checked (Option String)
  | .null => .ok none
  | v => (text v).map some

/-- A field of a record as an item: its name and its value. -/
def fieldItem (f : String × Value) : Value :=
  .tuple [.text f.1, f.2]

/-- The items of a sequence.  Those of a record with validated fields are its fields. -/
def items (origin : Origin) : Value → Checked (List Value)
  | .list xs | .tuple xs | .set _ xs => .ok xs
  | .range p => .ok (p.items.map .int)
  | .record (.model _) fs => .ok (fs.map fieldItem)
  | _ => .fault (.notTuple origin)

/-- One of a few words. -/
def oneOf (values : List α) (word : α → String) (v : Value) : Checked α :=
  let found := match text v with
    | .ok s => values.find? fun a => word a == s
    | _ => none
  match found with
  | some a => .ok a
  | none => .fault (.notOneOf (values.map word))

/-- The nearest double-precision number. -/
def nearest : Number → Binary64
  | .int i => .round (i < 0) i.natAbs 1
  | .float x => x
  | .fraction q => if q.num = 0 then .zero false else .round (q.num < 0) q.num.natAbs q.den
  | .decimal d => d.toBinary64

/-- The integer that a double-precision number is, if it is one. -/
def integral? : Binary64 → Option Int
  | .finite negative m e _ =>
    let (num, den) := Binary64.magnitude m e
    if num % den = 0 then some (signedInt negative (num / den)) else none
  | _ => none

/-- Is an integer short enough to be looked at as one?  A document may give 18 digits, a value 64
bits. -/
def isShort (origin : Origin) (i : Int) : Bool :=
  match origin with
  | .document => i.natAbs < Nat.pow 10 18
  | .values => -Int.pow 2 63 ≤ i ∧ i < Int.pow 2 63

/-- An integer as a truth value: one or zero.  Another is read and not understood. -/
def boolOfInt : Int → Checked Bool
  | 0 => .ok false
  | 1 => .ok true
  | _ => .fault .notBoolWord

/-- A number as a truth value.  One that is no integer of its own kind has to be nearest to one
between the bounds of 64 bits. -/
def boolOfNumber (origin : Origin) : Number → Checked Bool
  | .int i => if isShort origin i then boolOfInt i else .fault .notBool
  | n =>
    match integral? (nearest n) with
    | some i => if i.natAbs < Nat.pow 2 63 then boolOfInt i else .fault .notBool
    | none => .fault .notBool

/-- A word as a truth value. -/
def boolOfWord (s : String) : Checked Bool :=
  let w := s.toLower
  if ["0", "off", "f", "false", "n", "no"].contains w then .ok false
  else if ["1", "on", "t", "true", "y", "yes"].contains w then .ok true
  else .fault .notBoolWord

/-- A truth value. -/
def bool (origin : Origin) : Value → Checked Bool
  | .bool b => .ok b
  | .number n => boolOfNumber origin n
  | .text s => boolOfWord s
  | .bytes false data =>
    match Text.ofBytes data with
    | .ok s => boolOfWord s
    | .error _ => .fault .notBoolWord
  | _ => .fault .notBool

/-- A field that has to be there. -/
def present (name : String) (entries : List (Value × Value)) (check : Value → Checked α) :
    Checked α :=
  match Value.entry? name entries with
  | none => fault .missing
  | some v => check v

/-- A field that may be left out. -/
def perhaps (name : String) (entries : List (Value × Value)) (absent : α)
    (check : Value → Checked α) : Checked α :=
  match Value.entry? name entries with
  | none => .ok absent
  | some v => check v

/-- A field that has to be there, with its path. -/
def required (name : String) (entries : List (Value × Value)) (check : Value → Checked α) :
    Checked α :=
  (present name entries check).under (.field name)

/-- A field that may be left out, with its path. -/
def optional (name : String) (entries : List (Value × Value)) (absent : α)
    (check : Value → Checked α) : Checked α :=
  (perhaps name entries absent check).under (.field name)

/-- The outcomes of items, each at its index. -/
def indexed (start : Nat) : List (Checked α) → List (Checked α)
  | [] => []
  | c :: cs => c.under (.item start) :: indexed (start + 1) cs

/-- Is a value looked at as an object with attributes?  Values of the basic kinds are not. -/
def hasAttributes : Value → Bool
  | .record _ _ | .number (.decimal _) | .number (.fraction _) => true
  | _ => false

/-- The attributes of an object that a caller may see.  A number has none. -/
def attributesOf : Value → List (String × Value)
  | .record _ fs => fs
  | _ => []

/-- The entries of a map whose key is a text, as attributes. -/
def entryAttributes (es : List (Value × Value)) : List (String × Value) :=
  es.filterMap fun
    | (.text name, v) => some (name, v)
    | _ => none

/-- The attributes of a value that is no map.  A pair of an object and a map is looked at like the
object, with the entries of the map before its own attributes. -/
def attributes? : Value → Option (List (String × Value))
  | .tuple [v, .map false es] =>
    if hasAttributes v then some (entryAttributes es ++ attributesOf v) else none
  | v => if hasAttributes v then some (attributesOf v) else none

/-- A tag in a message. -/
def tagText (tag : Value) : String :=
  match tag.displayError? with
  | none => tag.display
  | some _ => "<unprintable " ++ tag.typeName ++ " object>"

/-- Chooses by the tag of a value.  Of an object only the tag can be read, and then it turns out
not to be an instance of the class. -/
def tagged (origin : Origin) (allowed : List (String × String)) (v : Value)
    (check : String → List (Value × Value) → Checked α) : Checked α :=
  let tagFault (tag : Value) : Fault := .unknownTag (tagText tag) (allowed.map (·.1))
  match v with
  | .map _ es =>
    match Value.entry? "type" es with
    | none => fault .noTag
    | some (.text tag) =>
      if allowed.any (·.1 == tag) then (check tag es).under (.field tag)
      else fault (tagFault (.text tag))
    | some tag => fault (tagFault tag)
  | v =>
    match origin with
    | .document => fault (.notMap .document)
    | .values =>
      match attributes? v with
      | none => fault .noAttributes
      | some fs =>
        match fs.find? (·.1 == "type") with
        | none => fault .noTag
        | some (_, .text tag) =>
          match allowed.find? (·.1 == tag) with
          | some (_, className) => (fault (.notInstance className .values)).under (.field tag)
          | none => fault (tagFault (.text tag))
        | some (_, tag) => fault (tagFault tag)

/-- The fields of an object of one class. -/
def fields (origin : Origin) (className : String) (v : Value)
    (check : List (Value × Value) → Checked α) : Checked α :=
  match v with
  | .map _ es => check es
  | _ => fault (.notInstance className origin)

end Checked

end QueryTemplate
