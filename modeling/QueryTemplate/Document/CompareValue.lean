import QueryTemplate.Calendar.Read
import QueryTemplate.Calendar.Text
import QueryTemplate.Json.Basic
import QueryTemplate.Number.Decimal
import QueryTemplate.Value.Collect
import QueryTemplate.Value.Inspect

/-!
# Compare values in documents

JSON has no decimals, dates, tuples or sets.  In a document such a value is an object of two
fields, its kind and its text or items, and `decode` takes it back to the value it was written
from.  `encode` refuses a value that has no form in JSON; `decode` leaves values alone that are
not tagged, so plain values and documents can be read alike.
-/

namespace QueryTemplate

/-- Why a compare value cannot be written to a document. -/
inductive EncodeError where
  | keyNotText
  /-- An element by whose form a set is sorted has none. -/
  | noForm (e : FormError)
  | unsupported (typeName : String)
  deriving DecidableEq

/-- The text of an error. -/
def EncodeError.message : EncodeError → String
  | .keyNotText => "Mapping compare values must have string keys"
  | .noForm e => e.message
  | .unsupported t => "Compare value of type " ++ t ++ " cannot be serialized"

namespace Value

/-- An object that tells the kind of what it holds. -/
def tagged (kind : String) (value : Json) : Json :=
  .object [("$kind", .text kind), ("value", value)]

mutual

/-- A compare value as JSON. -/
def encode : Value → Except EncodeError Json
  | .null => .ok .null
  | .bool b => .ok (.bool b)
  | .number (.int i) => .ok (.int i)
  | .number (.float x) => .ok (.float x)
  | .number (.decimal d) => .ok (tagged "decimal" (.text d.text))
  | .text s => .ok (.text s)
  | .moment m => .ok (tagged "datetime" (.text m.text))
  | .date d => .ok (tagged "date" (.text d.text))
  | .time t => .ok (tagged "time" (.text t.text))
  | .list xs => ((encodeEach xs).mapM id).map .list
  | .tuple xs => ((encodeEach xs).mapM id).map fun js => tagged "tuple" (.list js)
  | .set _ xs =>
    match formErrorAmong? xs with
    | some e => .error (.noForm e)
    | none => ((inFormOrder xs (encodeEach xs)).mapM id).map fun js => tagged "set" (.list js)
  | .map _ es =>
    if es.all fun e => e.1.shape == .string then (encodeEntries es).map .object
    else .error .keyNotText
  | .number (.fraction q) => .error (.unsupported (Value.number (.fraction q)).typeName)
  | .range p => .error (.unsupported (Value.range p).typeName)
  | .bytes growable data => .error (.unsupported (Value.bytes growable data).typeName)
  | .record kind fs => .error (.unsupported (Value.record kind fs).typeName)
termination_by structural x => x

/-- What becomes of each item. -/
def encodeEach : List Value → List (Except EncodeError Json)
  | [] => []
  | x :: xs => encode x :: encodeEach xs
termination_by structural x => x

/-- The entries of a map whose keys are texts. -/
def encodeEntries : List (Value × Value) → Except EncodeError (List (String × Json))
  | [] => .ok []
  | (k, v) :: es => do
    let j ← encode v
    let js ← encodeEntries es
    .ok ((k.display, j) :: js)
termination_by structural x => x

end

end Value

/-! ## Decoding -/

/-- Why a triple of sign, digits and exponent is no decimal number. -/
inductive TripleError where
  | length
  | sign
  | special
  | exponent
  | digits
  deriving DecidableEq

/-- The text of an error. -/
def TripleError.message : TripleError → String
  | .length => "argument must be a sequence of length 3"
  | .sign => "sign must be an integer with the value 0 or 1"
  | .special => "string argument in the third position must be 'F', 'n' or 'N'"
  | .exponent => "exponent must be an integer"
  | .digits => "coefficient must be a tuple of digits"

/-- Why a tagged compare value cannot be read. -/
inductive DecodeError where
  | unknownKind (kind : String)
  | triple (e : TripleError)
  /-- A number of a triple does not fit a machine word of this type. -/
  | tooLarge (wordType : String)
  | decimal (e : Decimal.ReadError)
  /-- A value of this type is no decimal number. -/
  | notNumeric (typeName : String)
  /-- The text is no date or time. -/
  | calendar (text : String) (e : CalendarError)
  /-- A date or time is not written as a text. -/
  | notText
  /-- A value of this type has no items. -/
  | notIterable (typeName : String)
  | key (e : KeyError)
  deriving DecidableEq

/-- The text of an error about a written date or time. -/
def CalendarError.message (text : String) : CalendarError → String
  | .malformed => "Invalid isoformat string: " ++ Text.quoted text
  | .yearOutOfRange year => "year " ++ toString year ++ " is out of range"
  | .monthOutOfRange => "month must be in 1..12"
  | .dayOutOfRange => "day is out of range for month"
  | .hourOutOfRange => "hour must be in 0..23"
  | .minuteOutOfRange => "minute must be in 0..59"
  | .secondOutOfRange => "second must be in 0..59"
  | .offsetOutOfRange n =>
    "offset must be a timedelta strictly between -timedelta(hours=24) and timedelta(hours=24), not "
      ++ durationForm n ++ "."

/-- The text of an error. -/
def DecodeError.message : DecodeError → String
  | .unknownKind kind => "Unknown compare value kind: " ++ kind
  | .triple e => e.message
  | .tooLarge t => "Python int too large to convert to C " ++ t
  | .decimal .malformed => "[<class 'decimal.ConversionSyntax'>]"
  | .decimal .outOfRange => "[<class 'decimal.InvalidOperation'>]"
  | .notNumeric t => "conversion from " ++ t ++ " to Decimal is not supported"
  | .calendar text e => e.message text
  | .notText => "fromisoformat: argument must be str"
  | .notIterable t => "'" ++ t ++ "' object is not iterable"
  | .key e => e.message

namespace Value

/-- An integer or truth value as an integer. -/
def int? : Value → Option Int
  | .bool b => some (if b then 1 else 0)
  | .number (.int i) => some i
  | _ => none

/-- An integer that fits a machine word. -/
def word (wordType : String) (i : Int) : Except DecodeError Int :=
  if -Int.pow 2 63 ≤ i ∧ i < Int.pow 2 63 then .ok i else .error (.tooLarge wordType)

/-- A digit of a coefficient. -/
def digit (v : Value) : Except DecodeError Nat :=
  match v.int? with
  | none => .error (.triple .digits)
  | some i => do
    let i ← word "long" i
    if 0 ≤ i ∧ i ≤ 9 then .ok i.toNat else .error (.triple .digits)

/-- A decimal number from its sign, digits and exponent.  A letter instead of the exponent makes
it infinite or no number. -/
def decimalOfTriple : List Value → Except DecodeError Decimal
  | [sign, digits, exponent] => do
    let negative ← match sign.int? with
      | none => .error (.triple .sign)
      | some i => do
        let i ← word "long" i
        if i = 0 then .ok false else if i = 1 then .ok true else .error (.triple .sign)
    let power : Option Int ← match exponent with
      | .text "F" | .text "n" | .text "N" => .ok none
      | .text _ => .error (.triple .special)
      | e => match e.int? with
        | some i => (word "ssize_t" i).map some
        | none => .error (.triple .exponent)
    let ds ← match digits with
      | .list xs | .tuple xs => xs.mapM digit
      | _ => .error (.triple .digits)
    let coefficient := ds.foldl (fun n d => 10 * n + d) 0
    match power, exponent with
    | some e, _ => (Decimal.checked negative coefficient e).mapError .decimal
    | none, .text "F" => .ok (.infinite negative)
    | none, .text "N" => .ok (.nan negative true coefficient none)
    | none, _ => .ok (.nan negative false coefficient none)
  | _ => .error (.triple .length)

/-- The decimal number that a value is converted to. -/
def toDecimal : Value → Except DecodeError Decimal
  | .text s => (Decimal.read s).mapError .decimal
  | .bool b => .ok (.ofInt (if b then 1 else 0))
  | .number (.int i) => .ok (.ofInt i)
  | .number (.float x) => .ok (.ofBinary64 x)
  | .number (.decimal d) => .ok d
  | .list xs | .tuple xs => decimalOfTriple xs
  | v => .error (.notNumeric v.qualifiedTypeName)

/-- Reads a date or time that has to be written as a text. -/
def readCalendar {α : Type} (read : String → Except CalendarError α) (make : α → Value) :
    Value → Except DecodeError Value
  | .text s => match read s with
    | .ok a => .ok (make a)
    | .error e => .error (.calendar s e)
  | _ => .error .notText

/-- What is built from the content of a tagged value, given what becomes of its items. -/
def ofKind (kind : String) (raw : Value)
    (items : Except DecodeError (List (Except DecodeError Value))) : Except DecodeError Value :=
  match kind with
  | "decimal" => raw.toDecimal.map fun d => .number (.decimal d)
  | "datetime" => readCalendar Moment.read .moment raw
  | "date" => readCalendar Date.read .date raw
  | "time" => readCalendar Time.read .time raw
  | "tuple" => do .ok (.tuple (← (← items).mapM id))
  | "set" => do
    let add (elements : List Value) (item : Except DecodeError Value) :
        Except DecodeError (List Value) := do
      (addElement elements (← item)).mapError .key
    .ok (.set true (← (← items).foldlM add []))
  | _ => .error (.unknownKind kind)

mutual

/-- The value that a compare value of a document stands for. -/
def decode : Value → Except DecodeError Value
  | .list xs => ((decodeEach xs).mapM id).map .list
  | .map readOnly [(k, v), (l, w)] =>
    match k, v, l, w with
    | .text "$kind", .text kind, .text "value", raw => ofKind kind raw (decodeItems raw)
    | .text "value", raw, .text "$kind", .text kind => ofKind kind raw (decodeItems raw)
    | k, v, l, w =>
      if readOnly then .ok (.map true [(k, v), (l, w)])
      else do .ok (.map false [(k, ← decode v), (l, ← decode w)])
  | .map true es => .ok (.map true es)
  | .map false es => (decodeEntries es).map (.map false)
  | v => .ok v
termination_by structural x => x

/-- What becomes of the items of a value when it is the content of a tuple or set. -/
def decodeItems : Value → Except DecodeError (List (Except DecodeError Value))
  | .list xs => .ok (decodeEach xs)
  | .tuple xs => .ok (decodeEach xs)
  | .set _ xs => .ok (decodeEach xs)
  | .range p => .ok (p.items.map fun i => .ok (.int i))
  | .text s => .ok (s.toList.map fun c => .ok (.text (String.singleton c)))
  | .map _ es => .ok (es.map fun e => .ok e.1)
  | .bytes _ data => .ok (data.map fun b => .ok (.int b.toNat))
  | .record (.model _) fs => .ok (fs.map fun f => .ok (.tuple [.text f.1, f.2]))
  | v => .error (.notIterable v.qualifiedTypeName)
termination_by structural x => x

/-- What becomes of each item. -/
def decodeEach : List Value → List (Except DecodeError Value)
  | [] => []
  | x :: xs => decode x :: decodeEach xs
termination_by structural x => x

/-- The entries of a map, with their values decoded. -/
def decodeEntries : List (Value × Value) → Except DecodeError (List (Value × Value))
  | [] => .ok []
  | (k, v) :: es => do
    let v ← decode v
    let es ← decodeEntries es
    .ok ((k, v) :: es)
termination_by structural x => x

end

mutual

/-- The value that JSON data denotes by itself. -/
def ofJson : Json → Value
  | .null => .null
  | .bool b => .bool b
  | .int i => .int i
  | .float x => .number (.float x)
  | .text s => .text s
  | .list js => .list (ofJsonItems js)
  | .object fs => .map false (ofJsonFields fs)
termination_by structural x => x

/-- The values of items. -/
def ofJsonItems : List Json → List Value
  | [] => []
  | j :: js => ofJson j :: ofJsonItems js
termination_by structural x => x

/-- The entries of an object. -/
def ofJsonFields : List (String × Json) → List (Value × Value)
  | [] => []
  | (name, j) :: fs => (.text name, ofJson j) :: ofJsonFields fs
termination_by structural x => x

end

end Value

end QueryTemplate
