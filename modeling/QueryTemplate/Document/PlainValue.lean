import QueryTemplate.Json.Basic
import QueryTemplate.Text.Utf8
import QueryTemplate.Value.Inspect

/-!
# Values as plain JSON

A branch may be amended with any value in place of a text.  A document shows such a value as plain
JSON, which does not tell its kind: dates and bytes become texts, tuples and sets lists, and
records objects.  The keys of a map become names of fields by rules of their own.
-/

namespace QueryTemplate

/-- Why a key of a map names no field. -/
inductive FieldNameError where
  /-- An integer has too many digits. -/
  | tooLong
  /-- A value of this type holds others and names no field. -/
  | unfit (typeName : String)
  /-- A value of this class has no JSON. -/
  | unknownClass (className : String)
  /-- Bytes hold no text: the byte at the index is the first that does not fit. -/
  | notUnicode (index : Nat) (byte : UInt8)
  deriving DecidableEq

/-- Why a value has no plain JSON. -/
inductive PlainError where
  /-- A value of this class has no JSON. -/
  | unknownClass (className : String)
  /-- Bytes hold no text. -/
  | notUnicode (flaw : Text.Flaw)
  | fieldName (e : FieldNameError)
  deriving DecidableEq

/-- The text of an error about bytes. -/
def Text.Flaw.message (f : Text.Flaw) : String :=
  match f.count? with
  | none => "incomplete utf-8 byte sequence from index " ++ toString f.index
  | some n =>
    "invalid utf-8 sequence of " ++ toString n ++ " bytes from index " ++ toString f.index

/-- The text of an error about a value of a class without JSON. -/
def unknownClassText (className : String) : String :=
  "Unable to serialize unknown type: <class '" ++ className ++ "'>"

/-- The text of an error. -/
def FieldNameError.message : FieldNameError → String
  | .tooLong => DigitsError.write.message
  | .unfit t => "\x60" ++ t ++ "\x60 not valid as object key"
  | .unknownClass c => unknownClassText c
  | .notUnicode index byte =>
    "'utf-8' codec can't decode byte 0x" ++ String.ofList (Text.hexDigits 2 byte.toNat) ++
      " in position " ++ toString index ++ ": invalid utf-8"

/-- The text of an error. -/
def PlainError.message : PlainError → String
  | .unknownClass c => unknownClassText c
  | .notUnicode flaw => flaw.message
  | .fieldName e => e.message

namespace Value

/-- Bytes as the name of a field. -/
def bytesName (data : List UInt8) : Except FieldNameError String :=
  match Text.ofBytes data with
  | .ok s => .ok s
  | .error flaw => .error (.notUnicode flaw.index (data.getD flaw.index 0))

mutual

/-- A key of a map as the name of a field.  The items of a tuple stand one after the other, and
what has no number in JSON is named like null. -/
def fieldName : Value → Except FieldNameError String
  | .null => .ok "None"
  | .bool b => .ok (if b then "true" else "false")
  | .number (.float (.finite negative m e h)) => .ok (Binary64.finite negative m e h).text
  | .number (.float _) => .ok "None"
  | .number (.fraction q) => .error (.unknownClass (Value.number (.fraction q)).className)
  | .number n => if n.hasManyDigits then .error .tooLong else .ok n.text
  | .text s => .ok s
  | .bytes _ data => bytesName data
  | .date d => .ok d.text
  | .time t => .ok t.briefText
  | .moment m => .ok m.briefText
  | .tuple xs => (itemNames xs).map (",".intercalate ·)
  | .list xs => .error (.unfit (Value.list xs).typeName)
  | .set frozen xs => .error (.unfit (Value.set frozen xs).typeName)
  | .map false es => .error (.unfit (Value.map false es).typeName)
  | v => .error (.unknownClass v.className)
termination_by structural x => x

/-- The items of a key as names. -/
def itemNames : List Value → Except FieldNameError (List String)
  | [] => .ok []
  | x :: xs => do
    let name ← fieldName x
    let names ← itemNames xs
    .ok (name :: names)
termination_by structural x => x

end

mutual

/-- A value as plain JSON, without tags. -/
def plainJson : Value → Except PlainError Json
  | .null => .ok .null
  | .bool b => .ok (.bool b)
  | .number (.int i) => .ok (.int i)
  | .number (.float x) => .ok (.float x)
  | .number (.decimal d) => .ok (.text d.text)
  | .text s => .ok (.text s)
  | .bytes _ data => ((Text.ofBytes data).map .text).mapError .notUnicode
  | .date d => .ok (.text d.text)
  | .time t => .ok (.text t.briefText)
  | .moment m => .ok (.text m.briefText)
  | .list xs => (plainItems xs).map .list
  | .tuple xs => (plainItems xs).map .list
  | .set _ xs => (plainItems xs).map .list
  | .map false es => (plainEntries es).map .object
  | .record (.declared _) fs => (plainFields fs).map .object
  | .record (.model _) fs => (plainFields fs).map .object
  | v => .error (.unknownClass v.className)
termination_by structural x => x

/-- Items as plain JSON. -/
def plainItems : List Value → Except PlainError (List Json)
  | [] => .ok []
  | x :: xs => do
    let j ← plainJson x
    let js ← plainItems xs
    .ok (j :: js)
termination_by structural x => x

/-- Entries as plain JSON.  Different keys may name one field, which then is written twice. -/
def plainEntries : List (Value × Value) → Except PlainError (List (String × Json))
  | [] => .ok []
  | (k, v) :: es => do
    let name ← k.fieldName.mapError .fieldName
    let j ← plainJson v
    let js ← plainEntries es
    .ok ((name, j) :: js)
termination_by structural x => x

/-- Fields as plain JSON. -/
def plainFields : List (String × Value) → Except PlainError (List (String × Json))
  | [] => .ok []
  | (name, v) :: fs => do
    let j ← plainJson v
    let js ← plainFields fs
    .ok ((name, j) :: js)
termination_by structural x => x

end

end Value

end QueryTemplate
