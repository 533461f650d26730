import QueryTemplate.Calendar.Text
import QueryTemplate.Number.Digits
import QueryTemplate.Number.Shortest
import QueryTemplate.Number.Decimal
import QueryTemplate.Text.Quoted
import QueryTemplate.Value.Basic

/-!
# Values as text

`display` is the text of a value by itself, `inspect` its form in diagnostic messages, where texts
are quoted and the kind of a value can be told.  Items of containers always have the latter form;
it also is the key by which sets are sorted for output.

Not every value has a text.  An integer of too many digits has none, and an object shows itself as
it likes or fails to.  `formError?` and `displayError?` tell the first obstacle; only without one
are `inspect` and `display` what the program writes, so every use asks for the obstacle first.
-/

namespace QueryTemplate

/-- The text of a fraction: the denominator only when it is not one. -/
def fractionText (q : Rat) : String :=
  if q.den = 1 then toString q.num else toString q.num ++ "/" ++ toString q.den

/-- The text of a number. -/
def Number.text : Number → String
  | .int i => toString i
  | .float x => x.text
  | .fraction q => fractionText q
  | .decimal d => d.text

/-- The form of a number in messages. -/
def Number.inspect : Number → String
  | .int i => toString i
  | .float x => x.text
  | .fraction q => "Fraction(" ++ toString q.num ++ ", " ++ toString q.den ++ ")"
  | .decimal d => "Decimal('" ++ d.text ++ "')"

/-! ## Values without a text -/

/-- Why a value has no form in messages, or no text. -/
inductive FormError where
  /-- An integer has too many digits. -/
  | tooLong
  /-- An object fails to show itself, with this message. -/
  | object (message : String)
  deriving DecidableEq

/-- The text of the error. -/
def FormError.message : FormError → String
  | .tooLong => DigitsError.write.message
  | .object message => message

/-- The text that an object shows; nothing where it fails. -/
def Showing.answer : Showing → String
  | .text s => s
  | .fails _ => ""

/-- The error of an object that fails to show itself. -/
def Showing.error? : Showing → Option FormError
  | .text _ => none
  | .fails message => some (.object message)

/-- Has one of the integers of a fraction, or an integer, too many digits? -/
def Number.hasManyDigits : Number → Bool
  | .int i => QueryTemplate.hasManyDigits i
  | .fraction q => QueryTemplate.hasManyDigits q.num || QueryTemplate.hasManyDigits q.den
  | .float _ | .decimal _ => false

/-- The obstacle to the form of a number. -/
def Number.formError? (n : Number) : Option FormError :=
  if n.hasManyDigits then some .tooLong else none

/-- Has one of the numbers that a progression shows too many digits? -/
def Progression.hasManyDigits (p : Progression) : Bool :=
  QueryTemplate.hasManyDigits p.start || QueryTemplate.hasManyDigits p.stop ||
    QueryTemplate.hasManyDigits p.step

namespace Value

mutual

/-- The form of a value in messages. -/
def inspect : Value → String
  | .null => "None"
  | .bool b => if b then "True" else "False"
  | .number n => n.inspect
  | .text s => Text.quoted s
  | .list xs => "[" ++ ", ".intercalate (inspectItems xs) ++ "]"
  | .tuple [x] => "(" ++ x.inspect ++ ",)"
  | .tuple xs => "(" ++ ", ".intercalate (inspectItems xs) ++ ")"
  | .range p =>
    let ends := [toString p.start, toString p.stop]
    let step := if p.step = 1 then [] else [toString p.step]
    "range(" ++ ", ".intercalate (ends ++ step) ++ ")"
  | .set frozen xs =>
    if xs.isEmpty then if frozen then "frozenset()" else "set()"
    else
      let body := "\x7b" ++ ", ".intercalate (inspectItems xs) ++ "\x7d"
      if frozen then "frozenset(" ++ body ++ ")" else body
  | .map readOnly es =>
    let body := "\x7b" ++ ", ".intercalate (inspectEntries es) ++ "\x7d"
    if readOnly then "mappingproxy(" ++ body ++ ")" else body
  | .bytes growable data =>
    let body := "b" ++ Text.quotedBytes growable data
    if growable then "bytearray(" ++ body ++ ")" else body
  | .date d => d.form
  | .time t => t.form
  | .moment m => m.form
  | .record (.attributes shown) _ => shown.form.answer
  | .record (.declared _) fs => "Data(" ++ ", ".intercalate (inspectFields fs) ++ ")"
  | .record (.model _) fs => "Model(" ++ ", ".intercalate (inspectFields fs) ++ ")"

/-- The forms of items. -/
def inspectItems : List Value → List String
  | [] => []
  | x :: xs => x.inspect :: inspectItems xs

/-- The forms of the entries of a map. -/
def inspectEntries : List (Value × Value) → List String
  | [] => []
  | (k, v) :: es => (k.inspect ++ ": " ++ v.inspect) :: inspectEntries es

/-- The forms of the fields of a record. -/
def inspectFields : List (String × Value) → List String
  | [] => []
  | (name, v) :: fs => (name ++ "=" ++ v.inspect) :: inspectFields fs

end

/-- The text of a value. -/
def display : Value → String
  | .number n => n.text
  | .text s => s
  | .date d => d.text
  | .time t => t.text
  | .moment m => m.textWith " "
  | .map true es => (Value.map false es).inspect
  | .record (.attributes shown) _ => shown.text.answer
  | .record (.model _) fs => " ".intercalate (inspectFields fs)
  | v => v.inspect

/-! ## Obstacles -/

mutual

/-- The first obstacle to the form of a value in messages. -/
def formError? : Value → Option FormError
  | .number n => n.formError?
  | .list xs => formErrorAmong? xs
  | .tuple xs => formErrorAmong? xs
  | .set _ xs => formErrorAmong? xs
  | .range p => if p.hasManyDigits then some .tooLong else none
  | .map _ es => formErrorOfEntries? es
  | .record (.attributes shown) _ => shown.form.error?
  | .record (.declared _) fs => formErrorOfFields? fs
  | .record (.model _) fs => formErrorOfFields? fs
  | _ => none
termination_by structural x => x

/-- The first obstacle among items. -/
def formErrorAmong? : List Value → Option FormError
  | [] => none
  | x :: xs => (formError? x).or (formErrorAmong? xs)
termination_by structural x => x

/-- The first obstacle among the entries of a map. -/
def formErrorOfEntries? : List (Value × Value) → Option FormError
  | [] => none
  | (k, v) :: es => (formError? k).or ((formError? v).or (formErrorOfEntries? es))
termination_by structural x => x

/-- The first obstacle among the fields of a record. -/
def formErrorOfFields? : List (String × Value) → Option FormError
  | [] => none
  | (_, v) :: fs => (formError? v).or (formErrorOfFields? fs)
termination_by structural x => x

end

/-- The obstacle to the text of a value. -/
def displayError? : Value → Option FormError
  | .record (.attributes shown) _ => shown.text.error?
  | v => v.formError?

/-- What became of the elements of a set, in the order of the elements' forms. -/
def inFormOrder {α : Type} (elements : List Value) (outcomes : List α) : List α :=
  let keyed := (elements.map inspect).zip outcomes
  (keyed.mergeSort fun a b => !decide (b.1 < a.1)).map (·.2)

end Value

end QueryTemplate
