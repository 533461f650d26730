import QueryTemplate.Document.CompareValue

/-!
# Issues of checked input

Documents and values that stand for conditions, decisions or templates are checked part by
part.  All issues of an input are reported, in the order of its parts, each with the path to its
place.  A compare value that cannot be read for another reason than its text breaks the check off.
-/

namespace QueryTemplate

/-- Where checked input comes from.  Messages about its structure differ. -/
inductive Origin where
  | document
  | values
  deriving DecidableEq

/-- A step on the path to a part. -/
inductive Step where
  | field (name : String)
  | item (index : Nat)
  deriving DecidableEq

/-- What is wrong with a part. -/
inductive Fault where
  | missing
  | notText
  /-- Bytes that do not hold a text. -/
  | notUnicode
  | notTuple (origin : Origin)
  | tooFew
  | notOneOf (allowed : List String)
  | notBool
  /-- A text or number that says neither yes nor no. -/
  | notBoolWord
  | unknownTag (tag : String) (allowed : List String)
  | noTag
  /-- Neither an object nor an instance of the class. -/
  | notInstance (className : String) (origin : Origin)
  | notMap (origin : Origin)
  /-- Neither a map nor an object with attributes. -/
  | noAttributes
  /-- The part has the right type and is rejected for what it says. -/
  | rejected (message : String)
  deriving DecidableEq

/-- Alternatives in a sentence, the last two joined by "or". -/
def alternatives : List String → String
  | [] => ""
  | [a] => a
  | [a, b] => a ++ " or " ++ b
  | a :: rest => a ++ ", " ++ alternatives rest

/-- A text between apostrophes. -/
def apostrophized (s : String) : String :=
  "'" ++ s ++ "'"

namespace Fault

/-- The code of a fault. -/
def code : Fault → String
  | .missing => "missing"
  | .notText => "string_type"
  | .notUnicode => "string_unicode"
  | .notTuple _ => "tuple_type"
  | .tooFew => "too_short"
  | .notOneOf _ => "enum"
  | .notBool => "bool_type"
  | .notBoolWord => "bool_parsing"
  | .unknownTag _ _ => "union_tag_invalid"
  | .noTag => "union_tag_not_found"
  | .notInstance _ _ => "model_type"
  | .notMap _ => "dict_type"
  | .noAttributes => "model_attributes_type"
  | .rejected _ => "value_error"

/-- The text of a fault. -/
def message : Fault → String
  | .missing => "Field required"
  | .notText => "Input should be a valid string"
  | .notUnicode =>
    "Input should be a valid string, unable to parse raw data as a unicode string"
  | .notTuple .document => "Input should be a valid array"
  | .notTuple .values => "Input should be a valid tuple"
  | .tooFew => "Tuple should have at least 1 item after validation, not 0"
  | .notOneOf allowed => "Input should be " ++ alternatives (allowed.map apostrophized)
  | .notBool => "Input should be a valid boolean"
  | .notBoolWord => "Input should be a valid boolean, unable to interpret input"
  | .unknownTag tag allowed =>
    "Input tag '" ++ tag ++ "' found using 'type' does not match any of the expected tags: " ++
      ", ".intercalate (allowed.map apostrophized)
  | .noTag => "Unable to extract tag using discriminator 'type'"
  | .notInstance _ .document => "Input should be an object"
  | .notInstance className .values =>
    "Input should be a valid dictionary or instance of " ++ className
  | .notMap .document => "Input should be an object"
  | .notMap .values => "Input should be a valid dictionary"
  | .noAttributes => "Input should be a valid dictionary or object to extract fields from"
  | .rejected message => "Value error, " ++ message

end Fault

/-- A fault and the path to its place. -/
structure Issue where
  path : List Step
  fault : Fault
  deriving DecidableEq

/-- The outcome of a check. -/
inductive Checked (α : Type) where
  | ok (a : α)
  | issues (all : List Issue)
  /-- The check was broken off. -/
  | broken (e : DecodeError)
  deriving Inhabited

namespace Checked

variable {α β : Type}

/-- A single issue at the place itself. -/
def fault (f : Fault) : Checked α :=
  .issues [⟨[], f⟩]

/-- The outcome with its value changed. -/
def map (f : α → β) : Checked α → Checked β
  | .ok a => .ok (f a)
  | .issues is => .issues is
  | .broken e => .broken e

/-- The outcome of checking a part that stands one step further in. -/
def under (step : Step) : Checked α → Checked α
  | .issues is => .issues (is.map fun i => { i with path := step :: i.path })
  | c => c

/-- One check and then another; the issues of both are kept. -/
def and : Checked α → Checked β → Checked (α × β)
  | .broken e, _ => .broken e
  | .ok _, .broken e => .broken e
  | .issues _, .broken e => .broken e
  | .ok a, .ok b => .ok (a, b)
  | .ok _, .issues js => .issues js
  | .issues is, .ok _ => .issues is
  | .issues is, .issues js => .issues (is ++ js)

/-- Checks of items, one after the other. -/
def all : List (Checked α) → Checked (List α)
  | [] => .ok []
  | c :: cs => (c.and (all cs)).map fun r => r.1 :: r.2

/-- A further check of what a check let through. -/
def bind (c : Checked α) (f : α → Checked β) : Checked β :=
  match c with
  | .ok a => f a
  | .issues is => .issues is
  | .broken e => .broken e

/-- Does the check let the part through? -/
def isOk : Checked α → Bool
  | .ok _ => true
  | _ => false

end Checked

/-- Why checked input is not accepted. -/
inductive InputError where
  /-- The text is no JSON. -/
  | notJson
  | issues (all : List Issue)
  | decode (e : DecodeError)
  deriving Inhabited

/-- The outcome of a check as a result. -/
def Checked.toExcept {α : Type} : Checked α → Except InputError α
  | .ok a => .ok a
  | .issues is => .error (.issues is)
  | .broken e => .error (.decode e)

end QueryTemplate
