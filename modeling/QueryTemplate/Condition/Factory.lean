import QueryTemplate.Document.TemplateReader

/-!
# Making conditions

The functions by which templates are authored.  What they are given is checked like the fields of
a document, so a condition with a name that is no text, or with an expression that cannot be read,
is never made.
-/

namespace QueryTemplate.Condition

/-- A condition on names. -/
def onNames (tag : String) (names : List Value) : Checked Condition :=
  Checked.simpleCondition .values tag [(.text "names", .tuple names)]

/-- All parameters are bound, be it to null. -/
def has (names : List Value) : Checked Condition := onNames "has_param" names

/-- No parameter is bound. -/
def hasNo (names : List Value) : Checked Condition := onNames "has_no_param" names

/-- All parameters are unbound or null. -/
def areNull (names : List Value) : Checked Condition := onNames "is_null" names

/-- All parameters are bound to values that are not null. -/
def areNotNull (names : List Value) : Checked Condition := onNames "is_not_null" names

/-- The expression is true. -/
def whenTrue (expression : Value) : Checked Condition :=
  Checked.simpleCondition .values "is_true" [(.text "expression", expression)]

/-- The expression is false. -/
def whenFalse (expression : Value) : Checked Condition :=
  Checked.simpleCondition .values "is_false" [(.text "expression", expression)]

/-- So many of the parameters are bound. -/
def containing (names : List Value) (mode : Value) : Checked Condition :=
  Checked.simpleCondition .values "contains" [(.text "names", .tuple names), (.text "mode", mode)]

/-- The same for every binding. -/
def always (value : Value) : Checked Condition :=
  Checked.simpleCondition .values "literal" [(.text "value", value)]

/-- None of the conditions holds. -/
def noneOfDrafts (conditions : List Draft) : Checked Condition :=
  ((Checked.all (Checked.indexed 0 (conditions.map Checked.draft))).under
    (.field "conditions")).map .noneOf

end QueryTemplate.Condition

namespace QueryTemplate

/-- A parameter about which a condition is to be made. -/
structure ParamRef where
  name : Value
  deriving Inhabited

namespace ParamRef

/-- The form of a reference in messages, if its name has one. -/
def inspect (p : ParamRef) : Except FormError String :=
  match p.name.formError? with
  | some e => .error e
  | none => .ok ("ParamRef(" ++ p.name.inspect ++ ")")

/-- The parameter compares with a value. -/
def compare (p : ParamRef) (op value : Value) : Checked Condition :=
  Checked.simpleCondition .values "compare"
    [(.text "name", p.name), (.text "op", op), (.text "value", value)]

/-- The parameter compares by an operator with a value. -/
def holds (p : ParamRef) (op : Operator) (value : Value) : Checked Condition :=
  p.compare (.text op.text) value

/-- The parameter has an emptiness. -/
def is (p : ParamRef) (status : Value) : Checked Condition :=
  Checked.simpleCondition .values "null_or_empty"
    [(.text "name", p.name), (.text "status", status)]

end ParamRef

/-- A text under a condition, with a text for the other case; null is none. -/
def Branch.make (text : Value) (condition : Draft) (elseText : Value) : Checked Branch :=
  Checked.branchOf (Checked.draft condition) (Checked.text text) (Checked.optionalText elseText)

end QueryTemplate
