import QueryTemplate.Engine.Predicate
import QueryTemplate.Template.Basic

/-!
# Statements for the template engine

A decision becomes fragments of the form `#{guard ? 'text':'other text'}`.  The fragments of a
chain stand on lines of their own, and each guard denies the conditions before it, so that an
engine which looks at them one by one still chooses at most one.
-/

namespace QueryTemplate

namespace Engine

/-- A choice between two texts. -/
def choice (guard trueText falseText : String) : String :=
  guard ++ " ? " ++ quote trueText ++ ":" ++ quote falseText

/-- A choice as a fragment of a statement. -/
def fragment (guard trueText falseText : String) : String :=
  "#\x7b" ++ choice guard trueText falseText ++ "\x7d"

/-- A guard that holds where none of the earlier guards does. -/
def guardAfter (earlier : List String) (own : String) : String :=
  if earlier.isEmpty then own
  else " and ".intercalate (earlier.map (fun t => "!(" ++ t ++ ")") ++ ["(" ++ own ++ ")"])

/-- The fragments of alternatives after those with the guards `earlier`. -/
def alternativeFragments (earlier : List String) : List Alternative → List String
  | [] => []
  | a :: rest =>
    let own := predicate a.condition
    fragment (guardAfter earlier own) a.text "" :: alternativeFragments (earlier ++ [own]) rest

/-- The fragments of a chain. -/
def chainFragments (c : Chain) : List String :=
  alternativeFragments [] c.alternatives ++
    match c.elseText with
    | none => []
    | some s => [fragment ("(" ++ predicate c.elseCondition ++ ") == true") s ""]

end Engine

/-- Why a decision cannot be shown to the engine: a compare value has no literal, or an amended text
of a branch cannot be quoted. -/
inductive EngineError where
  /-- A compare value has no text. -/
  | noLiteral (e : FormError)
  /-- It is a value of this type. -/
  | notText (typeName : String)
  /-- It is given as bytes. -/
  | bytes
  /-- It is a date or a time. -/
  | calendar
  /-- It is a record, and its field for replacing is a value of this type. -/
  | notCallable (typeName : String)
  deriving DecidableEq

/-- The text of the error. -/
def EngineError.message : EngineError → String
  | .noLiteral e => e.message
  | .notText t => "'" ++ t ++ "' object has no attribute 'replace'"
  | .bytes => "a bytes-like object is required, not 'str'"
  | .calendar => "'str' object cannot be interpreted as an integer"
  | .notCallable t => "'" ++ t ++ "' object is not callable"

/-- Why a value that counts as something cannot be quoted.  Quoting asks the value to replace its
apostrophes, and a record looks for a field that does so. -/
def EngineError.ofValue : Value → EngineError
  | .bytes _ _ => .bytes
  | .date _ | .time _ | .moment _ => .calendar
  | .record kind fs =>
    match fs.find? (·.1 == "replace") with
    | some f => .notCallable f.2.qualifiedTypeName
    | none => .notText (Value.record kind fs).qualifiedTypeName
  | v => .notText v.qualifiedTypeName

/-- The text of a branch for the other case, as it is shown to the engine. -/
def Branch.elseString (b : Branch) : Except EngineError String :=
  match b.elseText with
  | .text s => .ok s
  | v => if v.isTruthy then .error (.ofValue v) else .ok ""

/-- The engine text of a branch.  Its condition is written before its texts are quoted. -/
def Branch.engineText (b : Branch) : Except EngineError String :=
  match Engine.predicateError? b.condition with
  | some e => .error (.noLiteral e)
  | none => b.elseString.map (Engine.fragment (Engine.predicate b.condition) b.text)

/-- The engine text of a chain; an incomplete one has none. -/
def Chain.engineText (c : Chain) : Except EngineError String :=
  if c.isComplete then
    match Engine.predicateErrorAmong? (c.alternatives.map (·.condition)) with
    | some e => .error (.noLiteral e)
    | none => .ok ("\n".intercalate (Engine.chainFragments c))
  else .ok ""

/-- The engine text of a decision. -/
def Decision.engineText : Decision → Except EngineError String
  | .branch b => b.engineText
  | .chain c => c.engineText

/-- The engine text of a segment. -/
def Segment.engineText : Segment → Except EngineError String
  | .literal s => .ok s
  | .decision d => d.engineText

/-- The engine text of a template. -/
def Template.engineText (t : Template) : Except EngineError String :=
  (t.segments.mapM Segment.engineText).map String.join

end QueryTemplate
