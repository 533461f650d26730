import QueryTemplate.Document.CompareValue
import QueryTemplate.Document.PlainValue
import QueryTemplate.Json.Printer
import QueryTemplate.Template.Basic

/-!
# Templates as documents

The JSON document of a template names every part and gives its tag.  It cannot be written when a
compare value or the amended text of a branch has no form in JSON, or when a segment is nested too
deep.
-/

namespace QueryTemplate

/-- Why a document cannot be written. -/
inductive WriteError where
  | compareValue (e : EncodeError)
  /-- A branch was amended with a value that has no plain JSON. -/
  | amendedText (e : PlainError)
  /-- A value or a condition is nested too deep. -/
  | tooDeep
  deriving DecidableEq

/-- The most levels of a segment that is written. -/
def maxLevels : Nat := 255

/-- The levels around what a decision holds: the segment and the decision. -/
def levelsOfDecision : Nat := 2

/-- The levels around what an alternative holds: also the list of alternatives and the alternative. -/
def levelsOfAlternative : Nat := levelsOfDecision + 2

/-- The JSON of names. -/
def Names.toJson (ns : Names) : Json :=
  .list (ns.toList.map .text)

namespace Condition

mutual

/-- The JSON of a condition. -/
def toJson : Condition → Except EncodeError Json
  | .hasParam ns => .ok (.object [("type", .text "has_param"), ("names", ns.toJson)])
  | .hasNoParam ns => .ok (.object [("type", .text "has_no_param"), ("names", ns.toJson)])
  | .isNull ns => .ok (.object [("type", .text "is_null"), ("names", ns.toJson)])
  | .isNotNull ns => .ok (.object [("type", .text "is_not_null"), ("names", ns.toJson)])
  | .isTrue e => .ok (.object [("expression", .text e.source), ("type", .text "is_true")])
  | .isFalse e => .ok (.object [("expression", .text e.source), ("type", .text "is_false")])
  | .compare name op value =>
    value.encode.map fun j =>
      .object [("type", .text "compare"), ("name", .text name), ("op", .text op.text),
        ("value", j)]
  | .contains ns mode =>
    .ok (.object [("type", .text "contains"), ("names", ns.toJson), ("mode", .text mode.text)])
  | .nullOrEmpty name status =>
    .ok (.object
      [("type", .text "null_or_empty"), ("name", .text name), ("status", .text status.text)])
  | .literal value => .ok (.object [("type", .text "literal"), ("value", .bool value)])
  | .noneOf cs =>
    (toJsonAll cs).map fun js => .object [("type", .text "none_of"), ("conditions", .list js)]
termination_by structural x => x

/-- The JSON of conditions. -/
def toJsonAll : List Condition → Except EncodeError (List Json)
  | [] => .ok []
  | c :: cs => do
    let j ← toJson c
    let js ← toJsonAll cs
    .ok (j :: js)
termination_by structural x => x

end

mutual

/-- The first obstacle to writing a condition below so many levels. -/
def writeError? (level : Nat) : Condition → Option WriteError
  | .noneOf cs =>
    if maxLevels < level + 2 then some .tooDeep else writeErrorAmong? (level + 2) cs
  | c =>
    match c.toJson with
    | .error e => some (.compareValue e)
    | .ok j => if maxLevels < level + j.height then some .tooDeep else none
termination_by structural x => x

/-- The first obstacle among conditions. -/
def writeErrorAmong? (level : Nat) : List Condition → Option WriteError
  | [] => none
  | c :: cs => (writeError? level c).or (writeErrorAmong? level cs)
termination_by structural x => x

end

end Condition

/-- The JSON of a condition below so many levels of a document. -/
def Condition.part (level : Nat) (c : Condition) : Except WriteError Json :=
  match c.writeError? level with
  | some e => .error e
  | none => c.toJson.mapError .compareValue

/-- The JSON of the amended text of a branch. -/
def amendedJson (v : Value) : Except WriteError Json := do
  let j ← v.plainJson.mapError .amendedText
  if maxLevels < levelsOfDecision + j.height then .error .tooDeep else .ok j

/-- The JSON of a text that may be missing. -/
def optionalText (s : Option String) : Json :=
  match s with
  | none => .null
  | some s => .text s

/-- The JSON of a branch. -/
def Branch.toJson (b : Branch) : Except WriteError Json := do
  let condition ← b.condition.part levelsOfDecision
  let elseText ← amendedJson b.elseText
  .ok (.object [("type", .text "branch"), ("condition", condition), ("text", .text b.text),
    ("else_text", elseText)])

/-- The JSON of an alternative. -/
def Alternative.toJson (a : Alternative) : Except WriteError Json := do
  let condition ← a.condition.part levelsOfAlternative
  .ok (.object [("condition", condition), ("text", .text a.text)])

/-- The JSON of a chain. -/
def Chain.toJson (c : Chain) : Except WriteError Json := do
  let alternatives ← c.alternatives.mapM Alternative.toJson
  let dangling ← match c.dangling with
    | none => .ok .null
    | some d => d.part levelsOfDecision
  .ok (.object [("type", .text "chain"), ("branches", .list alternatives),
    ("else_text", optionalText c.elseText), ("dangling", dangling)])

/-- The JSON of a decision. -/
def Decision.toJson : Decision → Except WriteError Json
  | .branch b => b.toJson
  | .chain c => c.toJson

/-- The JSON of a segment. -/
def Segment.toJson : Segment → Except WriteError Json
  | .literal s => .ok (.object [("type", .text "literal"), ("text", .text s)])
  | .decision d => d.toJson.map fun j => .object [("type", .text "decision"), ("decision", j)]

namespace Template

/-- The JSON of a template. -/
def toJson (t : Template) : Except WriteError Json :=
  (t.segments.mapM Segment.toJson).map fun js => .object [("segments", .list js)]

/-- The document of a template. -/
def document (layout : Json.Layout) (t : Template) : Except WriteError String :=
  t.toJson.map (Json.render layout)

end Template

end QueryTemplate
