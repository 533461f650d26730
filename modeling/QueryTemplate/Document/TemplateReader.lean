import QueryTemplate.Document.ConditionReader
import QueryTemplate.Template.Basic

/-!
# Checking decisions and templates

A template is read from a document or from a value.  Alternatives and templates have one form;
segments and decisions are told by their tag.
-/

namespace QueryTemplate

namespace Checked

/-- A branch from its checked parts. -/
def branchOf (condition : Checked Condition) (text : Checked String)
    (elseText : Checked (Option String)) : Checked Branch :=
  ((condition.under (.field "condition")).and
    ((text.under (.field "text")).and (elseText.under (.field "else_text")))).map fun r =>
      ⟨r.1, r.2.1, (r.2.2.map Value.text).getD .null⟩

/-- An alternative from its checked parts. -/
def alternativeOf (condition : Checked Condition) (text : Checked String) : Checked Alternative :=
  ((condition.under (.field "condition")).and (text.under (.field "text"))).map fun r =>
    ⟨r.1, r.2⟩

/-- A chain from its checked parts. -/
def chainOf (alternatives : Checked (List Alternative)) (elseText : Checked (Option String))
    (dangling : Checked (Option Condition)) : Checked Chain :=
  ((alternatives.under (.field "branches")).and
    ((elseText.under (.field "else_text")).and (dangling.under (.field "dangling")))).map fun r =>
      ⟨r.1, r.2.1, r.2.2⟩

variable {α : Type}

/-- The items of a sequence, each checked at its index. -/
def each (origin : Origin) (check : Value → Checked α) (v : Value) : Checked (List α) :=
  (items origin v).bind fun xs => all (indexed 0 (xs.map check))

/-- A condition, or nothing. -/
def optionalCondition (origin : Origin) : Value → Checked (Option Condition)
  | .null => .ok none
  | v => (condition origin v).map some

/-- A branch described by its fields. -/
def branch (origin : Origin) (es : List (Value × Value)) : Checked Branch :=
  branchOf (present "condition" es (condition origin)) (present "text" es text)
    (perhaps "else_text" es none optionalText)

/-- An alternative described by a value. -/
def alternative (origin : Origin) (v : Value) : Checked Alternative :=
  fields origin "WhenBranch" v fun es =>
    alternativeOf (present "condition" es (condition origin)) (present "text" es text)

/-- A chain described by its fields. -/
def chain (origin : Origin) (es : List (Value × Value)) : Checked Chain :=
  chainOf (perhaps "branches" es [] (each origin (alternative origin)))
    (perhaps "else_text" es none optionalText)
    (perhaps "dangling" es none (optionalCondition origin))

/-- A decision described by a value. -/
def decision (origin : Origin) (v : Value) : Checked Decision :=
  tagged origin [("branch", "Branch"), ("chain", "BranchChain")] v fun tag es =>
    if tag = "branch" then (branch origin es).map .branch else (chain origin es).map .chain

/-- A segment described by a value. -/
def segment (origin : Origin) (v : Value) : Checked Segment :=
  tagged origin [("literal", "LiteralSegment"), ("decision", "DecisionSegment")] v fun tag es =>
    if tag = "literal" then (required "text" es text).map .literal
    else (required "decision" es (decision origin)).map .decision

/-- A template described by a value. -/
def template (origin : Origin) (v : Value) : Checked Template :=
  fields origin "CompiledTemplate" v fun es =>
    (optional "segments" es [] (each origin (segment origin))).map Template.mk

end Checked

end QueryTemplate
