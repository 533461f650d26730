import QueryTemplate.Decision.Basic

/-!
# Templates

A template is a sequence of literal texts and decisions.  In normal form no literal is empty and
no two literals are neighbours; compiling produces the normal form, while a template read from a
document is kept as it stands there.
-/

namespace QueryTemplate

/-- A part of a template. -/
inductive Segment where
  | literal (text : String)
  | decision (d : Decision)
  deriving Inhabited

/-- A compiled statement. -/
structure Template where
  segments : List Segment
  deriving Inhabited

namespace Template

/-- The decisions of a template, in order. -/
def decisions (t : Template) : List Decision :=
  t.segments.filterMap fun
    | .literal _ => none
    | .decision d => some d

end Template

namespace Segment

/-- Puts a segment in front of segments in normal form. -/
def cons : Segment → List Segment → List Segment
  | .literal s, .literal t :: rest => .literal (s ++ t) :: rest
  | .literal s, rest => if s = "" then rest else .literal s :: rest
  | d, rest => d :: rest

/-- The normal form: empty literals dropped and neighbouring literals joined. -/
def normalize : List Segment → List Segment
  | [] => []
  | s :: rest => s.cons (normalize rest)

end Segment

end QueryTemplate
