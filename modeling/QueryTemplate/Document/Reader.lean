import QueryTemplate.Document.TemplateReader
import QueryTemplate.Json.Parser

/-!
# Reading a template document

A document is JSON that describes a template.  Reading fails with the issues of the document, or
when a compare value breaks it off.  A text nested too deep is taken for no JSON at all, like one
with a number too long to read.
-/

namespace QueryTemplate

namespace Template

/-- Documents are nested no deeper than this. -/
def maxNesting : Nat := 200

/-- Reads the document of a template. -/
def ofDocument (source : String) : Except InputError Template :=
  match Json.read .document source with
  | .error _ => .error .notJson
  | .ok j =>
    if j.nesting ≤ maxNesting then (Checked.template .document (Value.ofJson j)).toExcept
    else .error .notJson

/-- The template that a value describes. -/
def ofValue (v : Value) : Except InputError Template :=
  (Checked.template .values v).toExcept

end Template

end QueryTemplate
