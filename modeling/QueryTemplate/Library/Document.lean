import QueryTemplate.Document.Reader
import QueryTemplate.Library.Files

/-!
# Definition files as documents

A definition file may be written as one JSON object that maps the names of statements to their
documents.  A member that describes no template is kept as an invalid entry, so that loading the
file reports it.
-/

namespace QueryTemplate

/-- The definition that a member of a definition file describes. -/
def Definition.ofJson (j : Json) : Definition :=
  let v := Value.ofJson j
  match (Checked.template .document v).toExcept with
  | .ok t => .template t
  | .error _ => .other v.typeName

/-- What comes of a definition file with this text. -/
def Execution.ofDocument (source : String) : Execution :=
  match Json.read .document source with
  | .error _ => .fails "invalid JSON"
  | .ok (.object fields) => .mapping (fields.map fun f => (.text f.1, Definition.ofJson f.2))
  | .ok _ => .noMapping

end QueryTemplate
