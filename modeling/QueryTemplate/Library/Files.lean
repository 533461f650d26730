import QueryTemplate.Catalog
import QueryTemplate.Text.Components

/-!
# Definition files

Statements are defined in files, which may stand in directories.  What matters about a file is
what comes of executing it: a mapping of names to definitions, something else, or a failure.
-/

namespace QueryTemplate

/-- What comes of executing a definition file. -/
inductive Execution where
  /-- A mapping of names to definitions. -/
  | mapping (entries : List (Value × Definition))
  /-- No mapping. -/
  | noMapping
  /-- A failure with its text. -/
  | fails (message : String)
  /-- A failure that already tells what is wrong with the definitions. -/
  | refuses (message : String)
  /-- The file ends the program, with this message. -/
  | exits (message : String)
  deriving Inhabited

/-- A file or a directory. -/
inductive FileNode where
  | file (result : Execution)
  | directory (entries : List (String × FileNode))
  deriving Inhabited

/-- The components of a path; an empty one or a single dot means nothing. -/
def pathComponents (path : String) : List String :=
  (Text.components path).filter fun c => c != "" && c != "."

/-- The usual form of a path. -/
def normalPath (path : String) : String :=
  let body := "/".intercalate (pathComponents path)
  if path.startsWith "/" then
    (if path.startsWith "//" && !path.startsWith "///" then "//" else "/") ++ body
  else if body = "" then "." else body

namespace FileNode

/-- The node at the end of a path below a node.  `above` are the directories that two dots lead
back to. -/
def find? (above : List FileNode) (node : FileNode) : List String → Option FileNode
  | [] => some node
  | c :: cs =>
    match node with
    | .file _ => none
    | .directory entries =>
      if c = ".." then
        match above with
        | [] => none
        | parent :: above => find? above parent cs
      else
        match entries.find? (·.1 == c) with
        | none => none
        | some (_, child) => find? (node :: above) child cs

/-- Places a file below a directory; missing directories are made. -/
def insert (result : Execution) : List String → List (String × FileNode) →
    List (String × FileNode)
  | [], entries => entries
  | [name], entries => entries.filter (·.1 != name) ++ [(name, .file result)]
  | dir :: rest, entries =>
    let inner := match entries.find? (·.1 == dir) with
      | some (_, .directory es) => es
      | _ => []
    entries.filter (·.1 != dir) ++ [(dir, .directory (insert result rest inner))]

end FileNode

end QueryTemplate
