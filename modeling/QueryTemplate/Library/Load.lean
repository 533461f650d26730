import QueryTemplate.Library.Files

/-!
# Loading statements

A path names a definition file or a directory of them.  The files of a directory are loaded in the
order of their names, except those whose name begins with an underscore.  A file with a fault
defines nothing and ends the loading; what the files before it defined stays.  Two faults are not
reported as such: a file that ends the program, and names that have no form in messages.
-/

namespace QueryTemplate

/-- Why statements cannot be loaded. -/
inductive LoadError where
  | notFound (path : String)
  | cannotImport (file : String)
  | failed (file message : String)
  /-- A failure that is passed on as it is. -/
  | refused (message : String)
  | noMapping (file : String)
  /-- The entries with these names are no statements. -/
  | invalid (file : String) (names : List Value)
  /-- The file ends the program. -/
  | exit (message : String)
  /-- The names of invalid entries have no form in messages. -/
  | noForm (e : FormError)

/-- Is it the error of the library about statements that cannot be loaded? -/
def LoadError.isOwn : LoadError → Bool
  | .exit _ | .noForm _ => false
  | _ => true

/-- The text of an error. -/
def LoadError.message : LoadError → String
  | .notFound path => "Statements path not found: " ++ path
  | .cannotImport file => "Cannot import " ++ file
  | .failed file message => "Failed to load statements from " ++ file ++ ": " ++ message
  | .refused message => message
  | .noMapping file => file ++ " does not define a STATEMENTS mapping"
  | .invalid file names =>
    file ++ ": entries are not CompiledTemplates: " ++ (Value.list names).inspect
  | .exit message => message
  | .noForm e => e.message

/-- Is the error reported where it arises? -/
def LoadError.isReported : LoadError → Bool
  | .failed _ _ | .noMapping _ | .invalid _ _ => true
  | _ => false

/-- The ending of a definition file's name. -/
def definitionSuffix : String := ".py"

/-- A definition with a name that is a text. -/
def statement? : Value × Definition → Option (String × Template)
  | (.text name, .template t) => some (name, t)
  | _ => none

/-- The statements that a file defines. -/
def readDefinitions (file : String) (node : FileNode) :
    Except LoadError (List (String × Template)) :=
  if !file.endsWith definitionSuffix then .error (.cannotImport file)
  else match node with
    | .directory _ =>
      .error (.failed file ("[Errno 21] Is a directory: " ++ Text.quoted file))
    | .file (.fails message) => .error (.failed file message)
    | .file (.refuses message) => .error (.refused message)
    | .file (.exits message) => .error (.exit message)
    | .file .noMapping => .error (.noMapping file)
    | .file (.mapping entries) =>
      let invalid := entries.filter fun e => (statement? e).isNone
      if invalid.isEmpty then .ok (entries.filterMap statement?)
      else match (Value.list (invalid.map (·.1))).formError? with
        | some e => .error (.noForm e)
        | none => .error (.invalid file (invalid.map (·.1)))

/-- What loading leaves: the catalog, what was reported, and the names that were defined, unless a
file had a fault. -/
structure Loading where
  catalog : Catalog
  notices : List Notice
  result : Except LoadError (List String)

namespace Catalog

/-- Defines names one after the other. -/
def defineAll (c : Catalog) : List (String × Template) → Catalog
  | [] => c
  | (name, t) :: rest => (c.define name t).defineAll rest

/-- What is reported when names are defined one after the other. -/
def defineAllNotices (c : Catalog) : List (String × Template) → List Notice
  | [] => []
  | (name, t) :: rest => c.defineNotices name t ++ (c.define name t).defineAllNotices rest

/-- Loads files one after the other. -/
def loadFiles (c : Catalog) : List (String × FileNode) → Loading
  | [] => ⟨c, [], .ok []⟩
  | (file, node) :: rest =>
    match readDefinitions file node with
    | .error e => ⟨c, if e.isReported then [.failed e.message] else [], .error e⟩
    | .ok definitions =>
      let here := c.defineAllNotices definitions ++ [.loaded definitions.length file]
      let after := (c.defineAll definitions).loadFiles rest
      ⟨after.catalog, here ++ after.notices,
        after.result.map (definitions.map (·.1) ++ ·)⟩

end Catalog

/-- Is this the name of a definition file? -/
def isDefinitionName (name : String) : Bool :=
  name.endsWith definitionSuffix && !name.startsWith "_"

/-- The path of an entry of a directory. -/
def placeIn (directory name : String) : String :=
  if directory = "." then name
  else if directory.endsWith "/" then directory ++ name
  else directory ++ "/" ++ name

/-- The definition files among the entries of a directory, in the order of their names. -/
def sortedDefinitionFiles (entries : List (String × FileNode)) : List (String × FileNode) :=
  (entries.filter fun e => isDefinitionName e.1).mergeSort fun a b => !decide (b.1 < a.1)

/-- The definition files of a directory with their paths, in order. -/
def definitionFiles (directory : String) (entries : List (String × FileNode)) :
    List (String × FileNode) :=
  (sortedDefinitionFiles entries).map fun e => (placeIn directory e.1, e.2)

/-- Loads the file or directory at a path; `find?` tells what stands at a path. -/
def Catalog.load (c : Catalog) (find? : String → Option FileNode) (path : String) : Loading :=
  let path := normalPath path
  match find? path with
  | none => ⟨c, [], .error (.notFound path)⟩
  | some (.directory entries) => c.loadFiles (definitionFiles path entries)
  | some node => c.loadFiles [(path, node)]

end QueryTemplate
