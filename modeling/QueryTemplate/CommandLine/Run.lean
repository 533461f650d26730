import QueryTemplate.CommandLine.Arguments
import QueryTemplate.Document.CompareValue
import QueryTemplate.Json.Parser
import QueryTemplate.Library.Load

/-!
# Carrying out a command

The commands list the statements of a library, show one in the engine's form, or build its text
for parameters given as a JSON object.  A failure of the library or of the statement is reported
and leaves the exit code one.  Errors that are not the library's own leave no answer at all: those
of comparisons, of values that cannot be shown, of a definition file that ends the program, and of
parameters with an integer too long to read.
-/

namespace QueryTemplate.CommandLine

/-- What a command leaves behind. -/
structure Answer where
  exitCode : Nat
  output : String
  notices : List Notice

/-- The surroundings of a command: what stands at a path, and the path of the library that is used
when none is given. -/
structure Surroundings where
  find? : String → Option FileNode
  defaultPath : Option String

/-- A failure after some notices. -/
def Answer.failure (before : List Notice) (message : String) : Answer :=
  ⟨1, "", before ++ [.failed message]⟩

/-- Why a command has no answer. -/
inductive RunError where
  | engine (e : EngineError)
  | template (e : TemplateError)
  /-- Loading ended with an error that is not the library's own. -/
  | load (e : LoadError)
  /-- The parameters hold an integer that cannot be read. -/
  | params (e : DigitsError)

/-- The library at a path that is given or the default one, or the answer where there is none. -/
def loadLibrary (s : Surroundings) (path : Option String) :
    Except RunError (Except Answer (Catalog × List Notice)) :=
  let given := path.getD ""
  let path := if given = "" then s.defaultPath.getD "" else given
  if path = "" then
    .ok (.error (.failure [] "Statements path required (use --path or set STATEMENTS_PATH)"))
  else
    let loading := Catalog.empty.load s.find? path
    match loading.result with
    | .error e =>
      if e.isOwn then
        .ok (.error (.failure loading.notices ("Failed to load statements: " ++ e.message)))
      else .error (.load e)
    | .ok _ => .ok (.ok (loading.catalog, loading.notices))

/-- What a command answers with a library. -/
def withLibrary (s : Surroundings) (path : Option String)
    (answer : Catalog → List Notice → Except RunError Answer) : Except RunError Answer :=
  match loadLibrary s path with
  | .error e => .error e
  | .ok (.error a) => .ok a
  | .ok (.ok (catalog, notices)) => answer catalog notices

/-- Lines of output. -/
def outputLines (lines : List String) : String :=
  String.join (lines.map (· ++ "\n"))

/-- The names of the statements. -/
def listNames (s : Surroundings) (path : Option String) : Except RunError Answer :=
  withLibrary s path fun catalog notices =>
    let names := catalog.names
    .ok ⟨0, outputLines (if names.isEmpty then ["No statements defined"] else names), notices⟩

/-- A statement in the engine's form. -/
def showStatement (s : Surroundings) (name : String) (path : Option String) :
    Except RunError Answer :=
  withLibrary s path fun catalog notices =>
    match catalog.engineText? name with
    | none => .ok (.failure notices ("Statement not found: " ++ name))
    | some (.error e) => .error (.engine e)
    | some (.ok text) => .ok ⟨0, outputLines [text], notices⟩

/-- What a command leaves behind that builds the text of `name`, told what the building ended with.
Every error of the library is reported. -/
def buildAnswer {ε : Type} (kind : ε → ErrorKind) (message : ε → String) (notices : List Notice)
    (name : String) : Option (Traced ε String) → Except ε Answer
  | none => .ok (.failure notices ("Statement not found: " ++ name))
  | some built =>
    let notices := notices ++ built.notices
    match built.outcome with
    | .ok text => .ok ⟨0, outputLines [text], notices⟩
    | .error e =>
      if (kind e).isOwn then
        .ok (.failure notices ("Failed to build " ++ name ++ ": " ++ message e))
      else .error e

/-- The text of a statement in a catalog. -/
def buildIn (catalog : Catalog) (notices : List Notice) (name : String) (params : Value) :
    Except TemplateError Answer :=
  buildAnswer TemplateError.kind TemplateError.message notices name (catalog.build? name params)

/-- The text of a statement for parameters in JSON. -/
def buildStatement (s : Surroundings) (name params : String) (path : Option String) :
    Except RunError Answer :=
  match Json.read .parameters params with
  | .error .malformed => .ok (.failure [] "Invalid --params JSON")
  | .error (.tooLong digits) => .error (.params (.read digits))
  | .ok (.object fields) =>
    withLibrary s path fun catalog notices =>
      (buildIn catalog notices name (.ofJson (.object fields))).mapError .template
  | .ok _ => .ok (.failure [] "--params must be a JSON object")

/-- Carries out a command. -/
def Command.run (s : Surroundings) : Command → Except RunError Answer
  | .nothing => .ok ⟨0, "", []⟩
  | .list path => listNames s path
  | .show name path => showStatement s name path
  | .build name params path => buildStatement s name params path

end QueryTemplate.CommandLine
