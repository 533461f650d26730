import QueryTemplate.Document.Issue
import QueryTemplate.Library.Load
import QueryTemplate.Service.Route

/-!
# Answering requests

The service tells that it is alive, lists its statements, shows one in the engine's form and
builds its text for parameters in the body of a request.  The body is checked before the name is
looked up.
-/

namespace QueryTemplate.Service

/-- What is asked of a resource. -/
inductive Method where
  | get
  | post
  | other
  deriving DecidableEq

/-- A request.  A body that is null is no body. -/
structure Request where
  method : Method
  target : String
  body : Option Json

/-- A response. -/
inductive Response where
  | healthy
  | names (names : List String)
  | statement (name engineText : String)
  | built (name text : String)
  /-- No such resource, or no such statement. -/
  | notFound (detail : String)
  | notAllowed
  /-- The body has issues. -/
  | invalid (issues : List Issue)
  /-- The statement has no text for these parameters. -/
  | unprocessable (detail : String)

/-- The status code of a response. -/
def Response.status : Response → Nat
  | .healthy | .names _ | .statement _ _ | .built _ _ => 200
  | .notFound _ => 404
  | .notAllowed => 405
  | .invalid _ | .unprocessable _ => 422

/-- Why there is no response. -/
inductive Crash where
  | engine (e : EngineError)
  | template (e : TemplateError)
  deriving DecidableEq

/-- The parameters in the body of a request. -/
def bodyParams : Option Json → Except (List Issue) Json
  | none => .error [⟨[.field "body"], .missing⟩]
  | some .null => .error [⟨[.field "body"], .missing⟩]
  | some (.object fields) =>
    match Json.field? "params" (.object fields) with
    | none => .ok (.object [])
    | some (.object params) => .ok (.object params)
    | some _ => .error [⟨[.field "body", .field "params"], .notMap .values⟩]
  | some _ => .error [⟨[.field "body"], .noAttributes⟩]

/-- There is no statement of this name. -/
def unknownStatement (name : String) : Response :=
  .notFound ("Statement " ++ name ++ " not found")

/-- The response to a request for the text of `name`, told what the building ended with.  The
errors of evaluation are answered, and no others. -/
def buildReply {ε : Type} (kind : ε → ErrorKind) (message : ε → String) (name : String) :
    Option (Traced ε String) → Except ε Response
  | none => .ok (unknownStatement name)
  | some built =>
    match built.outcome with
    | .ok text => .ok (.built name text)
    | .error e => if (kind e).isEvaluation then .ok (.unprocessable (message e)) else .error e

/-- The text of a statement for parameters. -/
def buildResponse (catalog : Catalog) (name : String) (params : Value) :
    Except TemplateError Response :=
  buildReply TemplateError.kind TemplateError.message name (catalog.build? name params)

/-- Answers a request. -/
def respond (catalog : Catalog) (r : Request) : Except Crash Response :=
  match Route.ofTarget? r.target, r.method with
  | none, _ => .ok (.notFound "Not Found")
  | some .health, .get => .ok .healthy
  | some .statements, .get => .ok (.names catalog.names)
  | some (.statement name), .get =>
    match catalog.engineText? name with
    | none => .ok (unknownStatement name)
    | some (.ok text) => .ok (.statement name text)
    | some (.error e) => .error (.engine e)
  | some (.build name), .post =>
    match bodyParams r.body with
    | .error issues => .ok (.invalid issues)
    | .ok params => (buildResponse catalog name (.ofJson params)).mapError .template
  | some _, _ => .ok .notAllowed

end QueryTemplate.Service
