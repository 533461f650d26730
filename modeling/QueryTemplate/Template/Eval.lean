import QueryTemplate.Notice
import QueryTemplate.Template.Basic
import QueryTemplate.Text.Lines

/-!
# Evaluating a template

Every decision of a template is replaced by the text it chooses for a binding, and the whole is
tidied.  Chains report what they choose.  The first decision without an answer ends the
evaluation, after the notices of those before it.
-/

namespace QueryTemplate

/-- What a chain chooses. -/
inductive Choice where
  | alternative (index : Nat) (text : String)
  | elseText (text : String)
  | nothing
  /-- The chain is incomplete. -/
  | ignored (dangling : Condition)

namespace Choice

/-- The chosen text. -/
def text : Choice → String
  | .alternative _ s => s
  | .elseText s => s
  | .nothing => ""
  | .ignored _ => ""

/-- What is reported about a choice. -/
def notices : Choice → List Notice
  | .alternative index _ => [.alternativeChosen index]
  | .elseText _ => [.elseChosen]
  | .nothing => []
  | .ignored dangling => [.chainIgnored dangling]

end Choice

/-- The first alternative whose condition holds, with its index counted from `index`. -/
def firstHolding (b : Binding) (index : Nat) :
    List Alternative → Except EvalError (Option (Nat × String))
  | [] => .ok none
  | a :: rest =>
    match a.condition.eval b with
    | .error e => .error e
    | .ok true => .ok (some (index, a.text))
    | .ok false => firstHolding b (index + 1) rest

/-- What a chain chooses for a binding.  An incomplete chain chooses nothing, but its condition is
to be reported, and it has no answer where that has no form. -/
def Chain.choose (c : Chain) (b : Binding) : Except EvalError Choice :=
  match c.dangling with
  | some d =>
    match d.formError? with
    | some e => .error (.noForm e)
    | none => .ok (.ignored d)
  | none =>
    (firstHolding b 0 c.alternatives).map fun
      | some (index, text) => .alternative index text
      | none => (c.elseText.map .elseText).getD .nothing

/-- What a branch stands for under a binding. -/
def Branch.resolve (br : Branch) (b : Binding) : Except EvalError Value :=
  (br.condition.eval b).map fun holds =>
    if holds then .text br.text else if br.elseText.isTruthy then br.elseText else .text ""

/-- What a decision stands for under a binding. -/
def Decision.resolve (b : Binding) : Decision → Traced EvalError Value
  | .branch br => .lift (br.resolve b)
  | .chain c =>
    match c.choose b with
    | .error e => .error e
    | .ok choice => ⟨.ok (.text choice.text), choice.notices⟩

/-- Why a template has no text. -/
inductive TemplateError where
  | unreadable (e : Binding.Unreadable)
  | eval (e : EvalError)
  /-- The part at this index stands for a value of this type. -/
  | notText (index : Nat) (typeName : String)
  deriving DecidableEq

/-- The text of an error. -/
def TemplateError.message : TemplateError → String
  | .unreadable e => e.message
  | .eval e => e.message
  | .notText index t =>
    "sequence item " ++ toString index ++ ": expected str instance, " ++ t ++ " found"

/-- Where an error belongs. -/
inductive ErrorKind where
  /-- A template cannot be evaluated. -/
  | evaluation
  /-- Another error of the library, such as that of a malformed expression. -/
  | library
  /-- No error of the library, but one of what it is built on. -/
  | foreign
  deriving DecidableEq

/-- Is it an error of the library, whichever? -/
@[simp] def ErrorKind.isOwn : ErrorKind → Bool
  | .evaluation | .library => true
  | .foreign => false

/-- Is it an error of evaluation? -/
@[simp] def ErrorKind.isEvaluation : ErrorKind → Bool
  | .evaluation => true
  | .library | .foreign => false

/-- Where an error belongs.  Only that of a missing parameter is the library's own. -/
def TemplateError.kind : TemplateError → ErrorKind
  | .eval (.missingParameter _) => .evaluation
  | .eval .undefinedComparison | .eval .tooManyItems | .eval (.noForm _) => .foreign
  | .unreadable _ | .notText _ _ => .foreign

/-- What segments stand for under a binding. -/
def Segment.resolveAll (b : Binding) : List Segment → Traced EvalError (List Value)
  | [] => .ok []
  | .literal s :: rest => (resolveAll b rest).bind fun vs => .ok (.text s :: vs)
  | .decision d :: rest =>
    (d.resolve b).bind fun v => (resolveAll b rest).bind fun vs => .ok (v :: vs)

/-- Texts put together; other values are refused. -/
def joinTexts (index : Nat) : List Value → Except TemplateError String
  | [] => .ok ""
  | .text s :: vs => (joinTexts (index + 1) vs).map (s ++ ·)
  | v :: _ => .error (.notText index v.qualifiedTypeName)

namespace Template

/-- The text of a template under a binding. -/
def eval (t : Template) (b : Binding) : Traced TemplateError String :=
  ((Segment.resolveAll b t.segments).mapError .eval).bind fun vs =>
    .lift ((joinTexts 0 vs).map Text.tidy)

/-- The text of a template for a parameter object. -/
def evalWith (t : Template) (params : Value) : Traced TemplateError String :=
  match Binding.ofValue params with
  | .error e => .error (.unreadable e)
  | .ok b => t.eval b

end Template

end QueryTemplate
