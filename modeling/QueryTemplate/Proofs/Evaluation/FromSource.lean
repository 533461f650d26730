import QueryTemplate.Catalog
import QueryTemplate.Proofs.Outcome
import QueryTemplate.Proofs.Traced

/-!
# Evaluating from the texts of expressions

Evaluation goes by the tree that an expression was read as.  Here it goes by the text, which is read
again wherever it is met, so that a malformed text would end the evaluation with an error that is
not one of evaluation.  No condition of a template has such a text, however deep it stands, and both
ways end alike and report the same.
-/

namespace QueryTemplate

open Outcome

/-! ## Errors -/

/-- Why an evaluation that reads expressions has no answer. -/
inductive SourceError where
  /-- The text is no expression. -/
  | malformed (source : String) (e : ExpressionError)
  | template (e : TemplateError)

namespace SourceError

/-- The error of a condition. -/
def ofEval (e : EvalError) : SourceError :=
  .template (.eval e)

/-- Where an error belongs. -/
def kind : SourceError → ErrorKind
  | .malformed _ _ => .library
  | .template e => e.kind

/-- The text of an error. -/
def message : SourceError → String
  | .malformed source e => e.message source
  | .template e => e.message

end SourceError

lemma TemplateError.kind_ne_library : ∀ e : TemplateError, e.kind ≠ .library
  | .unreadable _ | .eval (.missingParameter _) | .eval .undefinedComparison | .eval .tooManyItems
  | .eval (.noForm _) | .notText _ _ => by simp [kind]

/-! ## Evaluation -/

/-- The value of an expression, by its text. -/
def Expression.evalFromSource (e : Expression) (b : Binding) : Except SourceError Value :=
  match Tree.parse e.source with
  | .error malformed => .error (.malformed e.source malformed)
  | .ok tree => (liftComparison (tree.eval b)).mapError .ofEval

namespace Condition

mutual

/-- Does a condition hold?  Only three kinds of conditions lead to the text of an expression. -/
def evalFromSource (b : Binding) : Condition → Except SourceError Bool
  | .isTrue e => (e.evalFromSource b).map Value.isTrue
  | .isFalse e => (e.evalFromSource b).map Value.isFalse
  | .noneOf cs => (anyHoldsFromSource b cs).map not
  | c => (c.eval b).mapError .ofEval
termination_by structural x => x

/-- Does one of the conditions hold? -/
def anyHoldsFromSource (b : Binding) : List Condition → Except SourceError Bool
  | [] => .ok false
  | c :: cs =>
    match evalFromSource b c with
    | .error e => .error e
    | .ok true => .ok true
    | .ok false => anyHoldsFromSource b cs
termination_by structural x => x

end

end Condition

/-- The first alternative whose condition holds. -/
def firstHoldingFromSource (b : Binding) (index : Nat) :
    List Alternative → Except SourceError (Option (Nat × String))
  | [] => .ok none
  | a :: rest =>
    match a.condition.evalFromSource b with
    | .error e => .error e
    | .ok true => .ok (some (index, a.text))
    | .ok false => firstHoldingFromSource b (index + 1) rest

/-- What a chain chooses. -/
def Chain.chooseFromSource (c : Chain) (b : Binding) : Except SourceError Choice :=
  match c.dangling with
  | some d =>
    match d.formError? with
    | some e => .error (.ofEval (.noForm e))
    | none => .ok (.ignored d)
  | none =>
    (firstHoldingFromSource b 0 c.alternatives).map fun
      | some (index, text) => .alternative index text
      | none => (c.elseText.map .elseText).getD .nothing

/-- What a branch stands for. -/
def Branch.resolveFromSource (br : Branch) (b : Binding) : Except SourceError Value :=
  (br.condition.evalFromSource b).map fun holds =>
    if holds then .text br.text else if br.elseText.isTruthy then br.elseText else .text ""

/-- What a decision stands for. -/
def Decision.resolveFromSource (b : Binding) : Decision → Traced SourceError Value
  | .branch br => .lift (br.resolveFromSource b)
  | .chain c =>
    match c.chooseFromSource b with
    | .error e => .error e
    | .ok choice => ⟨.ok (.text choice.text), choice.notices⟩

/-- What segments stand for. -/
def Segment.resolveAllFromSource (b : Binding) : List Segment → Traced SourceError (List Value)
  | [] => .ok []
  | .literal s :: rest => (resolveAllFromSource b rest).bind fun vs => .ok (.text s :: vs)
  | .decision d :: rest =>
    (d.resolveFromSource b).bind fun v =>
      (resolveAllFromSource b rest).bind fun vs => .ok (v :: vs)

/-- The text of a template for a parameter object. -/
def Template.evalFromSource (t : Template) (params : Value) : Traced SourceError String :=
  match Binding.ofValue params with
  | .error e => .error (.template (.unreadable e))
  | .ok b =>
    (Segment.resolveAllFromSource b t.segments).bind fun vs =>
      .lift (((joinTexts 0 vs).map Text.tidy).mapError .template)

/-- The text of a statement for a parameter object. -/
def Catalog.buildFromSource? (c : Catalog) (name : String) (params : Value) :
    Option (Traced SourceError String) :=
  (c.get? name).map (·.evalFromSource params)

/-! ## Both ways end alike -/

section Alike

variable {b : Binding}

/-- The text of an expression is read as its tree. -/
lemma Expression.evalFromSource_eq (e : Expression) :
    e.evalFromSource b = (liftComparison (e.eval b)).mapError .ofEval := by
  rw [evalFromSource, e.parse_source, Expression.eval]

namespace Condition

mutual

theorem evalFromSource_eq : ∀ c : Condition, c.evalFromSource b = (c.eval b).mapError .ofEval
  | .isTrue e | .isFalse e => by
      rw [evalFromSource, eval, e.evalFromSource_eq, mapError_map]
  | .noneOf cs => by
      rw [evalFromSource, eval, anyHoldsFromSource_eq cs, mapError_map]
  | .hasParam _ | .hasNoParam _ | .isNull _ | .isNotNull _ | .compare _ _ _ | .contains _ _
  | .nullOrEmpty _ _ | .literal _ => rfl
termination_by structural c => c

theorem anyHoldsFromSource_eq :
    ∀ cs : List Condition, anyHoldsFromSource b cs = (anyHolds b cs).mapError .ofEval
  | [] => rfl
  | c :: cs => by
      rw [anyHoldsFromSource, anyHolds, evalFromSource_eq c]
      rcases c.eval b with e | _ | _
      · rfl
      · exact anyHoldsFromSource_eq cs
      · rfl
termination_by structural cs => cs

end

end Condition

lemma firstHoldingFromSource_eq (index : Nat) (as : List Alternative) :
    firstHoldingFromSource b index as = (firstHolding b index as).mapError .ofEval := by
  induction as generalizing index with
  | nil => rfl
  | cons a as ih =>
    rw [firstHoldingFromSource, firstHolding, a.condition.evalFromSource_eq]
    rcases a.condition.eval b with e | _ | _
    · rfl
    · exact ih (index + 1)
    · rfl

lemma Chain.chooseFromSource_eq (c : Chain) :
    c.chooseFromSource b = (c.choose b).mapError .ofEval := by
  rw [chooseFromSource, choose]
  cases c.dangling with
  | some d => cases hform : d.formError? <;> simp [hform, Except.mapError]
  | none =>
    have hfirst := firstHoldingFromSource_eq (b := b) 0 c.alternatives
    exact (congrArg (Except.map _) hfirst).trans (mapError_map _ _ _).symm

lemma Branch.resolveFromSource_eq (br : Branch) :
    br.resolveFromSource b = (br.resolve b).mapError .ofEval := by
  rw [resolveFromSource, resolve, br.condition.evalFromSource_eq, mapError_map]

lemma Decision.resolveFromSource_eq (d : Decision) :
    d.resolveFromSource b = (d.resolve b).mapError .ofEval := by
  cases d with
  | branch br =>
    rw [resolveFromSource, resolve, br.resolveFromSource_eq]
    rfl
  | chain c =>
    rw [resolveFromSource, resolve, c.chooseFromSource_eq]
    cases c.choose b <;> rfl

lemma Segment.resolveAllFromSource_eq (ss : List Segment) :
    resolveAllFromSource b ss = (resolveAll b ss).mapError .ofEval := by
  induction ss with
  | nil => rfl
  | cons s ss ih =>
    cases s with
    | literal s =>
      rw [resolveAllFromSource, resolveAll, ih, Traced.mapError_bind]
      rfl
    | decision d =>
      rw [resolveAllFromSource, resolveAll, ih, d.resolveFromSource_eq, Traced.mapError_bind]
      refine congrArg _ (funext fun v => ?_)
      rw [Traced.mapError_bind]
      rfl

end Alike

/-- Reading the expressions of a template again finds none that is malformed. -/
theorem Template.evalFromSource_eq (t : Template) (params : Value) :
    t.evalFromSource params = (t.evalWith params).mapError .template := by
  rw [evalFromSource, evalWith]
  cases Binding.ofValue params with
  | error e => rfl
  | ok b =>
    have hsegments : Segment.resolveAllFromSource b t.segments =
        ((Segment.resolveAll b t.segments).mapError .eval).mapError .template := by
      rw [Segment.resolveAllFromSource_eq, Traced.mapError_mapError]
      rfl
    simp only [Template.eval, hsegments, Traced.mapError_bind]
    rfl

theorem Catalog.buildFromSource?_eq (c : Catalog) (name : String) (params : Value) :
    c.buildFromSource? name params = (c.build? name params).map (Traced.mapError .template) := by
  rw [buildFromSource?, build?, Option.map_map]
  exact congrArg (Option.map · _) (funext fun t => t.evalFromSource_eq params)

end QueryTemplate
