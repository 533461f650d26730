import QueryTemplate.Condition.Inspect
import QueryTemplate.Text.Blank

/-!
# Deciding a condition

A condition holds or does not hold; it has no answer only where it compares a parameter that is
not bound, or numbers that cannot be compared, or asks for the items of a sequence that are too
many to count.  Conditions are decided from left to right, and those that no longer matter are not
looked at.
-/

namespace QueryTemplate

/-- Why a condition or a decision has no answer. -/
inductive EvalError where
  /-- A comparison names a parameter that is not bound. -/
  | missingParameter (name : String)
  /-- The compared numbers have neither equality nor order. -/
  | undefinedComparison
  /-- A container has more items than can be counted. -/
  | tooManyItems
  /-- A condition that is to be reported has no form in messages. -/
  | noForm (e : FormError)
  deriving DecidableEq

/-- The text of the error about numbers that cannot be compared. -/
def Number.Undefined.message : Number.Undefined → String
  | .undefined => "[<class 'decimal.InvalidOperation'>]"

/-- The text of an error of a comparison. -/
def ComparisonError.message : ComparisonError → String
  | .undefined e => e.message
  | .tooMany => "Python int too large to convert to C ssize_t"

/-- The text of an error. -/
def EvalError.message : EvalError → String
  | .missingParameter name =>
    "Parameter '" ++ name ++ "' is required for value comparison but was not bound"
  | .undefinedComparison => Number.Undefined.undefined.message
  | .tooManyItems => ComparisonError.tooMany.message
  | .noForm e => e.message

/-- The error of a comparison as that of a condition. -/
def EvalError.ofComparison : ComparisonError → EvalError
  | .undefined _ => .undefinedComparison
  | .tooMany => .tooManyItems

/-- The outcome of a comparison as the outcome of a condition. -/
def liftComparison {α : Type} (r : Except ComparisonError α) : Except EvalError α :=
  r.mapError .ofComparison

/-- Is a parameter unbound, null or a blank text? -/
def Binding.isNullOrBlank (b : Binding) (name : String) : Bool :=
  match b.get? name with
  | none => true
  | some .null => true
  | some (.text s) => Text.isBlankText s
  | some _ => false

/-- The items of a parameter that is a container, unless they are too many to count. -/
def Binding.items? (b : Binding) (name : String) : Except EvalError (Option (List Value)) :=
  match b.get? name with
  | none => .ok none
  | some v => if v.hasTooManyItems then .error .tooManyItems else .ok v.items?

/-- Has a parameter this emptiness?  What is no container is neither empty nor not empty. -/
def Binding.hasEmptiness (b : Binding) (name : String) : Emptiness → Except EvalError Bool
  | .null => .ok (b.isNullOrBlank name)
  | .notNull => .ok !b.isNullOrBlank name
  | .empty => (b.items? name).map fun items => items.any (·.isEmpty)
  | .notEmpty => (b.items? name).map fun items => items.any (!·.isEmpty)

namespace Condition

mutual

/-- Does a condition hold under a binding? -/
def eval (b : Binding) : Condition → Except EvalError Bool
  | .hasParam ns => .ok (ns.toList.all fun n => b.contains n)
  | .hasNoParam ns => .ok !(ns.toList.any fun n => b.contains n)
  | .isNull ns => .ok (ns.toList.all fun n => (b.getD n).isNull)
  | .isNotNull ns => .ok (ns.toList.all fun n => !(b.getD n).isNull)
  | .isTrue e => (liftComparison (e.eval b)).map Value.isTrue
  | .isFalse e => (liftComparison (e.eval b)).map Value.isFalse
  | .compare name op value =>
    match b.get? name with
    | none => .error (.missingParameter name)
    | some v => liftComparison (op.holds v value)
  | .contains ns .all => .ok (ns.toList.all fun n => b.contains n)
  | .contains ns .one => .ok (ns.toList.any fun n => b.contains n)
  | .nullOrEmpty name status => b.hasEmptiness name status
  | .literal value => .ok value
  | .noneOf cs => (anyHolds b cs).map not
termination_by structural x => x

/-- Does one of the conditions hold?  Those after the first that holds are left alone. -/
def anyHolds (b : Binding) : List Condition → Except EvalError Bool
  | [] => .ok false
  | c :: cs =>
    match eval b c with
    | .error e => .error e
    | .ok true => .ok true
    | .ok false => anyHolds b cs
termination_by structural x => x

end

end Condition

end QueryTemplate
