import QueryTemplate.Binding
import QueryTemplate.Expression.Tree

/-!
# Evaluating an expression

A parameter without a value is null, and only the truth value `true` satisfies `not`, `and` and
`or`: their operands may be of any kind.  A list holds its operands themselves, and where two
lists hold the same parameter, its occurrences are equal without being compared.  So `[@a] == [@a]`
holds whatever `a` is, while `@a == @a` compares.
-/

namespace QueryTemplate

/-- The outcome of a part of an expression: a value with the parameter it was read from, or a list
of outcomes. -/
inductive Operand where
  | value (v : Value) (source : Option String)
  | list (items : List Operand)
  deriving Inhabited

namespace Operand

/-- A computed truth value. -/
def ofBool (b : Bool) : Operand :=
  .value (.bool b) none

mutual

/-- The value of an operand. -/
def toValue : Operand → Value
  | .value v _ => v
  | .list items => .list (toValues items)
termination_by structural x => x

/-- The values of operands. -/
def toValues : List Operand → List Value
  | [] => []
  | x :: xs => x.toValue :: toValues xs
termination_by structural x => x

end

/-- Were both operands read from one parameter? -/
def isShared : Operand → Operand → Bool
  | .value _ (some n), .value _ (some m) => n == m
  | _, _ => false

mutual

/-- Equality of two items of lists: they are shared, or equal by content. -/
def equalWithin : Operand → Operand → Except Number.Undefined Bool
  | .list xs, .list ys => if xs.length = ys.length then equalItems xs ys else .ok false
  | .list xs, .value v _ => (Value.list (toValues xs)).equalWithin v
  | .value v s, b =>
    if isShared (.value v s) b then .ok true else v.equalWithin b.toValue
termination_by structural x => x

/-- Are the items equal in order, and equally many? -/
def equalItems : List Operand → List Operand → Except Number.Undefined Bool
  | [], [] => .ok true
  | x :: xs, y :: ys => do
    if ← equalWithin x y then equalItems xs ys else .ok false
  | _, _ => .ok false
termination_by structural x => x

end

/-- Equality by content.  A shared value is compared with itself. -/
def equal : Operand → Operand → Except Number.Undefined Bool
  | .value v s, b => if isShared (.value v s) b then v.equalItself else v.equal b.toValue
  | a, b => a.equalWithin b

/-- Equality of two operands of a comparison: a truth value equals no number. -/
def same (a b : Operand) : Except Number.Undefined Bool :=
  if a.toValue.isBool = b.toValue.isBool then a.equal b else .ok false

/-- The items a membership test runs against. -/
def items? : Operand → Option (List Operand)
  | .list xs => some xs
  | .value v _ => v.items?.map fun xs => xs.map (.value · none)

/-- Membership among the items of a container; without an answer when a side is null or the
second is no container. -/
def memberOf (a b : Operand) : Except ComparisonError (Option Bool) :=
  if a.toValue.isNull || b.toValue.isNull then .ok none
  else match b.items? with
    | none => .ok none
    | some items =>
      if b.toValue.hasTooManyItems then .error .tooMany
      else (some <$> items.anyM fun x => a.same x).mapError .undefined

/-- Does an operator hold of two operands? -/
def holds (op : Operator) (a b : Operand) : Except ComparisonError Bool :=
  op.holdsWith a.toValue b.toValue (fun _ => a.same b) (fun _ => a.memberOf b)

end Operand

namespace Tree

mutual

/-- The outcome of a tree under a binding. -/
def operand (b : Binding) : Tree → Except ComparisonError Operand
  | .param name => .ok (.value (b.getD name) (some name))
  | .const c => .ok (.value c.value none)
  | .list ts => do
    let items ← operands b ts
    .ok (.list items)
  | .not t => do
    let x ← operand b t
    .ok (.ofBool !x.toValue.isTrue)
  | .and ts => do
    let r ← allTrue b ts
    .ok (.ofBool r)
  | .or ts => do
    let r ← anyTrue b ts
    .ok (.ofBool r)
  | .compare op l r => do
    let x ← operand b l
    let y ← operand b r
    let r ← Operand.holds op x y
    .ok (.ofBool r)
termination_by structural x => x

/-- The outcomes of trees. -/
def operands (b : Binding) : List Tree → Except ComparisonError (List Operand)
  | [] => .ok []
  | t :: ts => do
    let x ← operand b t
    let xs ← operands b ts
    .ok (x :: xs)
termination_by structural x => x

/-- Are all trees true?  Those after the first that is not are left alone. -/
def allTrue (b : Binding) : List Tree → Except ComparisonError Bool
  | [] => .ok true
  | t :: ts => do
    let x ← operand b t
    if x.toValue.isTrue then allTrue b ts else .ok false
termination_by structural x => x

/-- Is one of the trees true?  Those after the first that is are left alone. -/
def anyTrue (b : Binding) : List Tree → Except ComparisonError Bool
  | [] => .ok false
  | t :: ts => do
    let x ← operand b t
    if x.toValue.isTrue then .ok true else anyTrue b ts
termination_by structural x => x

end

/-- The value of a tree under a binding. -/
def eval (t : Tree) (b : Binding) : Except ComparisonError Value :=
  (t.operand b).map Operand.toValue

end Tree

end QueryTemplate
