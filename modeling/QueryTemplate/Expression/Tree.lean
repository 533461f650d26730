import QueryTemplate.Comparison

/-!
# Expression trees

What an expression means: parameters and constants, lists of operands, comparisons, and their
connection by `not`, `and` and `or`.
-/

namespace QueryTemplate

/-- A constant of an expression. -/
inductive Constant where
  | null
  | bool (b : Bool)
  | number (n : Number)
  | text (s : String)
  deriving DecidableEq

/-- The value of a constant. -/
def Constant.value : Constant → Value
  | .null => .null
  | .bool b => .bool b
  | .number n => .number n
  | .text s => .text s

/-- An expression tree. -/
inductive Tree where
  | param (name : String)
  | const (c : Constant)
  | list (items : List Tree)
  | not (t : Tree)
  | and (operands : List Tree)
  | or (operands : List Tree)
  | compare (op : Operator) (left right : Tree)
  deriving Inhabited

mutual

/-- The names of the parameters in a tree, from left to right. -/
def Tree.params : Tree → List String
  | .param name => [name]
  | .const _ => []
  | .list ts => paramsOfAll ts
  | .not t => t.params
  | .and ts => paramsOfAll ts
  | .or ts => paramsOfAll ts
  | .compare _ l r => l.params ++ r.params
termination_by structural x => x

/-- The names of the parameters in trees, from left to right. -/
def paramsOfAll : List Tree → List String
  | [] => []
  | t :: ts => t.params ++ paramsOfAll ts
termination_by structural x => x

end

end QueryTemplate
