import QueryTemplate.Proofs.Number.DecimalText
import QueryTemplate.Proofs.Value.Parts
import QueryTemplate.Value.Collect

/-!
# Values as they are made

Not every value can come about: a set holds no two elements that count as one, and a map no two such
keys.  `Value.WellFormed` says so of a value and of every value inside it.
-/

namespace QueryTemplate.Value

/-- Two elements or keys that do not count as one. -/
def Apart (x y : Value) : Prop :=
  x.isSameKey y = false ∧ y.isSameKey x = false

/-- What the kind of a value promises: a decimal number lies in the range, the elements of a set
can be elements and are pairwise different, and so are the keys of a map. -/
def Proper : Value → Prop
  | .number (.decimal d) => d.InRange
  | .set _ xs => (∀ x ∈ xs, x.keyError? = none) ∧ xs.Pairwise Apart
  | .map _ es => (es.map (·.1)).Pairwise Apart
  | _ => True

/-- The value and every value inside it are as they are made. -/
def WellFormed (v : Value) : Prop :=
  v.Everywhere Proper

end QueryTemplate.Value
