/-!
# Arithmetic progressions

A progression stands for the integers from its start on in equal steps, up to its stop, which is
left out.  However many they are, only the three numbers are kept.
-/

namespace QueryTemplate

/-- The integers from `start` towards `stop` in steps. -/
structure Progression where
  start : Int
  stop : Int
  step : Int
  step_ne_zero : step ≠ 0
  deriving DecidableEq

namespace Progression

/-- How many integers there are. -/
def count (p : Progression) : Nat :=
  if 0 < p.step then ((p.stop - p.start + p.step - 1) / p.step).toNat
  else ((p.start - p.stop - p.step - 1) / -p.step).toNat

/-- The integers in order. -/
def items (p : Progression) : List Int :=
  (List.range p.count).map fun (k : Nat) => p.start + p.step * k

/-- Have two progressions the same integers?  It is told without looking at them one by one. -/
def sameItems (p q : Progression) : Bool :=
  p.count == q.count &&
    (p.count == 0 || (p.start == q.start && (p.count == 1 || p.step == q.step)))

end Progression

end QueryTemplate
