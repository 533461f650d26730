/-!
# Tables of code point ranges

A property of characters that only a table can give is a list of inclusive ranges in increasing
order.
-/

namespace QueryTemplate.Text

/-- Does the code point of `c` lie in one of the ranges? -/
def inRanges (table : List (Nat × Nat)) (c : Char) : Bool :=
  table.any fun (low, high) => low ≤ c.toNat && c.toNat ≤ high

end QueryTemplate.Text
