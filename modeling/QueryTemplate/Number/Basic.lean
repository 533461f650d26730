import QueryTemplate.Number.Decimal

/-!
# Numbers of four kinds and their common order

Parameters may be integers, double-precision numbers, fractions or decimals, and any two of them
are compared by their exact values.  A `Position` is that value: a point of the number line, one
of its two ends, or no point at all.  The order of two points never writes out a large power of
ten: a power beyond the other operand decides at once.
-/

namespace QueryTemplate

/-- A number of one of the four kinds. -/
inductive Number where
  | int (i : Int)
  | float (x : Binary64)
  | fraction (q : Rat)
  | decimal (d : Decimal)
  deriving DecidableEq

/-- The point `numerator / denominator * 10 ^ exponent` of the number line. -/
structure Point where
  numerator : Int
  denominator : Nat
  exponent : Int
  deriving DecidableEq

/-- Where a number stands. -/
inductive Position where
  | least
  | point (p : Point)
  | greatest
  /-- No number: unequal to everything. -/
  | nowhere
  deriving DecidableEq

/-- A magnitude with a sign. -/
def signedInt (negative : Bool) (n : Nat) : Int :=
  if negative then -n else n

/-- The position of a double-precision number. -/
def Binary64.position : Binary64 → Position
  | .finite negative m e _ =>
    let (n, d) := magnitude m e
    .point ⟨signedInt negative n, d, 0⟩
  | .infinite negative => if negative then .least else .greatest
  | .nan _ => .nowhere

/-- The position of a decimal number. -/
def Decimal.position : Decimal → Position
  | .finite negative c e => .point ⟨signedInt negative c, 1, e⟩
  | .infinite negative => if negative then .least else .greatest
  | .nan _ _ _ _ => .nowhere

/-- The position of a number. -/
def Number.position : Number → Position
  | .int i => .point ⟨i, 1, 0⟩
  | .float x => x.position
  | .fraction q => .point ⟨q.num, q.den, 0⟩
  | .decimal d => d.position

/-! ## Order -/

/-- The order of `a * 10 ^ k` and `b`, both positive. -/
def compareTimesPower (a b k : Nat) : Ordering :=
  if b.log2 < k then .gt else compare (a * Nat.pow 10 k) b

/-- The order of `a * 10 ^ e` and `b`, both positive. -/
def compareScaled (a b : Nat) (e : Int) : Ordering :=
  match e with
  | .ofNat k => compareTimesPower a b k
  | .negSucc k => (compareTimesPower b a (k + 1)).swap

/-- The order of two points by their exact values. -/
def Point.order (p q : Point) : Ordering :=
  match compare p.numerator.sign q.numerator.sign with
  | .lt => .lt
  | .gt => .gt
  | .eq =>
    let a := p.numerator.natAbs * q.denominator
    let b := q.numerator.natAbs * p.denominator
    let e := p.exponent - q.exponent
    if p.numerator = 0 then .eq
    else if 0 < p.numerator then compareScaled a b e
    else (compareScaled a b e).swap

/-- The order of two positions; `none` when one of them is nowhere. -/
def Position.order? : Position → Position → Option Ordering
  | .nowhere, _ => none
  | _, .nowhere => none
  | .least, .least => some .eq
  | .least, _ => some .lt
  | _, .least => some .gt
  | .greatest, .greatest => some .eq
  | .greatest, _ => some .gt
  | _, .greatest => some .lt
  | .point p, .point q => some (p.order q)

namespace Number

/-- A decimal that signals wherever it is compared. -/
def isSignaling : Number → Bool
  | .decimal (.nan _ signaling _ _) => signaling
  | _ => false

/-- A decimal, whose comparisons insist on an answer. -/
def isDecimal : Number → Bool
  | .decimal _ => true
  | _ => false

/-- Two numbers that cannot be compared: one of them signals. -/
inductive Undefined where
  | undefined
  deriving DecidableEq

/-- Equality by value. -/
def equal (a b : Number) : Except Undefined Bool :=
  if a.isSignaling || b.isSignaling then .error .undefined
  else .ok (a.position.order? b.position == some .eq)

/-- The object of a number, if it has a name. -/
def object? : Number → Option Nat
  | .float x => x.object?
  | .decimal d => d.object?
  | .int _ | .fraction _ => none

/-- The number as an object of its own. -/
def fresh : Number → Number
  | .float x => .float x.fresh
  | .decimal d => .decimal d.fresh
  | n => n

/-- Are two numbers one object? -/
def isSameObject (a b : Number) : Bool :=
  a.object?.isSome && a == b

/-- Equality of two numbers inside containers, where one object equals itself unasked. -/
def equalWithin (a b : Number) : Except Undefined Bool :=
  if a.isSameObject b then .ok true else a.equal b

/-- The order of two numbers by value.  Without one, a comparison with a decimal is undefined and
any other has no answer. -/
def order (a b : Number) : Except Undefined (Option Ordering) :=
  match a.position.order? b.position with
  | some o => .ok (some o)
  | none => if a.isDecimal || b.isDecimal then .error .undefined else .ok none

end Number

end QueryTemplate
