import QueryTemplate.Number.Binary64

/-!
# Shortest decimal text of a double-precision number

The digits shown for a finite number are the fewest that read back as the same number, and among
those the nearest to its exact value.  A `FloatStyle` then says where the point stands: the two
outputs that show such numbers differ only there.
-/

namespace QueryTemplate

/-- A decimal expansion `digits * 10 ^ exponent`. -/
structure Expansion where
  digits : Nat
  exponent : Int
  deriving DecidableEq, Inhabited

namespace Expansion

/-- Does the expansion read back as the number with these parts? -/
def readsAs (x : Expansion) (significand : Nat) (exponent : Int) : Bool :=
  match Binary64.ofDecimal false x.digits x.exponent with
  | .finite _ m e _ => m == significand && e == exponent
  | _ => false

/-- Drops trailing zeros of the digits into the exponent, at most `fuel` many. -/
def stripZeros : Nat → Expansion → Expansion
  | 0, x => x
  | fuel + 1, x =>
    if x.digits ≠ 0 ∧ x.digits % 10 = 0 then
      stripZeros fuel ⟨x.digits / 10, x.exponent + 1⟩
    else x

end Expansion

namespace Binary64

/-- The exponent of the first decimal digit of a positive quotient. -/
def decimalExponent (num den : Nat) : Int :=
  let d : Int := digitCount num - digitCount den
  let reached : Bool := match d with
    | .ofNat k => decide (den * Nat.pow 10 k ≤ num)
    | .negSucc k => decide (den ≤ num * Nat.pow 10 (k + 1))
  if reached then d else d - 1

/-- `num / den` divided by `10 ^ k`, as a quotient. -/
def shiftDecimal (num den : Nat) (k : Int) : Nat × Nat :=
  match k with
  | .ofNat k => (num, den * Nat.pow 10 k)
  | .negSucc k => (num * Nat.pow 10 (k + 1), den)

/-- The nearer of the two neighbours with `count` digits that reads back, if one does. -/
def neighbour? (significand : Nat) (exponent : Int) (count : Nat) : Option Expansion :=
  let (num, den) := magnitude significand exponent
  let k := decimalExponent num den + 1 - count
  let (n, d) := shiftDecimal num den k
  let below : Expansion := ⟨n / d, k⟩
  let above : Expansion := ⟨n / d + 1, k⟩
  let nearest : Expansion := ⟨roundHalfEven n d, k⟩
  if nearest.readsAs significand exponent then some nearest
  else if below.readsAs significand exponent then some below
  else if above.readsAs significand exponent then some above
  else none

/-- The exact value as a decimal expansion. -/
def exactExpansion (significand : Nat) (exponent : Int) : Expansion :=
  match exponent with
  | .ofNat k => ⟨significand * Nat.pow 2 k, 0⟩
  | .negSucc k => ⟨significand * Nat.pow 5 (k + 1), .negSucc k⟩

/-- The fewest digits that read back.  Seventeen always do; the exact expansion stands for the
case that does not arise. -/
def shortest (significand : Nat) (exponent : Int) : Expansion :=
  let found := (List.range 17).findSome? fun i => neighbour? significand exponent (i + 1)
  let x := found.getD (exactExpansion significand exponent)
  x.stripZeros (digitCount x.digits)

end Binary64

/-- How the digits of a number are laid out. -/
structure FloatStyle where
  /-- The least exponent of the first digit that is written without an exponent. -/
  lowest : Int
  /-- The least exponent of the first digit, above the point, that is written with one. -/
  highest : Int
  /-- The sign of an exponent that is not negative. -/
  plus : String
  /-- The least count of digits in an exponent. -/
  exponentWidth : Nat

namespace FloatStyle

/-- An exponent with its sign. -/
def exponentText (style : FloatStyle) (e : Int) : String :=
  let ds := toString e.natAbs
  let padding := String.ofList (List.replicate (style.exponentWidth - ds.length) '0')
  (if e < 0 then "-" else style.plus) ++ padding ++ ds

/-- Places the point in the digits of an expansion. -/
def place (style : FloatStyle) (x : Expansion) : String :=
  let ds := Nat.toDigits 10 x.digits
  let e := x.exponent + ds.length - 1
  if style.lowest ≤ e ∧ e < style.highest then
    if 0 ≤ x.exponent then
      String.ofList (ds ++ List.replicate x.exponent.toNat '0') ++ ".0"
    else if 0 ≤ e then
      String.ofList (ds.take (e.toNat + 1)) ++ "." ++ String.ofList (ds.drop (e.toNat + 1))
    else
      "0." ++ String.ofList (List.replicate (-e - 1).toNat '0' ++ ds)
  else
    match ds with
    | [d] => String.ofList [d] ++ "e" ++ style.exponentText e
    | d :: rest => String.ofList (d :: '.' :: rest) ++ "e" ++ style.exponentText e
    | [] => ""

/-- The text of a finite number. -/
def finiteText (style : FloatStyle) (negative : Bool) (significand : Nat) (exponent : Int) :
    String :=
  (if negative then "-" else "") ++
    if significand = 0 then "0.0" else style.place (Binary64.shortest significand exponent)

/-- The style of diagnostic text and engine literals: a point from `1e-4` to below `1e16`, signed
exponents of two digits. -/
def plain : FloatStyle := ⟨-4, 16, "+", 2⟩

/-- The style of JSON documents: a point from `1e-5` to below `1e16`, bare exponents. -/
def json : FloatStyle := ⟨-5, 16, "", 1⟩

end FloatStyle

/-- The text of a number outside JSON. -/
def Binary64.text : Binary64 → String
  | .finite negative m e _ => FloatStyle.plain.finiteText negative m e
  | .infinite negative => if negative then "-inf" else "inf"
  | .nan _ => "nan"

end QueryTemplate
