/-!
# Double-precision numbers

A number of the binary64 format is a signed significand scaled by a power of two, an infinity, or
not a number.  The significand and exponent of a finite number are canonical, so two numbers are
the same exactly when their parts are.  `round` takes an exact quotient to the nearest number of
the format, ties to the even significand; reading a decimal text is rounding its exact value.

Powers are written `Nat.pow`, here and in other definitions: what `^` stands for depends on the
algebra that is imported.
-/

namespace QueryTemplate

/-- The significand has 53 bits, and all of them unless the exponent is the least one. -/
def Binary64.Canonical (significand : Nat) (exponent : Int) : Prop :=
  significand < Nat.pow 2 53 ∧ -1074 ≤ exponent ∧ exponent ≤ 971 ∧
    (significand < Nat.pow 2 52 → exponent = -1074)

instance (significand : Nat) (exponent : Int) :
    Decidable (Binary64.Canonical significand exponent) :=
  inferInstanceAs (Decidable (_ ∧ _ ∧ _ ∧ (_ → _)))

/-- A double-precision number; a finite one is `± significand * 2 ^ exponent`.  One that is not a
number carries the name of its object where that may be met in several places; without a name it
is an object of its own. -/
inductive Binary64 where
  | finite (negative : Bool) (significand : Nat) (exponent : Int)
      (canonical : Binary64.Canonical significand exponent)
  | infinite (negative : Bool)
  | nan (object : Option Nat)
  deriving DecidableEq

namespace Binary64

/-- The zero of a sign. -/
def zero (negative : Bool) : Binary64 :=
  .finite negative 0 (-1074) (by decide)

instance : Inhabited Binary64 := ⟨zero false⟩

/-- The quotient rounded to the nearest natural number, ties to the even one. -/
def roundHalfEven (num den : Nat) : Nat :=
  let q := num / den
  let r := num % den
  if 2 * r < den then q else if den < 2 * r then q + 1 else q + q % 2

/-- `num / den` scaled by a power of two, as a quotient of natural numbers. -/
def scale (num den : Nat) (exponent : Int) : Nat × Nat :=
  match exponent with
  | .ofNat k => (num * Nat.pow 2 k, den)
  | .negSucc k => (num, den * Nat.pow 2 (k + 1))

/-- The exponent of the significand that a positive quotient is rounded to. -/
def targetExponent (num den : Nat) : Int :=
  let s : Int := num.log2 - den.log2
  let (n, d) := scale num den (-s)
  max (-1074) (if d ≤ n then s - 52 else s - 53)

/-- The number nearest to `± num / den`; a magnitude beyond the finite ones is infinite. -/
def round (negative : Bool) (num den : Nat) : Binary64 :=
  let e := targetExponent num den
  let (n, d) := scale num den (-e)
  let m := roundHalfEven n d
  let (m, e) :=
    if m = Nat.pow 2 53 then (Nat.pow 2 52, e + 1) else if m = 0 then (0, -1074) else (m, e)
  if h : Canonical m e then .finite negative m e h else .infinite negative

/-- The count of decimal digits. -/
def digitCount (n : Nat) : Nat :=
  (Nat.toDigits 10 n).length

/-- The number nearest to `± coefficient * 10 ^ exponent`.  Exponents far outside the format are
settled by the position of the first digit. -/
def ofDecimal (negative : Bool) (coefficient : Nat) (exponent : Int) : Binary64 :=
  if coefficient = 0 then zero negative
  else
    let top := exponent + digitCount coefficient
    if 400 < top then .infinite negative
    else if top < -400 then zero negative
    else match exponent with
      | .ofNat k => round negative (coefficient * Nat.pow 10 k) 1
      | .negSucc k => round negative coefficient (Nat.pow 10 (k + 1))

/-- The object of a number, if it has a name. -/
def object? : Binary64 → Option Nat
  | .nan object => object
  | _ => none

/-- The number as an object of its own. -/
def fresh : Binary64 → Binary64
  | .nan _ => .nan none
  | x => x

/-- The exact magnitude of a finite number as a quotient. -/
def magnitude (significand : Nat) (exponent : Int) : Nat × Nat :=
  scale significand 1 exponent

end Binary64

end QueryTemplate
