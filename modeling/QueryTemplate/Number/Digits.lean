/-!
# Integers of many digits

An integer is read from a text of at most so many digits, and written as one: a longer text is not
read, and a longer integer has no text.  Numbers with a point are not limited.
-/

namespace QueryTemplate

/-- The most digits of an integer that is read or written. -/
def maxDigits : Nat := 4300

/-- Why an integer is not read or not written. -/
inductive DigitsError where
  /-- The text has so many digits. -/
  | read (digits : Nat)
  | write
  deriving DecidableEq

/-- The text of the error. -/
def DigitsError.message (e : DigitsError) : String :=
  let found := match e with
    | .read digits => ": value has " ++ toString digits ++ " digits"
    | .write => ""
  "Exceeds the limit (" ++ toString maxDigits ++ " digits) for integer string conversion" ++
    found ++ "; use sys.set_int_max_str_digits() to increase the limit"

/-- Has an integer too many digits to be written? -/
def hasManyDigits (i : Int) : Bool :=
  decide (Nat.pow 10 maxDigits ≤ i.natAbs)

theorem hasManyDigits_natCast {n : Nat} :
    hasManyDigits n = true ↔ Nat.pow 10 maxDigits ≤ n :=
  decide_eq_true_iff

end QueryTemplate
