import QueryTemplate.Text.Blank
import QueryTemplate.Text.Digit
import QueryTemplate.Number.Binary64

/-!
# Decimal numbers

A decimal number keeps the digits it was written with: `1.50` and `1.5` are two numbers of one
value.  Its text is positional for moderate exponents and scientific beyond, and reading the text
gives the number back.
-/

namespace QueryTemplate

/-- A decimal number.  A payload of zero is no payload.  One that is not a number carries the name
of its object like a double-precision number. -/
inductive Decimal where
  | finite (negative : Bool) (coefficient : Nat) (exponent : Int)
  | infinite (negative : Bool)
  | nan (negative signaling : Bool) (payload : Nat) (object : Option Nat)
  deriving DecidableEq, Inhabited

namespace Decimal

/-- Why a text or a triple is no decimal number. -/
inductive ReadError where
  /-- The text does not have the form of a number. -/
  | malformed
  /-- The exponent lies outside the range of decimal numbers. -/
  | outOfRange
  deriving DecidableEq

/-- The object of a number, if it has a name. -/
def object? : Decimal → Option Nat
  | .nan _ _ _ object => object
  | _ => none

/-- The number as an object of its own. -/
def fresh : Decimal → Decimal
  | .nan negative signaling payload _ => .nan negative signaling payload none
  | d => d

/-- The greatest exponent of a first digit. -/
def maxExponent : Int := 999999999999999999

/-- The least exponent of a last digit. -/
def minExponent : Int := -1999999999999999997

/-- A finite number whose digits lie in the range. -/
def checked (negative : Bool) (coefficient : Nat) (exponent : Int) : Except ReadError Decimal :=
  if exponent + Binary64.digitCount coefficient - 1 ≤ maxExponent ∧ minExponent ≤ exponent then
    .ok (.finite negative coefficient exponent)
  else .error .outOfRange

/-! ## Text -/

/-- The digits with a point before the last `-exponent` of them, or in scientific form. -/
def digitsText (coefficient : Nat) (exponent : Int) : String :=
  let ds := Nat.toDigits 10 coefficient
  let first := exponent + ds.length - 1
  if exponent ≤ 0 ∧ -6 ≤ first then
    let left := ds.length + exponent
    if exponent = 0 then String.ofList ds
    else if 0 < left then
      String.ofList (ds.take left.toNat) ++ "." ++ String.ofList (ds.drop left.toNat)
    else "0." ++ String.ofList (List.replicate (-left).toNat '0' ++ ds)
  else
    let mantissa := match ds with
      | d :: e :: rest => String.ofList (d :: '.' :: e :: rest)
      | _ => String.ofList ds
    mantissa ++ "E" ++ (if first < 0 then "-" else "+") ++ toString first.natAbs

/-- The text of a number. -/
def text : Decimal → String
  | .finite negative c e => (if negative then "-" else "") ++ digitsText c e
  | .infinite negative => (if negative then "-" else "") ++ "Infinity"
  | .nan negative signaling payload _ =>
    (if negative then "-" else "") ++ (if signaling then "sNaN" else "NaN") ++
      (if payload = 0 then "" else toString payload)

/-! ## Reading -/

/-- The ASCII form of a text: blanks at the ends dropped, every digit as an ASCII digit.  No other
character beyond ASCII may occur. -/
def plainChars (s : String) : Option (List Char) :=
  (Text.trim s.toList).mapM fun c =>
    if c.toNat < 128 then if c.toNat = 0 then none else some c
    else if Text.isBlank c then some ' '
    else (Text.digitValue? c).map Nat.digitChar

/-- An exponent: an optional sign and at least one digit. -/
def readExponent (cs : List Char) : Option Int :=
  let (negative, ds) := match cs with
    | '-' :: ds => (true, ds)
    | '+' :: ds => (false, ds)
    | ds => (false, ds)
  if ds.isEmpty || !ds.all Char.isDigit then none
  else
    let n : Int := Text.digitsToNat ds
    some (if negative then -n else n)

/-- Digits with at most one point and an optional exponent. -/
def readFinite (negative : Bool) (cs : List Char) : Except ReadError Decimal :=
  let whole := cs.takeWhile Char.isDigit
  let rest := cs.dropWhile Char.isDigit
  let (fraction, rest) := match rest with
    | '.' :: more => (more.takeWhile Char.isDigit, more.dropWhile Char.isDigit)
    | _ => ([], rest)
  if whole.isEmpty && fraction.isEmpty then .error .malformed
  else
    let exponent? := match rest with
      | [] => some 0
      | c :: more => if c == 'e' || c == 'E' then readExponent more else none
    match exponent? with
    | none => .error .malformed
    | some e => checked negative (Text.digitsToNat (whole ++ fraction)) (e - fraction.length)

/-- The payload of a number that is not one. -/
def readPayload (negative signaling : Bool) (cs : List Char) : Except ReadError Decimal :=
  if cs.all Char.isDigit then .ok (.nan negative signaling (Text.digitsToNat cs) none)
  else .error .malformed

/-- A number without its sign. -/
def readUnsigned (negative : Bool) (cs : List Char) : Except ReadError Decimal :=
  match cs.map Char.toLower with
  | ['i', 'n', 'f'] => .ok (.infinite negative)
  | ['i', 'n', 'f', 'i', 'n', 'i', 't', 'y'] => .ok (.infinite negative)
  | 'n' :: 'a' :: 'n' :: payload => readPayload negative false payload
  | 's' :: 'n' :: 'a' :: 'n' :: payload => readPayload negative true payload
  | _ => readFinite negative cs

/-- Reads a number: a sign, then digits with a point and an exponent, or one of the words
`inf`, `infinity`, `nan` and `snan` in any case.  Underscores do not count. -/
def read (s : String) : Except ReadError Decimal :=
  match (plainChars s).map (List.filter (· != '_')) with
  | none => .error .malformed
  | some ('-' :: cs) => readUnsigned true cs
  | some ('+' :: cs) => readUnsigned false cs
  | some cs => readUnsigned false cs

/-! ## Other numbers as decimals -/

/-- An integer. -/
def ofInt (i : Int) : Decimal :=
  .finite (i < 0) i.natAbs 0

/-- Halves an even significand, at most `fuel` times. -/
def reduce : Nat → Nat → Nat × Nat
  | 0, m => (m, 0)
  | fuel + 1, m => if m % 2 = 0 then reduce fuel (m / 2) else (m, fuel + 1)

/-- The exact value of a double-precision number, with no digit more than it needs. -/
def ofBinary64 : Binary64 → Decimal
  | .finite negative m (.ofNat k) _ => .finite negative (m * Nat.pow 2 k) 0
  | .finite negative m (.negSucc k) _ =>
    if m = 0 then .finite negative 0 0
    else
      let (m, k) := reduce (k + 1) m
      .finite negative (m * Nat.pow 5 k) (-k)
  | .infinite negative => .infinite negative
  | .nan _ => .nan false false 0 none

end Decimal

end QueryTemplate
