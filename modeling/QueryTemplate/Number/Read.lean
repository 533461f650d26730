import QueryTemplate.Number.Decimal

/-!
# Reading double-precision numbers

A double-precision number is read as the decimal number its text denotes, rounded.  The words for
infinity and for what is no number are those of decimals, without payload or signal.  Underscores
are allowed only as separators between two digits.
-/

namespace QueryTemplate

/-- The nearest double-precision number. -/
def Decimal.toBinary64 : Decimal → Binary64
  | .finite negative c e => .ofDecimal negative c e
  | .infinite negative => .infinite negative
  | .nan _ _ _ _ => .nan none

/-- Drops separators, each of which must stand between two digits; `afterDigit` tells of the
character before. -/
def dropSeparators (afterDigit : Bool) : List Char → Option (List Char)
  | [] => some []
  | c :: cs =>
    if c = '_' then
      if afterDigit && cs.head?.any Char.isDigit then dropSeparators false cs else none
    else (dropSeparators c.isDigit cs).map (c :: ·)

/-- Reads a double-precision number. -/
def Binary64.read? (s : String) : Option Binary64 :=
  match (Decimal.plainChars s).bind (dropSeparators false) with
  | none => none
  | some cs =>
    let (negative, body) := match cs with
      | '-' :: rest => (true, rest)
      | '+' :: rest => (false, rest)
      | rest => (false, rest)
    match body.map Char.toLower with
    | ['i', 'n', 'f'] => some (.infinite negative)
    | ['i', 'n', 'f', 'i', 'n', 'i', 't', 'y'] => some (.infinite negative)
    | ['n', 'a', 'n'] => some (.nan none)
    | _ =>
      let whole := body.takeWhile Char.isDigit
      let rest := body.dropWhile Char.isDigit
      let (fraction, rest) := match rest with
        | '.' :: more => (more.takeWhile Char.isDigit, more.dropWhile Char.isDigit)
        | _ => ([], rest)
      if whole.isEmpty && fraction.isEmpty then none
      else
        let exponent? := match rest with
          | [] => some 0
          | c :: more => if c == 'e' || c == 'E' then Decimal.readExponent more else none
        exponent?.map fun e =>
          .ofDecimal negative (Text.digitsToNat (whole ++ fraction)) (e - fraction.length)

end QueryTemplate
