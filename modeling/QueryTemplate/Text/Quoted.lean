import QueryTemplate.Text.Printable

/-!
# Quoted text

Diagnostic messages show a text between quotation marks, with escapes for what would not survive
on one line.  The mark is the apostrophe, unless the text holds apostrophes and no double
quotation mark; so equal texts are shown alike and different texts differently, and the shown form
can serve as a sort key.
-/

namespace QueryTemplate.Text

/-- At least `width` lowercase hexadecimal digits. -/
def hexDigits (width n : Nat) : List Char :=
  let ds := Nat.toDigits 16 n
  List.replicate (width - ds.length) '0' ++ ds

/-- The quotation mark for a text with these characters. -/
def quoteMark (cs : List Char) : Char :=
  if cs.contains '\'' && !cs.contains '"' then '"' else '\''

/-- One character between the marks `mark`. -/
def escapeChar (mark c : Char) : List Char :=
  if c == '\\' || c == mark then ['\\', c]
  else if c == '\n' then ['\\', 'n']
  else if c == '\r' then ['\\', 'r']
  else if c == '\t' then ['\\', 't']
  else if isPrintable c then [c]
  else if c.toNat < 0x100 then '\\' :: 'x' :: hexDigits 2 c.toNat
  else if c.toNat < 0x10000 then '\\' :: 'u' :: hexDigits 4 c.toNat
  else '\\' :: 'U' :: hexDigits 8 c.toNat

/-- A text between quotation marks, on one line. -/
def quoted (s : String) : String :=
  let cs := s.toList
  let mark := quoteMark cs
  String.ofList (mark :: cs.flatMap (escapeChar mark) ++ [mark])

/-- One byte between the marks `mark`: the printable ASCII characters stand for themselves, except
apostrophes where `apostrophes` says so. -/
def escapeByte (apostrophes : Bool) (mark : Char) (b : UInt8) : List Char :=
  let c := Char.ofNat b.toNat
  if apostrophes && c == '\'' then ['\\', c]
  else if b < 128 then escapeChar mark c
  else '\\' :: 'x' :: hexDigits 2 b.toNat

/-- Bytes between quotation marks, on one line.  Apostrophes between double quotation marks need
no escape; they get one where `apostrophes` says so. -/
def quotedBytes (apostrophes : Bool) (bytes : List UInt8) : String :=
  let mark := quoteMark (bytes.map fun b => Char.ofNat b.toNat)
  String.ofList (mark :: bytes.flatMap (escapeByte apostrophes mark) ++ [mark])

example : quoted "it's" = "\"it's\"" := by decide +kernel
example : quoted "a\n'\"" = "'a\\n\\'\"'" := by decide +kernel

end QueryTemplate.Text
