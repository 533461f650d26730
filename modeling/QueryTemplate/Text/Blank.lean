/-!
# Blank characters

Blank characters separate words, fill blank lines and are trimmed from the ends of a text: the
characters with the Unicode property White_Space, and the four information separators
`U+001C` to `U+001F`.
-/

namespace QueryTemplate.Text

/-- A white space character or an information separator. -/
def isBlank (c : Char) : Bool :=
  let n := c.toNat
  (9 ≤ n && n ≤ 13) || (28 ≤ n && n ≤ 32) || n == 0x85 || n == 0xa0 || n == 0x1680 ||
    (0x2000 ≤ n && n ≤ 0x200a) || n == 0x2028 || n == 0x2029 || n == 0x202f || n == 0x205f ||
    n == 0x3000

/-- Drops the blank characters at the end. -/
def trimEnd (cs : List Char) : List Char :=
  (cs.reverse.dropWhile isBlank).reverse

/-- Drops the blank characters at both ends. -/
def trim (cs : List Char) : List Char :=
  trimEnd (cs.dropWhile isBlank)

/-- A text without its blank characters at both ends. -/
def trimmed (s : String) : String :=
  String.ofList (trim s.toList)

/-- Does the text hold blank characters only? -/
def isBlankText (s : String) : Bool :=
  s.toList.all isBlank

end QueryTemplate.Text
