import QueryTemplate.Json.Basic
import QueryTemplate.Number.Shortest
import QueryTemplate.Text.Quoted

/-!
# JSON text

A document is written on one line, or with one item per line and an indentation.  Texts keep
every character but quotation marks, backslashes and control characters.  What has no number in
JSON is written as null.
-/

namespace QueryTemplate.Json

/-- Where lines are broken. -/
inductive Layout where
  /-- All on one line, without spaces. -/
  | compact
  /-- One item per line, each level indented by so many spaces more. -/
  | lines (indent : Nat)
  deriving DecidableEq

/-- The break before an item or a closing bracket at a depth. -/
def Layout.lineBreak : Layout → Nat → List Char
  | .compact, _ => []
  | .lines indent, depth => '\n' :: List.replicate (indent * depth) ' '

/-- What stands between the name and the value of a field. -/
def Layout.colon : Layout → List Char
  | .compact => [':']
  | .lines _ => [':', ' ']

/-- One character between the quotation marks. -/
def escape (c : Char) : List Char :=
  if c == '"' || c == '\\' then ['\\', c]
  else if c == '\n' then ['\\', 'n']
  else if c == '\r' then ['\\', 'r']
  else if c == '\t' then ['\\', 't']
  else if c.toNat = 8 then ['\\', 'b']
  else if c.toNat = 12 then ['\\', 'f']
  else if c.toNat < 32 then '\\' :: 'u' :: Text.hexDigits 4 c.toNat
  else [c]

/-- A text between quotation marks. -/
def textChars (s : String) : List Char :=
  '"' :: s.toList.flatMap escape ++ ['"']

/-- A number with a fraction. -/
def floatChars : Binary64 → List Char
  | .finite negative m e _ => (FloatStyle.json.finiteText negative m e).toList
  | _ => "null".toList

mutual

/-- The characters of a value at a depth. -/
def chars (layout : Layout) (depth : Nat) : Json → List Char
  | .null => "null".toList
  | .bool b => (if b then "true" else "false").toList
  | .int i => (toString i).toList
  | .float x => floatChars x
  | .text s => textChars s
  | .list [] => ['[', ']']
  | .list (x :: xs) =>
    '[' :: layout.lineBreak (depth + 1) ++ chars layout (depth + 1) x ++
      itemChars layout (depth + 1) xs ++ layout.lineBreak depth ++ [']']
  | .object [] => ['\x7b', '\x7d']
  | .object (f :: fs) =>
    '\x7b' :: fieldChars layout (depth + 1) (f :: fs) ++ layout.lineBreak depth ++ ['\x7d']

/-- The items after the first, each behind a comma. -/
def itemChars (layout : Layout) (depth : Nat) : List Json → List Char
  | [] => []
  | x :: xs =>
    ',' :: layout.lineBreak depth ++ chars layout depth x ++ itemChars layout depth xs

/-- The fields of an object, with commas between them. -/
def fieldChars (layout : Layout) (depth : Nat) : List (String × Json) → List Char
  | [] => []
  | (name, v) :: fs =>
    layout.lineBreak depth ++ textChars name ++ layout.colon ++ chars layout depth v ++
      (if fs.isEmpty then [] else [',']) ++ fieldChars layout depth fs

end

/-- The text of a document. -/
def render (layout : Layout) (j : Json) : String :=
  String.ofList (j.chars layout 0)

end QueryTemplate.Json
