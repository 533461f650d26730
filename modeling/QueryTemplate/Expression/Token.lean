import QueryTemplate.Text.Blank
import QueryTemplate.Text.Digit
import QueryTemplate.Text.Word

/-!
# Tokens of an expression

A text is cut into tokens and blanks.  At each place the first kind of lexeme that begins there is
taken, as long as it gets: blanks, a parameter, a number, a quoted text, an operator, a word.  A
quoted text in apostrophes holds an apostrophe as two; when no apostrophe closes it after the last
such pair, the first of that pair does.
-/

namespace QueryTemplate

/-- The kind of a token. -/
inductive TokenKind where
  | param
  | number
  | string
  | op
  | word
  deriving DecidableEq

/-- The name of a kind. -/
def TokenKind.text : TokenKind → String
  | .param => "param"
  | .number => "number"
  | .string => "string"
  | .op => "op"
  | .word => "word"

/-- A token and the place where it begins, counted in characters. -/
structure Token where
  kind : TokenKind
  text : String
  position : Nat
  deriving DecidableEq

namespace Token

/-- The length of the rest of a text in apostrophes, the closing one included. -/
def singleQuoted? : List Char → Option Nat
  | [] => none
  | '\'' :: '\'' :: rest =>
    match singleQuoted? rest with
    | some n => some (n + 2)
    | none => some 1
  | '\'' :: _ => some 1
  | _ :: rest => (singleQuoted? rest).map (· + 1)

/-- The length of the rest of a text in quotation marks, the closing one included.  A backslash
takes the next character along, unless that ends the line. -/
def doubleQuoted? : List Char → Option Nat
  | [] => none
  | '"' :: _ => some 1
  | '\\' :: [] => none
  | '\\' :: c :: rest => if c = '\n' then none else (doubleQuoted? rest).map (· + 2)
  | _ :: rest => (doubleQuoted? rest).map (· + 1)

/-- The length of a number after its first digit: more digits, and a point between digits. -/
def numberTail (cs : List Char) : Nat :=
  let whole := (cs.takeWhile Text.isDigit).length
  match cs.drop whole with
  | '.' :: rest =>
    let fraction := (rest.takeWhile Text.isDigit).length
    if fraction = 0 then whole else whole + 1 + fraction
  | _ => whole

/-- The operators of two characters. -/
def isPair (c d : Char) : Bool :=
  match c, d with
  | '=', '=' | '!', '=' | '<', '>' | '>', '=' | '<', '=' | '&', '&' | '|', '|' => true
  | _, _ => false

/-- The operators and brackets of one character. -/
def isSingle (c : Char) : Bool :=
  ['=', '<', '>', '!', '(', ')', ',', '[', ']', '\x7b', '\x7d'].contains c

/-- How far a lexeme reaches beyond its first character. -/
def wordTail (cs : List Char) : Nat :=
  (cs.takeWhile Text.isWordChar).length

/-- The lexeme that begins with `c`: its kind, none for blanks, and how many characters it has
beyond the first. -/
def lexeme? (c : Char) (rest : List Char) : Option (Option TokenKind × Nat) :=
  if Text.isBlank c then some (none, (rest.takeWhile Text.isBlank).length)
  else if c = '@' then
    if wordTail rest = 0 then none else some (some .param, wordTail rest)
  else if Text.isDigit c then some (some .number, numberTail rest)
  else if c = '-' then
    match rest with
    | d :: more => if Text.isDigit d then some (some .number, numberTail more + 1) else none
    | [] => none
  else if c = '\'' then (singleQuoted? rest).map (some .string, ·)
  else if c = '"' then (doubleQuoted? rest).map (some .string, ·)
  else if rest.head?.any (isPair c) then some (some .op, 1)
  else if isSingle c then some (some .op, 0)
  else if c.isAlpha || c = '_' then some (some .word, wordTail rest)
  else none

/-- No token begins here. -/
structure Unexpected where
  character : Char
  position : Nat
  deriving DecidableEq

/-- The tokens of a text that begins at `position`. -/
def scanFrom (position : Nat) : List Char → Except Unexpected (List Token)
  | [] => .ok []
  | c :: rest =>
    match lexeme? c rest with
    | none => .error ⟨c, position⟩
    | some (kind?, n) =>
      match scanFrom (position + 1 + n) (rest.drop n) with
      | .error e => .error e
      | .ok tokens =>
        match kind? with
        | none => .ok tokens
        | some kind => .ok (⟨kind, String.ofList (c :: rest.take n), position⟩ :: tokens)
termination_by cs => cs.length
decreasing_by simp only [List.length_drop, List.length_cons]; omega

/-- The tokens of a text. -/
def scan (source : String) : Except Unexpected (List Token) :=
  scanFrom 0 source.toList

end Token

end QueryTemplate
