import QueryTemplate.Text.Blank

/-!
# Lines of a statement

Leaving out text can leave lines that hold nothing but blanks.  Tidying drops every such line that
a line break ends, and then trims both ends of the text.

Blank lines are searched from the beginning of a line: as many blanks as there are, line breaks
among them, and then back to the last place where a line break follows.  So one step drops all
blank lines that follow each other, and leaves the blanks in front of the next text.
-/

namespace QueryTemplate.Text

/-- The lines of a text: what stands between its line breaks. -/
def lines : List Char → List (List Char)
  | [] => [[]]
  | c :: cs =>
    if c = '\n' then [] :: lines cs
    else match lines cs with
      | [] => [[c]]
      | l :: ls => (c :: l) :: ls

/-- Lines put together again. -/
def unlines : List (List Char) → List Char
  | [] => []
  | [l] => l
  | l :: ls => l ++ '\n' :: unlines ls

/-- Does a line end here, before a line feed or with the text? -/
def endsLine : List Char → Bool
  | [] => true
  | c :: _ => c == '\n'

/-- The length of the line break here: a line feed, with or without a carriage return, where a line
ends. -/
def breakLength? (cs : List Char) : Option Nat :=
  if endsLine cs then
    match cs with
    | '\n' :: _ => some 1
    | '\r' :: '\n' :: _ => some 2
    | _ => none
  else none

/-- The length of the blanks here together with a line break behind them, for as many blanks as
possible. -/
def blankLength? : List Char → Option Nat
  | [] => breakLength? []
  | c :: cs =>
    if isBlank c then ((blankLength? cs).map (· + 1)).or (breakLength? (c :: cs))
    else breakLength? (c :: cs)

/-- Drops the blank lines of a text.  `atStart` tells whether a line begins here, and `skip` counts
the characters of a blank line that are still to be dropped. -/
def dropBlankLines (atStart : Bool) (skip : Nat) : List Char → List Char
  | [] => []
  | c :: cs =>
    match skip with
    | skip + 1 => dropBlankLines (c == '\n') skip cs
    | 0 =>
      match (if atStart then blankLength? (c :: cs) else none) with
      | some length => dropBlankLines (c == '\n') (length - 1) cs
      | none => c :: dropBlankLines (c == '\n') 0 cs

/-- A text without blank lines and without blanks at its ends. -/
def tidy (s : String) : String :=
  String.ofList (trim (dropBlankLines true 0 s.toList))

theorem lines_ne_nil (cs : List Char) : lines cs ≠ [] := by
  cases cs with
  | nil => simp [lines]
  | cons c cs =>
    simp only [lines]
    split
    · simp
    · split <;> simp

/-- The lines make up the text. -/
theorem unlines_lines (cs : List Char) : unlines (lines cs) = cs := by
  induction cs with
  | nil => rfl
  | cons c cs ih =>
    simp only [lines]
    cases h : lines cs with
    | nil => exact absurd h (lines_ne_nil cs)
    | cons l ls =>
      rw [h] at ih
      split
      next hc => simp [unlines, ih, hc]
      next => cases ls <;> simp_all [unlines]

end QueryTemplate.Text
