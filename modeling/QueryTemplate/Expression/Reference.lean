import QueryTemplate.Text.Word

/-!
# References in the text of an expression

The text of an expression names its parameters as `@name`.  The engine writes `#p['name']`
instead, so the text is cut into references and other characters; what is not a reference stays as
it is.
-/

namespace QueryTemplate

/-- A reference or a character between references. -/
inductive Piece where
  | character (c : Char)
  | reference (name : List Char)
  deriving DecidableEq

namespace Piece

/-- Cuts a text at its references, from left to right. -/
def ofChars : List Char → List Piece
  | [] => []
  | c :: rest =>
    if c = '@' ∧ rest.head?.any Text.isWordChar then
      .reference (rest.takeWhile Text.isWordChar) :: ofChars (rest.dropWhile Text.isWordChar)
    else .character c :: ofChars rest
termination_by cs => cs.length
decreasing_by
  · exact Nat.lt_succ_of_le (List.dropWhile_sublist _).length_le
  · exact Nat.lt_succ_self _

/-- The characters of a piece as they stood in the text. -/
def source : Piece → List Char
  | .character c => [c]
  | .reference name => '@' :: name

/-- The characters of a piece in the engine's form. -/
def engineChars : Piece → List Char
  | .character c => [c]
  | .reference name => "#p['".toList ++ name ++ "']".toList

/-- The name that a piece refers to. -/
def name? : Piece → Option String
  | .character _ => none
  | .reference name => some (String.ofList name)

/-- The pieces make up the text again. -/
theorem flatMap_source_ofChars (cs : List Char) : (ofChars cs).flatMap source = cs := by
  fun_induction ofChars cs with
  | case1 => rfl
  | case2 c rest h ih => simp [source, ih, h.1, List.takeWhile_append_dropWhile]
  | case3 c rest h ih => simp [source, ih]

end Piece

/-- The names that a text refers to, each once, in the order of their first reference. -/
def referencedParams (source : String) : List String :=
  ((Piece.ofChars source.toList).filterMap Piece.name?).foldl
    (fun seen name => if seen.contains name then seen else seen ++ [name]) []

/-- The text of an expression in the engine's form. -/
def engineSyntax (source : String) : String :=
  String.ofList ((Piece.ofChars source.toList).flatMap Piece.engineChars)

end QueryTemplate
