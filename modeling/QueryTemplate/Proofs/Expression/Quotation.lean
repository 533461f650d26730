import Mathlib.Tactic.Common
import QueryTemplate.Expression.Eval
import QueryTemplate.Proofs.Engine.Reading
import QueryTemplate.Proofs.Expression.Constants

/-!
# Texts written as literals

A text can be written between apostrophes, with each apostrophe twice, and between quotation marks,
with a backslash before each quotation mark and each backslash.  Both are spelled as quoted texts
and denote what was written, so whatever the text holds, the scanner takes the literal as a whole
and the reader gets the text back.
-/

namespace QueryTemplate

open Engine (Doubled)

namespace Token

variable {body s cs : List Char}

/-! ## Writing -/

/-- The characters of a text, with a backslash before each quotation mark and each backslash. -/
def escapeMarks : List Char → List Char
  | [] => []
  | c :: cs => if c = '\\' ∨ c = '"' then '\\' :: c :: escapeMarks cs else c :: escapeMarks cs

/-- A text as a literal between quotation marks. -/
def doubleQuote (s : String) : String :=
  String.ofList ('"' :: escapeMarks s.toList ++ ['"'])

/-- The literals of a text. -/
def literals (s : String) : List String :=
  [Engine.quote s, doubleQuote s]

lemma escaped_escapeMarks (cs : List Char) : Escaped (escapeMarks cs) cs := by
  fun_induction escapeMarks cs with
  | case1 => exact .nil
  | case2 c cs hc ih =>
    have hline : c ≠ '\n' := by rcases hc with rfl | rfl <;> decide
    exact .escape hline ih
  | case3 c cs hc ih =>
    obtain ⟨hslash, hmark⟩ := not_or.mp hc
    exact .plain hmark hslash ih

/-! ## Reading -/

/-- Both literals of a text are quoted texts, which denote it. -/
lemma spelled_literal {s form : String} (h : form ∈ literals s) :
    Spelled (some .string) form.toList ∧ unquote form = s ∧
      ∃ q cs, form.toList = q :: cs ∧ ¬ Text.isBlank q := by
  have hsingle := Engine.doubled_doubleMarks s.toList
  have hdouble := escaped_escapeMarks s.toList
  simp only [literals, List.mem_cons, List.not_mem_nil, or_false] at h
  rcases h with rfl | rfl
  · refine ⟨?_, ?_, '\'', _, String.toList_ofList, by decide⟩
    · rw [Engine.quote, String.toList_ofList]
      exact .singleQuoted hsingle
    · simp [unquote, Engine.quote, unpairMarks_of_doubled hsingle]
  · refine ⟨?_, ?_, '"', _, String.toList_ofList, by decide⟩
    · rw [doubleQuote, String.toList_ofList]
      exact .doubleQuoted hdouble
    · simp [unquote, doubleQuote, unescape_of_escaped hdouble]

/-- A literal is one token. -/
lemma scan_literal {s form : String} (h : form ∈ literals s) :
    scan form = .ok [⟨.string, form, 0⟩] := by
  rw [scan, (spelled_literal h).1.scanFrom_eq, String.ofList_toList]

/-- A parameter compared with a literal is three tokens. -/
lemma scan_comparison {name s form : String} (hname : name ≠ "")
    (hword : name.toList.all Text.isWordChar) (h : form ∈ literals s) :
    scan ("@" ++ name ++ " == " ++ form) =
      .ok [⟨.param, "@" ++ name, 0⟩, ⟨.op, "==", name.length + 2⟩,
        ⟨.string, form, name.length + 5⟩] := by
  obtain ⟨hspelled, -, q, cs, hform, hq⟩ := spelled_literal h
  have htext : ("@" ++ name ++ " == " ++ form).toList =
      '@' :: (name.toList ++ ' ' :: '=' :: '=' :: ' ' :: q :: cs) := by
    simp [hform]
  have htail : wordTail (name.toList ++ ' ' :: '=' :: '=' :: ' ' :: q :: cs) = name.length := by
    rw [wordTail, List.takeWhile_append_of_pos (List.all_eq_true.mp hword),
      List.takeWhile_cons_of_neg (by decide), List.append_nil, String.length_toList]
  have hlength : name.length ≠ 0 := by simpa using hname
  have hparam := lexeme?_at (name.toList ++ ' ' :: '=' :: '=' :: ' ' :: q :: cs)
  rw [htail, if_neg hlength] at hparam
  have hop : lexeme? '=' ('=' :: ' ' :: q :: cs) = some (some .op, 1) := rfl
  have hliteral (position : ℕ) : scanFrom position (q :: cs) = .ok [⟨.string, form, position⟩] := by
    rw [← hform, hspelled.scanFrom_eq, String.ofList_toList]
  have hat : String.ofList ('@' :: name.toList) = "@" ++ name := by
    rw [← String.toList_inj, String.toList_ofList, String.toList_append]
    rfl
  have hopAt : 0 + 1 + name.toList.length + 1 = name.length + 2 := by
    rw [String.length_toList]
    omega
  rw [scan, htext, scanFrom_cons hparam, ← String.length_toList, List.take_left, List.drop_left,
    scanFrom_blank (by decide), scanFrom_cons hop, List.drop_succ_cons, List.drop_zero,
    scanFrom_blank hq, hliteral, hat, hopAt]
  rfl

end Token

/-! ## Comparing with a text -/

open Grammar (IsOperand)
open Token (ReadAs)

variable {name s form : String}

/-- A parameter compared with a literal is a comparison with the text of the literal. -/
lemma Tree.parse_compare_literal (hname : name ≠ "")
    (hword : name.toList.all Text.isWordChar) (h : form ∈ Token.literals s) :
    Tree.parse ("@" ++ name ++ " == " ++ form) =
      .ok (.compare .eq (.param name) (.const (.text s))) := by
  obtain ⟨-, hdenotes, -⟩ := Token.spelled_literal h
  have hparam : IsOperand (ReadAs maxDigits) [⟨.param, "@" ++ name, 0⟩] (.param name) := by
    have hread : IsOperand (ReadAs maxDigits) [⟨.param, "@" ++ name, 0⟩] _ := .param rfl
    simpa using hread
  have htext : IsOperand (ReadAs maxDigits) [⟨.string, form, name.length + 5⟩]
      (.const (.text s)) := by
    have hread : ReadAs maxDigits ⟨.string, form, name.length + 5⟩ _ := .text rfl
    rw [hdenotes] at hread
    exact .const hread
  have hsign : Grammar.IsComparator [⟨.op, "==", name.length + 2⟩] .eq :=
    .sign rfl List.mem_cons_self
  have hcompare := Grammar.IsUnary.comparison (.compare hparam hsign htext)
  exact Grammar.parse_eq_ok_iff.mpr ⟨_, Token.scan_comparison hname hword h, hcompare.isAnd.isOr⟩

/-- A comparison with a text is true of that text alone among texts. -/
lemma Tree.eval_compare_text {r : String} {b : Binding} (h : b.get? name = some (.text r)) :
    Tree.eval (.compare .eq (.param name) (.const (.text s))) b =
      .ok (.bool (decide (r = s))) := by
  have hget : b.getD name = .text r := by rw [Binding.getD, h, Option.getD_some]
  rw [Tree.eval, Tree.operand, Tree.operand, Tree.operand, hget]
  rfl

/-- Whatever a text holds, each of its literals is one token, a parameter compared with the literal
is read as its comparison with the text, and where the parameter is a text, the comparison is true
if that is the same text and false otherwise. -/
theorem literals_read_back (s name : String) (hname : name ≠ "")
    (hword : name.toList.all Text.isWordChar) :
    ∀ form ∈ Token.literals s, Token.scan form = .ok [⟨.string, form, 0⟩] ∧
      Tree.parse ("@" ++ name ++ " == " ++ form) =
        .ok (.compare .eq (.param name) (.const (.text s))) ∧
      ∀ b r, b.get? name = some (.text r) →
        Tree.eval (.compare .eq (.param name) (.const (.text s))) b =
          .ok (.bool (decide (r = s))) := by
  intro form h
  refine ⟨Token.scan_literal h, Tree.parse_compare_literal hname hword h, ?_⟩
  intro b r hget
  exact Tree.eval_compare_text hget

/-- A text that looks like an expression, with an apostrophe, a quotation mark and a backslash. -/
theorem awkward_text_read_back :
    Token.literals "it's \" or @y == '\\" =
        ["'it''s \" or @y == ''\\'", "\"it's \\\" or @y == '\\\\\""] ∧
      (Tree.parse "@x == 'it''s \" or @y == ''\\'" =
        .ok (.compare .eq (.param "x") (.const (.text "it's \" or @y == '\\")))) ∧
      Tree.eval (.compare .eq (.param "x") (.const (.text "it's \" or @y == '\\")))
        (.ofFields [("x", .text "it's")]) = .ok (.bool false) := by
  have hforms : Token.literals "it's \" or @y == '\\" =
      ["'it''s \" or @y == ''\\'", "\"it's \\\" or @y == '\\\\\""] := by decide +kernel
  obtain ⟨-, hparse, heval⟩ := literals_read_back "it's \" or @y == '\\" "x" (by decide)
    (by decide +kernel) "'it''s \" or @y == ''\\'" (by rw [hforms]; exact List.mem_cons_self)
  exact ⟨hforms, hparse, heval _ "it's" rfl⟩

end QueryTemplate
