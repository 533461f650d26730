import QueryTemplate.Expression.Token
import QueryTemplate.Expression.Tree
import QueryTemplate.Number.Binary64
import QueryTemplate.Number.Digits
import QueryTemplate.Text.Quoted

/-!
# Reading an expression

The tree of an expression, by the grammar

    or         := and (('or' | '||') and)*
    and        := unary (('and' | '&&') unary)*
    unary      := ('not' | '!') unary | comparison
    comparison := operand [op operand | 'in' operand | 'not' 'in' operand]
    operand    := @name | number | text | 'true' | 'false' | 'null'
                | '(' or ')' | '[' list ']' | '{' list '}'
    list       := [operand (',' operand)*]

with keywords in any case of letters.  A comparison joins two operands and no more, and a
connection of one operand is that operand.  An integer of more digits than the limit is not read:
the first one met where an operand is due ends the reading with an error that is not the library's
own.
-/

namespace QueryTemplate

/-- Why a text is no expression. -/
inductive ExpressionError where
  | unexpectedCharacter (e : Token.Unexpected)
  | empty
  | unexpectedEnd
  /-- A token that cannot stand where an operand is due. -/
  | noOperand (token : Token)
  /-- A token after the end of the expression. -/
  | leftOver (text : String)
  /-- Something other than the text that is due. -/
  | expected (due : String) (found : Option String)
  /-- An integer of so many digits. -/
  | tooLong (digits : Nat)
  deriving DecidableEq

/-- Is it an error of the library?  That of an integer too long to read is not. -/
def ExpressionError.isOwn : ExpressionError → Bool
  | .tooLong _ => false
  | _ => true

/-- The text of an error about the expression `source`. -/
def ExpressionError.message (source : String) : ExpressionError → String
  | .unexpectedCharacter ⟨c, position⟩ =>
    "Unexpected character " ++ Text.quoted (String.singleton c) ++ " at " ++ toString position ++
      " in: " ++ source
  | .empty => "Empty boolean expression"
  | .unexpectedEnd => "Unexpected end of expression in: " ++ source
  | .noOperand token =>
    "Unexpected token " ++ Text.quoted token.text ++ " at " ++ toString token.position ++
      " in: " ++ source
  | .leftOver text => "Unexpected token " ++ Text.quoted text ++ " in: " ++ source
  | .expected due found =>
    "Expected " ++ Text.quoted due ++ " but found " ++
      Text.quoted (found.getD "end of expression") ++ " in: " ++ source
  | .tooLong digits => (DigitsError.read digits).message

namespace Token

/-- Is the token this operator? -/
def isOp (t : Token) (text : String) : Bool :=
  t.kind == .op && t.text == text

/-- Is the token this word, in any case of letters? -/
def isKeyword (t : Token) (text : String) : Bool :=
  t.kind == .word && t.text.toLower == text

/-- Does the token say "or"? -/
def saysOr (t : Token) : Bool := t.isKeyword "or" || t.isOp "||"

/-- Does the token say "and"? -/
def saysAnd (t : Token) : Bool := t.isKeyword "and" || t.isOp "&&"

/-- Does the token say "not"? -/
def saysNot (t : Token) : Bool := t.isKeyword "not" || t.isOp "!"

/-- The comparison that an operator token stands for. -/
def comparison? (t : Token) : Option Operator :=
  if t.kind = .op then
    match t.text with
    | "==" | "=" => some .eq
    | "!=" | "<>" => some .ne
    | ">" => some .gt
    | ">=" => some .ge
    | "<" => some .lt
    | "<=" => some .le
    | _ => none
  else none

/-- The text inside apostrophes, pairs of them taken for one. -/
def unpairMarks : List Char → List Char
  | '\'' :: '\'' :: rest => '\'' :: unpairMarks rest
  | c :: rest => c :: unpairMarks rest
  | [] => []

/-- The text inside quotation marks, without the backslashes that protect a character. -/
def unescape : List Char → List Char
  | '\\' :: c :: rest => c :: unescape rest
  | c :: rest => c :: unescape rest
  | [] => []

/-- The text that a quoted token stands for. -/
def unquote (s : String) : String :=
  match s.toList with
  | '\'' :: body => String.ofList (unpairMarks body.dropLast)
  | _ :: body => String.ofList (unescape body.dropLast)
  | [] => ""

/-- The number that a token stands for: double-precision when it has a point. -/
def number (s : String) : Number :=
  let (negative, cs) := match s.toList with
    | '-' :: cs => (true, cs)
    | cs => (false, cs)
  let whole := cs.takeWhile (· != '.')
  match cs.drop whole.length with
  | _ :: fraction =>
    .float (.ofDecimal negative (Text.digitsToNat (whole ++ fraction)) (-fraction.length))
  | [] =>
    let n : Int := Text.digitsToNat whole
    .int (if negative then -n else n)

/-- The count of digits of an integer token that has more than the limit. -/
def manyDigits? (limit : Nat) (t : Token) : Option Nat :=
  let digits := (t.text.toList.filter Text.isDigit).length
  if t.kind = .number ∧ '.' ∉ t.text.toList ∧ limit < digits then some digits else none

/-- The constant or parameter that a token stands for by itself. -/
def atom? (t : Token) : Option Tree :=
  match t.kind with
  | .param => some (.param (String.ofList t.text.toList.tail))
  | .number => some (.const (.number (number t.text)))
  | .string => some (.const (.text (unquote t.text)))
  | .word =>
    if t.isKeyword "true" then some (.const (.bool true))
    else if t.isKeyword "false" then some (.const (.bool false))
    else if t.isKeyword "null" then some (.const .null)
    else none
  | .op => none

/-- The bracket that closes the list this token opens. -/
def listClose? (t : Token) : Option String :=
  if t.isOp "[" then some "]" else if t.isOp "\x7b" then some "\x7d" else none

end Token

/-- A connection of operands, which is the operand itself when there is one only. -/
def connect (make : List Tree → Tree) : List Tree → Tree
  | [t] => t
  | ts => make ts

/-- Takes the operator that is due. -/
def takeOp (due : String) : List Token → Except ExpressionError (List Token)
  | [] => .error (.expected due none)
  | t :: rest => if t.isOp due then .ok rest else .error (.expected due (some t.text))

/-- The comparison that follows an operand, with the tokens after its operator. -/
def comparisonAhead? : List Token → Option (Operator × List Token)
  | [] => none
  | t :: rest =>
    match t.comparison? with
    | some op => some (op, rest)
    | none =>
      if t.isKeyword "in" then some (.isIn, rest)
      else if t.isKeyword "not" then
        match rest with
        | u :: rest => if u.isKeyword "in" then some (.notIn, rest) else none
        | [] => none
      else none

namespace Tree

mutual

/-- Reads an alternative, with integers of so many digits at most.  A step of fuel pays for each
rule of the grammar. -/
def parseOr (limit : Nat) : Nat → List Token → Except ExpressionError (Tree × List Token)
  | 0, _ => .error .unexpectedEnd
  | fuel + 1, ts => do
    let (first, ts) ← parseAnd limit fuel ts
    let (more, ts) ← parseOrTail limit fuel ts
    .ok (connect .or (first :: more), ts)

/-- Reads the further operands of an alternative. -/
def parseOrTail (limit : Nat) : Nat → List Token → Except ExpressionError (List Tree × List Token)
  | 0, ts => .ok ([], ts)
  | fuel + 1, ts =>
    match ts with
    | [] => .ok ([], [])
    | t :: rest =>
      if t.saysOr then do
        let (next, ts) ← parseAnd limit fuel rest
        let (more, ts) ← parseOrTail limit fuel ts
        .ok (next :: more, ts)
      else .ok ([], t :: rest)

/-- Reads a conjunction. -/
def parseAnd (limit : Nat) : Nat → List Token → Except ExpressionError (Tree × List Token)
  | 0, _ => .error .unexpectedEnd
  | fuel + 1, ts => do
    let (first, ts) ← parseUnary limit fuel ts
    let (more, ts) ← parseAndTail limit fuel ts
    .ok (connect .and (first :: more), ts)

/-- Reads the further operands of a conjunction. -/
def parseAndTail (limit : Nat) : Nat → List Token → Except ExpressionError (List Tree × List Token)
  | 0, ts => .ok ([], ts)
  | fuel + 1, ts =>
    match ts with
    | [] => .ok ([], [])
    | t :: rest =>
      if t.saysAnd then do
        let (next, ts) ← parseUnary limit fuel rest
        let (more, ts) ← parseAndTail limit fuel ts
        .ok (next :: more, ts)
      else .ok ([], t :: rest)

/-- Reads a negation or a comparison. -/
def parseUnary (limit : Nat) : Nat → List Token → Except ExpressionError (Tree × List Token)
  | 0, _ => .error .unexpectedEnd
  | fuel + 1, ts =>
    match ts with
    | [] => .error .unexpectedEnd
    | t :: rest =>
      if t.saysNot then do
        let (operand, ts) ← parseUnary limit fuel rest
        .ok (.not operand, ts)
      else parseComparison limit fuel (t :: rest)

/-- Reads an operand, and a second one if they are compared. -/
def parseComparison (limit : Nat) : Nat → List Token → Except ExpressionError (Tree × List Token)
  | 0, _ => .error .unexpectedEnd
  | fuel + 1, ts => do
    let (left, ts) ← parseOperand limit fuel ts
    match comparisonAhead? ts with
    | none => .ok (left, ts)
    | some (op, ts) => do
      let (right, ts) ← parseOperand limit fuel ts
      .ok (.compare op left right, ts)

/-- Reads an operand. -/
def parseOperand (limit : Nat) : Nat → List Token → Except ExpressionError (Tree × List Token)
  | 0, _ => .error .unexpectedEnd
  | fuel + 1, ts =>
    match ts with
    | [] => .error .unexpectedEnd
    | t :: rest =>
      match t.manyDigits? limit with
      | some digits => .error (.tooLong digits)
      | none =>
        match t.atom? with
        | some tree => .ok (tree, rest)
        | none =>
          if t.isOp "(" then do
            let (tree, ts) ← parseOr limit fuel rest
            let ts ← takeOp ")" ts
            .ok (tree, ts)
          else
            match t.listClose? with
            | none => .error (.noOperand t)
            | some close =>
              match takeOp close rest with
              | .ok ts => .ok (.list [], ts)
              | .error _ => do
                let (items, ts) ← parseItems limit fuel close rest
                .ok (.list items, ts)

/-- Reads the items of a list, up to its closing bracket. -/
def parseItems (limit : Nat) :
    Nat → String → List Token → Except ExpressionError (List Tree × List Token)
  | 0, _, _ => .error .unexpectedEnd
  | fuel + 1, close, ts => do
    let (item, ts) ← parseOperand limit fuel ts
    match takeOp close ts with
    | .ok ts => .ok ([item], ts)
    | .error _ => do
      let ts ← takeOp "," ts
      let (items, ts) ← parseItems limit fuel close ts
      .ok (item :: items, ts)

end

/-- Fuel for any number of tokens: between two of them at most six rules are entered. -/
def fuelFor (ts : List Token) : Nat :=
  6 * ts.length + 6

/-- The tree of an expression given by its tokens. -/
def ofTokens (limit : Nat) (ts : List Token) : Except ExpressionError Tree :=
  if ts.isEmpty then .error .empty
  else
    match parseOr limit (fuelFor ts) ts with
    | .error e => .error e
    | .ok (tree, []) => .ok tree
    | .ok (_, t :: _) => .error (.leftOver t.text)

/-- The tree of an expression. -/
def parse (source : String) : Except ExpressionError Tree :=
  match Token.scan source with
  | .error e => .error (.unexpectedCharacter e)
  | .ok ts => ofTokens maxDigits ts

end Tree

end QueryTemplate
