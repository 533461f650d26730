import QueryTemplate.Value.Inspect

/-!
# Literals of the template engine

A stored statement can be shown as text for an expression-template engine.  Inside it texts stand
between apostrophes, with each apostrophe of the text written twice, and containers between
braces.  The elements of a set are sorted by their forms.

`literalError?` tells the first obstacle; only without one is `literal` what the program writes.
-/

namespace QueryTemplate.Engine

/-- The characters of a text, apostrophes twice. -/
def doubleMarks : List Char → List Char
  | [] => []
  | c :: cs => if c = '\'' then '\'' :: '\'' :: doubleMarks cs else c :: doubleMarks cs

/-- A text as a literal. -/
def quote (s : String) : String :=
  String.ofList ('\'' :: doubleMarks s.toList ++ ['\''])

/-- Items between braces. -/
def braced (items : List String) : String :=
  "\x7b" ++ ",".intercalate items ++ "\x7d"

mutual

/-- A value as a literal. -/
def literal : Value → String
  | .null => "null"
  | .bool b => if b then "true" else "false"
  | .number n => n.text
  | .text s => quote s
  | .list xs => braced (literals xs)
  | .tuple xs => braced (literals xs)
  | .range p => braced (p.items.map toString)
  | .set _ xs => braced (Value.inFormOrder xs (literals xs))
  | .map _ es => braced (literalEntries es)
  | .bytes growable data => quote (Value.bytes growable data).display
  | .date d => quote (Value.date d).display
  | .time t => quote (Value.time t).display
  | .moment m => quote (Value.moment m).display
  | .record kind fs => quote (Value.record kind fs).display
termination_by structural x => x

/-- Values as literals. -/
def literals : List Value → List String
  | [] => []
  | x :: xs => literal x :: literals xs
termination_by structural x => x

/-- The entries of a map as literals. -/
def literalEntries : List (Value × Value) → List String
  | [] => []
  | (k, v) :: es => (literal k ++ ":" ++ literal v) :: literalEntries es
termination_by structural x => x

end

mutual

/-- The first obstacle to writing a value as a literal.  The elements of a set are sorted by their
forms before they are written. -/
def literalError? : Value → Option FormError
  | .list xs => literalErrorAmong? xs
  | .tuple xs => literalErrorAmong? xs
  | .range p => if p.items.any hasManyDigits then some .tooLong else none
  | .set _ xs => (Value.formErrorAmong? xs).or (literalErrorAmong? xs)
  | .map _ es => literalErrorOfEntries? es
  | v => v.displayError?
termination_by structural x => x

/-- The first obstacle among items. -/
def literalErrorAmong? : List Value → Option FormError
  | [] => none
  | x :: xs => (literalError? x).or (literalErrorAmong? xs)
termination_by structural x => x

/-- The first obstacle among the entries of a map. -/
def literalErrorOfEntries? : List (Value × Value) → Option FormError
  | [] => none
  | (k, v) :: es =>
    (literalError? k).or ((literalError? v).or (literalErrorOfEntries? es))
termination_by structural x => x

end

end QueryTemplate.Engine
