import QueryTemplate.Json.Basic
import QueryTemplate.Number.Digits
import QueryTemplate.Text.Digit

/-!
# Reading JSON text

The reader takes strict JSON and, beyond it, the words `NaN`, `Infinity` and `-Infinity`.  A
number with a fraction or an exponent is read as the nearest double-precision number, any other as
an integer.  Two readers take the same texts but for three things.  That of documents refuses a
number whose sign and whole part have more than `maxDigits` characters, and surrogates that make no
pair.  That of parameters fails with an error of its own at an integer of too many digits; it takes
a surrogate without a partner, which is no character here and is read as the replacement character;
and all its values that are not numbers are one object.
-/

namespace QueryTemplate.Json

/-- What is read. -/
inductive Dialect where
  /-- A stored document. -/
  | document
  /-- Parameters given from outside. -/
  | parameters
  deriving DecidableEq

/-- Why a text is not read. -/
inductive ReadError where
  | malformed
  /-- An integer has so many digits. -/
  | tooLong (digits : Nat)
  deriving DecidableEq

/-- Is a number with this sign and whole part too long for a document? -/
def Dialect.refuses (dialect : Dialect) (negative : Bool) (whole : List Char) : Bool :=
  match dialect with
  | .document => maxDigits < whole.length + (if negative then 1 else 0)
  | .parameters => false

/-- What becomes of an integer among parameters that has too many digits. -/
def Dialect.integerError? (dialect : Dialect) (whole : List Char) : Option ReadError :=
  match dialect with
  | .document => none
  | .parameters => if maxDigits < whole.length then some (.tooLong whole.length) else none

/-- The object that the word `NaN` stands for. -/
def Dialect.nanObject? : Dialect → Option Nat
  | .document => none
  | .parameters => some 0

/-- Drops the blanks between tokens. -/
def skipBlanks (cs : List Char) : List Char :=
  cs.dropWhile fun c => c == ' ' || c == '\n' || c == '\t' || c == '\r'

/-- The value of a hexadecimal digit. -/
def hexValue? (c : Char) : Option Nat :=
  if c.isDigit then some (c.toNat - '0'.toNat)
  else if 'a' ≤ c ∧ c ≤ 'f' then some (c.toNat - 'a'.toNat + 10)
  else if 'A' ≤ c ∧ c ≤ 'F' then some (c.toNat - 'A'.toNat + 10)
  else none

/-- The number that four hexadecimal digits denote. -/
def codeUnit? (a b c d : Char) : Option Nat := do
  let a ← hexValue? a
  let b ← hexValue? b
  let c ← hexValue? c
  let d ← hexValue? d
  some (((a * 16 + b) * 16 + c) * 16 + d)

/-- The character that a pair of surrogates stands for. -/
def ofSurrogates? (high low : Nat) : Option Char :=
  if 0xd800 ≤ high ∧ high < 0xdc00 ∧ 0xdc00 ≤ low ∧ low < 0xe000 then
    some (Char.ofNat (0x10000 + (high - 0xd800) * 0x400 + (low - 0xdc00)))
  else none

/-- The character that a short escape stands for. -/
def shortEscape? (c : Char) : Option Char :=
  match c with
  | '"' => some '"'
  | '\\' => some '\\'
  | '/' => some '/'
  | 'b' => some '\x08'
  | 'f' => some '\x0c'
  | 'n' => some '\n'
  | 'r' => some '\r'
  | 't' => some '\t'
  | _ => none

/-- The character that a surrogate and the escape behind it stand for. -/
def pairedWith? (n : Nat) : List Char → Option Char
  | '\\' :: 'u' :: a :: b :: c :: d :: _ => (codeUnit? a b c d).bind (ofSurrogates? n)
  | _ => none

/-- Reads a text up to its closing quotation mark. -/
def readText (dialect : Dialect) : List Char → Option (List Char × List Char)
  | [] => none
  | '"' :: rest => some ([], rest)
  | '\\' :: 'u' :: a :: b :: c :: d :: rest =>
    match codeUnit? a b c d with
    | none => none
    | some n =>
      if 0xd800 ≤ n ∧ n < 0xe000 then
        match pairedWith? n rest, rest with
        | some ch, _ :: _ :: _ :: _ :: _ :: _ :: rest =>
          (readText dialect rest).map fun r => (ch :: r.1, r.2)
        | _, rest =>
          match dialect with
          | .document => none
          | .parameters => (readText dialect rest).map fun r => ('\ufffd' :: r.1, r.2)
      else (readText dialect rest).map fun r => (Char.ofNat n :: r.1, r.2)
  | '\\' :: c :: rest =>
    match shortEscape? c with
    | none => none
    | some ch => (readText dialect rest).map fun r => (ch :: r.1, r.2)
  | c :: rest =>
    if c == '\\' || c.toNat < 32 then none
    else (readText dialect rest).map fun r => (c :: r.1, r.2)

/-- The exponent of a number, if there is one. -/
def readExponent : List Char → Option (Option Int × List Char)
  | c :: rest =>
    if c == 'e' || c == 'E' then
      let (negative, rest) := match rest with
        | '-' :: more => (true, more)
        | '+' :: more => (false, more)
        | more => (false, more)
      let ds := rest.takeWhile Char.isDigit
      if ds.isEmpty then none
      else
        let n : Int := Text.digitsToNat ds
        some (some (if negative then -n else n), rest.drop ds.length)
    else some (none, c :: rest)
  | [] => some (none, [])

/-- The fraction of a number, if there is one. -/
def readFraction : List Char → Option (Option (List Char) × List Char)
  | '.' :: rest =>
    let ds := rest.takeWhile Char.isDigit
    if ds.isEmpty then none else some (some ds, rest.drop ds.length)
  | cs => some (none, cs)

/-- Reads a number without its sign. -/
def readUnsigned (dialect : Dialect) (negative : Bool) (cs : List Char) :
    Except ReadError (Json × List Char) :=
  let whole := cs.takeWhile Char.isDigit
  if whole.isEmpty || (whole.head? == some '0' && whole.length != 1) ||
      dialect.refuses negative whole then .error .malformed
  else
    -- What follows no integer is looked at only after the integer before it.
    match readFraction (cs.drop whole.length) with
    | none => .error ((dialect.integerError? whole).getD .malformed)
    | some (none, rest) =>
      match readExponent rest with
      | none => .error ((dialect.integerError? whole).getD .malformed)
      | some (none, rest) =>
        match dialect.integerError? whole with
        | some e => .error e
        | none =>
          let n : Int := Text.digitsToNat whole
          .ok (.int (if negative then -n else n), rest)
      | some (some exponent, rest) =>
        .ok (.float (.ofDecimal negative (Text.digitsToNat whole) exponent), rest)
    | some (some fraction, rest) =>
      match readExponent rest with
      | none => .error .malformed
      | some (exponent, rest) =>
        let coefficient := Text.digitsToNat (whole ++ fraction)
        .ok (.float (.ofDecimal negative coefficient (exponent.getD 0 - fraction.length)), rest)

/-- Takes a word off the front. -/
def readWord (word : String) (j : Json) (cs : List Char) : Except ReadError (Json × List Char) :=
  if word.toList.isPrefixOf cs then .ok (j, cs.drop word.toList.length) else .error .malformed

/-- Reads a value that is neither a list nor an object. -/
def readScalar (dialect : Dialect) (cs : List Char) : Except ReadError (Json × List Char) :=
  match cs with
  | '"' :: rest =>
    match readText dialect rest with
    | none => .error .malformed
    | some r => .ok (.text (String.ofList r.1), r.2)
  | 'n' :: _ => readWord "null" .null cs
  | 't' :: _ => readWord "true" (.bool true) cs
  | 'f' :: _ => readWord "false" (.bool false) cs
  | 'N' :: _ => readWord "NaN" (.float (.nan dialect.nanObject?)) cs
  | 'I' :: _ => readWord "Infinity" (.float (.infinite false)) cs
  | '-' :: 'I' :: _ => readWord "-Infinity" (.float (.infinite true)) cs
  | '-' :: rest => readUnsigned dialect true rest
  | _ => readUnsigned dialect false cs

mutual

/-- Reads a value behind blanks.  Two steps of fuel pay for every character. -/
def readValue (dialect : Dialect) : Nat → List Char → Except ReadError (Json × List Char)
  | 0, _ => .error .malformed
  | fuel + 1, cs =>
    match skipBlanks cs with
    | '[' :: rest =>
      match skipBlanks rest with
      | ']' :: rest => .ok (.list [], rest)
      | rest => (readItems dialect fuel rest).map fun r => (.list r.1, r.2)
    | '\x7b' :: rest =>
      match skipBlanks rest with
      | '\x7d' :: rest => .ok (.object [], rest)
      | rest => (readFields dialect fuel rest).map fun r => (ofFields r.1, r.2)
    | cs => readScalar dialect cs

/-- Reads the items of a list from one of them on. -/
def readItems (dialect : Dialect) : Nat → List Char → Except ReadError (List Json × List Char)
  | 0, _ => .error .malformed
  | fuel + 1, cs =>
    match readValue dialect fuel cs with
    | .error e => .error e
    | .ok (v, rest) =>
      match skipBlanks rest with
      | ',' :: rest => (readItems dialect fuel rest).map fun r => (v :: r.1, r.2)
      | ']' :: rest => .ok ([v], rest)
      | _ => .error .malformed

/-- Reads the fields of an object from one of them on. -/
def readFields (dialect : Dialect) :
    Nat → List Char → Except ReadError (List (String × Json) × List Char)
  | 0, _ => .error .malformed
  | fuel + 1, cs =>
    match skipBlanks cs with
    | '"' :: rest =>
      match readText dialect rest with
      | none => .error .malformed
      | some (name, rest) =>
        match skipBlanks rest with
        | ':' :: rest =>
          match readValue dialect fuel rest with
          | .error e => .error e
          | .ok (v, rest) =>
            match skipBlanks rest with
            | ',' :: rest =>
              (readFields dialect fuel rest).map fun r => ((String.ofList name, v) :: r.1, r.2)
            | '\x7d' :: rest => .ok ([(String.ofList name, v)], rest)
            | _ => .error .malformed
        | _ => .error .malformed
    | _ => .error .malformed

end

/-- Reads a text: one value and nothing else but blanks. -/
def read (dialect : Dialect) (s : String) : Except ReadError Json :=
  let cs := s.toList
  match readValue dialect (2 * cs.length + 2) cs with
  | .error e => .error e
  | .ok (j, rest) => if (skipBlanks rest).isEmpty then .ok j else .error .malformed

end QueryTemplate.Json
