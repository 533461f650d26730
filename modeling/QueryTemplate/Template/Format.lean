import QueryTemplate.Template.Compile

/-!
# Compiling a format

A statement can also be authored as one text with fields `{name}`, each of which stands for a
unit.  Braces of the text itself are written twice.  The whole text is cut into pieces before any
field is looked at, so a malformed text is reported first.
-/

namespace QueryTemplate

/-- A piece of a format. -/
inductive FormatPiece where
  | character (c : Char)
  /-- A field; `qualified` when a conversion or a format follows the name. -/
  | field (name : List Char) (qualified : Bool)
  deriving DecidableEq

/-- Why a text is no format. -/
inductive FormatError where
  | singleOpen
  | singleClose
  | openInName
  | unclosed
  | endInConversion
  | noColon
  | unmatched
  deriving DecidableEq

/-- The text of an error. -/
def FormatError.message : FormatError → String
  | .singleOpen => "Single '\x7b' encountered in format string"
  | .singleClose => "Single '\x7d' encountered in format string"
  | .openInName => "unexpected '\x7b' in field name"
  | .unclosed => "expected '\x7d' before end of string"
  | .endInConversion => "end of string while looking for conversion specifier"
  | .noColon => "expected ':' after conversion specifier"
  | .unmatched => "unmatched '\x7b' in format spec"

namespace FormatPiece

/-- The name of a field, the character that ends it, and what follows.  Between brackets every
character belongs to the name. -/
def scanName (inBrackets : Bool) : List Char → Except FormatError (List Char × Char × List Char)
  | [] => .error .unclosed
  | c :: rest =>
    if inBrackets then (scanName (c != ']') rest).map fun r => (c :: r.1, r.2)
    else if c = '\x7b' then .error .openInName
    else if c = '\x7d' ∨ c = ':' ∨ c = '!' then .ok ([], c, rest)
    else (scanName (c == '[') rest).map fun r => (c :: r.1, r.2)

/-- Is a format, inside `depth` open braces, empty, and what follows its closing brace? -/
def scanSpec (depth : Nat) : List Char → Except FormatError (Bool × List Char)
  | [] => .error .unmatched
  | c :: rest =>
    if c = '\x7d' then
      match depth with
      | 0 => .ok (true, rest)
      | depth + 1 => (scanSpec depth rest).map fun r => (false, r.2)
    else (scanSpec (if c = '\x7b' then depth + 1 else depth) rest).map fun r => (false, r.2)

/-- A field after its opening brace, and what follows it. -/
def scanField (cs : List Char) : Except FormatError (FormatPiece × List Char) := do
  let (name, stop, rest) ← scanName false cs
  if stop = '\x7d' then .ok (.field name false, rest)
  else if stop = ':' then
    let (isEmpty, rest) ← scanSpec 0 rest
    .ok (.field name !isEmpty, rest)
  else
    match rest with
    | [] => .error .endInConversion
    | [_] => .error .unmatched
    | _ :: '\x7d' :: rest => .ok (.field name true, rest)
    | _ :: ':' :: rest => do
      let (_, rest) ← scanSpec 0 rest
      .ok (.field name true, rest)
    | _ => .error .noColon

/-- Cuts a format into pieces.  A step of fuel pays for every piece. -/
def scanAll : Nat → List Char → Except FormatError (List FormatPiece)
  | 0, _ => .ok []
  | _, [] => .ok []
  | fuel + 1, c :: rest =>
    if c = '\x7b' then
      match rest with
      | [] => .error .singleOpen
      | d :: more =>
        if d = '\x7b' then do
          let pieces ← scanAll fuel more
          .ok (.character '\x7b' :: pieces)
        else do
          let (piece, rest) ← scanField (d :: more)
          let pieces ← scanAll fuel rest
          .ok (piece :: pieces)
    else if c = '\x7d' then
      match rest with
      | '\x7d' :: more => do
        let pieces ← scanAll fuel more
        .ok (.character '\x7d' :: pieces)
      | _ => .error .singleClose
    else do
      let pieces ← scanAll fuel rest
      .ok (.character c :: pieces)

/-- The pieces of a format. -/
def scan (source : String) : Except FormatError (List FormatPiece) :=
  scanAll source.toList.length source.toList

/-- The part that a piece stands for. -/
def part (units : List (String × Part)) : FormatPiece → Except CompileError Part
  | .character c => .ok (.text (String.singleton c))
  | .field name qualified =>
    let name := String.ofList name
    if name = "" then .error .positional
    else if qualified then .error (.qualified name)
    else match units.find? (·.1 == name) with
      | none => .error (.unknownField name (units.map (·.1)))
      | some u => .ok u.2

/-- The name of a field. -/
def name? : FormatPiece → Option String
  | .character _ => none
  | .field name _ => some (String.ofList name)

end FormatPiece

/-- The parts of a format whose fields are bound to units. -/
def Part.ofFormat (source : String) (units : List (String × Part)) :
    Except CompileError (List Part) := do
  if units.any (·.1 == "source") then .error .reserved
  let pieces ← (FormatPiece.scan source).mapError fun e => .malformed e.message
  let parts ← pieces.mapM (FormatPiece.part units)
  let used := pieces.filterMap FormatPiece.name?
  let unused := (units.map (·.1)).filter fun n => !used.contains n
  if unused.isEmpty then .ok parts else .error (.unused unused)

/-- The template of a format. -/
def Template.ofFormat (source : String) (units : List (String × Part)) :
    Traced CompileError Template :=
  (Traced.lift (Part.ofFormat source units)).bind Template.ofParts

end QueryTemplate
