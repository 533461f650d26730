import QueryTemplate.Decision.Builder
import QueryTemplate.Notice

/-!
# Compiling parts

A statement is authored as a list of parts: texts, decisions, and chains that are still being
built and are closed here.  Compiling puts the parts into normal form; nothing is evaluated.
-/

namespace QueryTemplate

/-- A part of a statement as it is authored. -/
inductive Part where
  | text (s : String)
  | branch (b : Branch)
  | chain (c : Chain)
  | builder (b : ChainBuilder)
  /-- A text that still waits for its condition. -/
  | unguarded (text : Value)
  /-- Something of this type that is no part. -/
  | other (typeName : String)
  deriving Inhabited

/-- Why parts or a format cannot be compiled. -/
inductive CompileError where
  | unsupported (typeName : String)
  | unguarded (text : Value)
  | malformed (reason : String)
  | positional
  /-- A field with a conversion or a format. -/
  | qualified (field : String)
  | unknownField (field : String) (defined : List String)
  | unused (units : List String)
  /-- A unit may not have the name of the format itself. -/
  | reserved
  /-- A builder has no chain to give. -/
  | builder (e : BuilderError)
  /-- What is to be reported has no form in messages. -/
  | noForm (e : FormError)
  deriving Inhabited

/-- Names between brackets, sorted. -/
def nameList (names : List String) : String :=
  (Value.list ((names.mergeSort fun a b => !decide (b < a)).map .text)).inspect

/-- The text of an error, unless it is about what a chain was given. -/
def CompileError.message? : CompileError → Option String
  | .unsupported t => some ("Unsupported template part: " ++ t)
  | .unguarded text =>
    some ("include(" ++ text.inspect ++
      ") needs a condition: call .when(...) before compiling")
  | .malformed reason => some ("Malformed template: " ++ reason)
  | .positional => some "Positional placeholder '\x7b\x7d' is not supported"
  | .qualified field =>
    some ("Placeholder '" ++ field ++ "' must not carry a conversion or format spec")
  | .unknownField field defined =>
    some ("Unknown placeholder '" ++ field ++ "'. Defined units: " ++ nameList defined)
  | .unused units => some ("Units not referenced by the template: " ++ nameList units)
  | .reserved => some "compile_format() got multiple values for argument 'source'"
  | .builder e => e.message?
  | .noForm e => some e.message

/-- The segment of a part. -/
def Part.segment : Part → Traced CompileError Segment
  | .text s => .ok (.literal s)
  | .branch b => .ok (.decision (.branch b))
  | .chain c => .ok (.decision (.chain c))
  | .builder b =>
    match b.build with
    | .error e => .error (.builder e)
    | .ok c =>
      match c.dangling.bind Condition.formError? with
      | some e => .error (.noForm e)
      | none => ⟨.ok (.decision (.chain c)), (c.dangling.map .chainIncomplete).toList⟩
  | .unguarded t =>
    match t.formError? with
    | some e => .error (.noForm e)
    | none => .error (.unguarded t)
  | .other t => .error (.unsupported t)

/-- The segments of parts. -/
def Part.segments : List Part → Traced CompileError (List Segment)
  | [] => .ok []
  | p :: ps => p.segment.bind fun s => (segments ps).bind fun rest => .ok (s :: rest)

/-- The template of parts. -/
def Template.ofParts (parts : List Part) : Traced CompileError Template :=
  (Part.segments parts).bind fun ss => .ok ⟨Segment.normalize ss⟩

end QueryTemplate
