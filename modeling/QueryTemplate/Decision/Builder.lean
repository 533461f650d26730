import QueryTemplate.Document.TemplateReader

/-!
# Building chains

A chain is built call by call: `when` gives a condition, `then` its text, `otherwise` the text for
the case that none holds, and `build` ends without one.  What the calls are given is checked when
it becomes part of a chain, not before; a call out of order is refused.  Once `otherwise` is
accepted in order the builder is closed, even if its text then turns out to be none.
-/

namespace QueryTemplate

/-- A call on a chain builder. -/
inductive BuilderCall where
  | when (condition : Draft)
  | then (text : Value)
  | otherwise (text : Value)
  | build
  deriving Inhabited

/-- The name of a call. -/
def BuilderCall.name : BuilderCall → String
  | .when _ => "when"
  | .then _ => "then"
  | .otherwise _ => "otherwise"
  | .build => "build"

/-- Why a call is refused. -/
inductive BuilderError where
  | closed (call : String)
  | whenTwice
  | thenWithoutWhen
  | otherwiseTooEarly
  | otherwiseWithoutAlternative
  /-- What the calls were given does not make a chain. -/
  | input (e : InputError)
  deriving Inhabited

/-- The alternatives so far, the condition that waits for its text, and whether the chain is
closed. -/
structure ChainBuilder where
  alternatives : List Alternative
  pending : Option Draft
  closed : Bool
  deriving Inhabited

/-- What an accepted call answers: the builder for further calls, or the chain. -/
inductive BuilderAnswer where
  | builder
  | chain (c : Chain)
  deriving Inhabited

/-- The text of a refusal. -/
def BuilderError.message? : BuilderError → Option String
  | .closed call => some (call ++ "() called after otherwise() closed the chain")
  | .whenTwice => some "when() called twice in a row; each when() needs a then() first"
  | .thenWithoutWhen => some "then() called without a preceding when()"
  | .otherwiseTooEarly => some "otherwise() called while a when() still needs its then()"
  | .otherwiseWithoutAlternative => some "otherwise() called before any when()/then()"
  | .input _ => none

/-- A condition to wait for its text; null is none. -/
def Draft.pending : Draft → Option Draft
  | .raw .null => none
  | d => some d

namespace ChainBuilder

/-- The builder before any call. -/
def empty : ChainBuilder := ⟨[], none, false⟩

/-- The chain of the alternatives so far with the condition that waits for its text. -/
def finish (b : ChainBuilder) : Checked Chain :=
  Checked.chainOf (.ok b.alternatives) (.ok none)
    (match b.pending with
      | none => .ok none
      | some d => Checked.optionalDraft d)

/-- The chain as it stands, unless the builder is closed. -/
def build (b : ChainBuilder) : Except BuilderError Chain :=
  if b.closed then .error (.closed BuilderCall.build.name) else b.finish.toExcept.mapError .input

/-- One call: the builder afterwards, and the answer. -/
def call (b : ChainBuilder) (c : BuilderCall) :
    ChainBuilder × Except BuilderError BuilderAnswer :=
  if b.closed then (b, .error (.closed c.name))
  else match c with
    | .when d =>
      if b.pending.isSome then (b, .error .whenTwice)
      else ({ b with pending := d.pending }, .ok .builder)
    | .then text =>
      match b.pending with
      | none => (b, .error .thenWithoutWhen)
      | some d =>
        match (Checked.alternativeOf (Checked.draft d) (Checked.text text)).toExcept with
        | .error e => (b, .error (.input e))
        | .ok a => (⟨b.alternatives ++ [a], none, false⟩, .ok .builder)
    | .otherwise text =>
      if b.pending.isSome then (b, .error .otherwiseTooEarly)
      else if b.alternatives.isEmpty then (b, .error .otherwiseWithoutAlternative)
      else
        let made := Checked.chainOf (.ok b.alternatives) (Checked.optionalText text) (.ok none)
        ({ b with closed := true }, (made.toExcept.map .chain).mapError .input)
    | .build => (b, b.build.map .chain)

/-- A run of calls, refused ones included. -/
def run (b : ChainBuilder) : List BuilderCall → ChainBuilder
  | [] => b
  | c :: cs => (b.call c).1.run cs

end ChainBuilder

end QueryTemplate
