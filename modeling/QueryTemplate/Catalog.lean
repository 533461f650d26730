import QueryTemplate.Engine.Fragment
import QueryTemplate.Template.Eval

/-!
# Catalogs of statements

A catalog holds statements by name, each name once.  Defining a name again replaces its statement;
looking things up and building texts changes nothing.
-/

namespace QueryTemplate

/-- What is handed in as a statement: a template, or something of this type that is none. -/
inductive Definition where
  | template (t : Template)
  | other (typeName : String)
  deriving Inhabited

/-- Statements by name, in the order in which their names were first defined. -/
structure Catalog where
  entries : List (String × Template)
  deriving Inhabited

/-- What is handed in as the statement `name` is no template. -/
structure NotTemplate where
  name : String
  typeName : String
  deriving DecidableEq

/-- The text of the error. -/
def NotTemplate.message (e : NotTemplate) : String :=
  "Statement '" ++ e.name ++ "' must be a CompiledTemplate, got " ++ e.typeName

namespace Catalog

/-- The catalog without statements. -/
def empty : Catalog := ⟨[]⟩

/-- The statement of a name. -/
def get? (c : Catalog) (name : String) : Option Template :=
  (c.entries.find? (·.1 == name)).map (·.2)

/-- Is the name defined? -/
def contains (c : Catalog) (name : String) : Bool :=
  (c.get? name).isSome

/-- How many names are defined. -/
def size (c : Catalog) : Nat :=
  c.entries.length

/-- Writes an entry: a name that is there keeps its place. -/
def put (name : String) (t : Template) : List (String × Template) → List (String × Template)
  | [] => [(name, t)]
  | (n, u) :: rest => if n = name then (n, t) :: rest else (n, u) :: put name t rest

/-- Defines a name. -/
def define (c : Catalog) (name : String) (t : Template) : Catalog :=
  ⟨put name t c.entries⟩

/-- What is reported when a name is defined. -/
def defineNotices (c : Catalog) (name : String) (t : Template) : List Notice :=
  (if c.contains name then [.redefined name] else []) ++ [.defined name t.decisions.length]

/-- Defines a name, if it is given a template. -/
def define? (c : Catalog) (name : String) : Definition → Traced NotTemplate Catalog
  | .template t => ⟨.ok (c.define name t), c.defineNotices name t⟩
  | .other typeName => .error ⟨name, typeName⟩

/-- The names in the order of their characters. -/
def names (c : Catalog) : List String :=
  (c.entries.map (·.1)).mergeSort fun a b => !decide (b < a)

/-- The engine text of a statement. -/
def engineText? (c : Catalog) (name : String) : Option (Except EngineError String) :=
  (c.get? name).map Template.engineText

/-- The text of a statement for a parameter object. -/
def build? (c : Catalog) (name : String) (params : Value) :
    Option (Traced TemplateError String) :=
  (c.get? name).map (·.evalWith params)

/-! ## Small lemmas -/

theorem find?_put (name other : String) (t : Template) (es : List (String × Template)) :
    ((put name t es).find? (·.1 == other)).map (·.2) =
      if other = name then some t else (es.find? (·.1 == other)).map (·.2) := by
  induction es with
  | nil =>
    by_cases h : name = other
    · simp [put, h]
    · simp [put, h, Ne.symm h]
  | cons e es ih =>
    obtain ⟨n, u⟩ := e
    simp only [put]
    by_cases hn : n = name
    · subst hn
      by_cases h : n = other
      · simp [h]
      · simp [h, Ne.symm h]
    · rw [if_neg hn]
      by_cases h : n = other
      · subst h
        simp [hn]
      · simpa [List.find?_cons, h] using ih

/-- A name has the statement that it was last given. -/
theorem get?_define (c : Catalog) (name other : String) (t : Template) :
    (c.define name t).get? other = if other = name then some t else c.get? other :=
  find?_put name other t c.entries

end Catalog

/-! ## Calls -/

/-- A call on a catalog. -/
inductive CatalogCall where
  | define (name : String) (d : Definition)
  | get (name : String)
  | engineText (name : String)
  | build (name : String) (params : Value)
  | names
  | clear

/-- What a call answers. -/
inductive CatalogAnswer where
  | defined (d : Definition)
  | statement (t : Option Template)
  | engineText (text : Option String)
  | built (text : Option String)
  | names (names : List String)
  | cleared

/-- Why a call has no answer. -/
inductive CatalogError where
  | notTemplate (e : NotTemplate)
  | engine (e : EngineError)
  | template (e : TemplateError)

namespace Catalog

/-- Makes a call: the catalog behind it, and the answer or the error with what is reported. -/
def call (c : Catalog) : CatalogCall → Catalog × Traced CatalogError CatalogAnswer
  | .define name d =>
    let r := c.define? name d
    match r.outcome with
    | .ok c' => (c', ⟨.ok (.defined d), r.notices⟩)
    | .error e => (c, ⟨.error (.notTemplate e), r.notices⟩)
  | .get name => (c, .ok (.statement (c.get? name)))
  | .engineText name =>
    match c.engineText? name with
    | none => (c, .ok (.engineText none))
    | some r => (c, .lift ((r.mapError .engine).map (.engineText ∘ some)))
  | .build name params =>
    match c.build? name params with
    | none => (c, .ok (.built none))
    | some r => (c, (r.mapError .template).bind (.ok ∘ .built ∘ some))
  | .names => (c, .ok (.names c.names))
  | .clear => (empty, .ok .cleared)

/-- Makes calls one after the other; an error does not end them. -/
def run (c : Catalog) : List CatalogCall → Catalog
  | [] => c
  | call :: calls => (c.call call).1.run calls

end Catalog

end QueryTemplate
