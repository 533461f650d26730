import QueryTemplate.Condition.Inspect

/-!
# Notices

What the program reports beside its answers: choices and definitions for those who trace a
statement, incomplete chains and replaced statements as warnings, and failures.  A computation
that may report something keeps its notices even when it fails.
-/

namespace QueryTemplate

/-- How important a notice is. -/
inductive Level where
  | debug
  | info
  | warning
  | error
  deriving DecidableEq

/-- The name of a level. -/
def Level.text : Level → String
  | .debug => "DEBUG"
  | .info => "INFO"
  | .warning => "WARNING"
  | .error => "ERROR"

/-- A notice. -/
inductive Notice where
  | alternativeChosen (index : Nat)
  | elseChosen
  /-- An incomplete chain was evaluated. -/
  | chainIgnored (dangling : Condition)
  /-- An incomplete chain was compiled. -/
  | chainIncomplete (dangling : Condition)
  | redefined (name : String)
  | defined (name : String) (decisions : Nat)
  | loaded (count : Nat) (file : String)
  /-- A failure, with its text. -/
  | failed (message : String)
  deriving Inhabited

namespace Notice

/-- The level of a notice. -/
def level : Notice → Level
  | .alternativeChosen _ | .elseChosen | .defined _ _ => .debug
  | .loaded _ _ => .info
  | .chainIncomplete _ | .redefined _ => .warning
  | .chainIgnored _ | .failed _ => .error

/-- The text of a notice. -/
def message : Notice → String
  | .alternativeChosen index => "Chain branch " ++ toString index ++ " selected"
  | .elseChosen => "Chain else selected"
  | .chainIgnored c =>
    "Chain has a when(" ++ c.inspect ++ ") without then(); rendering it as empty text"
  | .chainIncomplete c => "Compiling incomplete chain: when(" ++ c.inspect ++ ") has no then()"
  | .redefined name => "Redefining statement '" ++ name ++ "'"
  | .defined name decisions =>
    "Defined statement '" ++ name ++ "' (" ++ toString decisions ++ " decisions)"
  | .loaded count file => "Loaded " ++ toString count ++ " statements from " ++ file
  | .failed message => message

end Notice

/-- The outcome of a computation and what it reported. -/
structure Traced (ε α : Type) where
  outcome : Except ε α
  notices : List Notice

namespace Traced

variable {ε α β : Type}

/-- A result without notices. -/
def ok (a : α) : Traced ε α := ⟨.ok a, []⟩

/-- A failure without notices. -/
def error (e : ε) : Traced ε α := ⟨.error e, []⟩

/-- An outcome without notices. -/
def lift (r : Except ε α) : Traced ε α := ⟨r, []⟩

/-- Reports something. -/
def report (n : Notice) : Traced ε Unit := ⟨.ok (), [n]⟩

/-- One computation after another; the notices of both are kept. -/
def bind (x : Traced ε α) (f : α → Traced ε β) : Traced ε β :=
  match x.outcome with
  | .error e => ⟨.error e, x.notices⟩
  | .ok a =>
    let y := f a
    ⟨y.outcome, x.notices ++ y.notices⟩

instance : Monad (Traced ε) where
  pure := ok
  bind := bind

/-- The computation with its errors renamed. -/
def mapError {ε' : Type} (f : ε → ε') (x : Traced ε α) : Traced ε' α :=
  ⟨x.outcome.mapError f, x.notices⟩

end Traced

end QueryTemplate
