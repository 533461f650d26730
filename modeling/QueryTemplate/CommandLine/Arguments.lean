import QueryTemplate.Text.Digit

/-!
# Command line arguments

A command is followed by its arguments.  Options may stand between them, may be shortened as long
as only one option is meant, and take their value from the same argument after an equals sign or
from the next one.  After `--` nothing is an option, nor is a negative number or an argument with
a space in it.
-/

namespace QueryTemplate.CommandLine

/-- What the program is told to do. -/
inductive Command where
  | list (path : Option String)
  | show (name : String) (path : Option String)
  | build (name params : String) (path : Option String)
  /-- Nothing: the usage is shown. -/
  | nothing
  deriving DecidableEq

/-- Why no command is carried out. -/
inductive Stop where
  /-- Help was asked for. -/
  | help
  /-- The arguments make no command. -/
  | usage
  deriving DecidableEq

/-- An option. -/
inductive Flag where
  | help
  | params
  | path
  deriving DecidableEq

/-- An argument as it is read: a plain one, the separator, or an option with the value after its
equals sign.  A short option carries the letters after it. -/
inductive Argument where
  | plain (s : String)
  | separator
  | flag (f : Flag) (value : Option String)
  | shortHelp (letters : Option String)
  | unknown

/-- The long name of an option. -/
def Flag.name : Flag → String
  | .help => "--help"
  | .params => "--params"
  | .path => "--path"

/-- A negative number: digits, or digits around a point. -/
def isNegativeNumber (s : String) : Bool :=
  match s.toList with
  | '-' :: cs =>
    let whole := cs.takeWhile Text.isDigit
    match cs.drop whole.length with
    | [] => !whole.isEmpty
    | '.' :: fraction => !fraction.isEmpty && fraction.all Text.isDigit
    | _ => false
  | _ => false

/-- A text cut at its first equals sign. -/
def splitEquals (s : String) : String × Option String :=
  let cs := s.toList
  let before := cs.takeWhile (· != '=')
  match cs.drop before.length with
  | [] => (s, none)
  | _ :: value => (String.ofList before, some (String.ofList value))

/-- Reads one argument, given the options it may stand for. -/
def Argument.ofText (flags : List Flag) (s : String) : Except Stop Argument :=
  if s = "--" then .ok .separator
  else match s.toList with
    | '-' :: c :: rest =>
      let (name, value) := splitEquals s
      if s = "-h" then .ok (.shortHelp none)
      else match flags.find? (·.name == s) with
        | some f => .ok (.flag f none)
        | none =>
          if name = "-h" then .ok (.flag .help value)
          else match (if value.isSome then flags.find? (·.name == name) else none) with
            | some f => .ok (.flag f value)
            | none =>
              let meant := flags.filter fun f => f.name.startsWith name
              if c = '-' && 1 < meant.length then .error .usage
              else match (if c = '-' then meant.head? else none) with
                | some f => .ok (.flag f value)
                | none =>
                  if c = 'h' then .ok (.shortHelp (some (String.ofList rest)))
                  else if isNegativeNumber s || s.toList.contains ' ' then .ok (.plain s)
                  else .ok .unknown
    | _ => .ok (.plain s)

/-- Reads arguments; those after the separator are plain. -/
def Argument.ofTexts (flags : List Flag) : List String → Except Stop (List Argument)
  | [] => .ok []
  | s :: rest => do
    match ← Argument.ofText flags s with
    | .separator => .ok (.separator :: rest.map .plain)
    | a => do
      let more ← Argument.ofTexts flags rest
      .ok (a :: more)

/-- Help with letters after the short option, each of which is an option again.  One that is
unknown does not keep help from being shown; a dash or an equals sign among them does. -/
def helpLetters : List Char → Stop
  | [] => .help
  | '-' :: _ => .usage
  | 'h' :: '=' :: _ => .usage
  | 'h' :: rest => helpLetters rest
  | _ => .help

/-- What has been read of a command's arguments. -/
structure Parsed where
  name : Option String
  params : Option String
  path : Option String
  /-- Something was left over. -/
  surplus : Bool

namespace Parsed

/-- Nothing read yet. -/
def start : Parsed := ⟨none, none, none, false⟩

/-- With the value of an option. -/
def set (p : Parsed) : Flag → String → Parsed
  | .help, _ => p
  | .params, v => { p with params := some v }
  | .path, v => { p with path := some v }

/-- Reads the arguments of a command that takes a name or takes none.  A separator belongs to the
name that stands before or behind it. -/
def read (takesName : Bool) (p : Parsed) : List Argument → Except Stop Parsed
  | [] => .ok p
  | .unknown :: rest => read takesName { p with surplus := true } rest
  | .shortHelp none :: _ => .error .help
  | .shortHelp (some letters) :: _ => .error (helpLetters letters.toList)
  | .flag .help none :: _ => .error .help
  | .flag .help (some _) :: _ => .error .usage
  | .flag f (some v) :: rest => read takesName (p.set f v) rest
  | .flag f none :: .plain v :: rest => read takesName (p.set f v) rest
  | .flag _ none :: _ => .error .usage
  | .plain v :: rest =>
    if takesName && p.name.isNone then
      match rest with
      | .separator :: more => read takesName { p with name := some v } more
      | rest => read takesName { p with name := some v } rest
    else read takesName { p with surplus := true } rest
  | .separator :: rest =>
    if takesName && p.name.isNone then
      match rest with
      | .plain v :: more => read takesName { p with name := some v } more
      | rest => read takesName { p with surplus := true } rest
    else read takesName { p with surplus := true } rest

end Parsed

/-- Reads a command behind its name. -/
def readCommand (name : String) (arguments : List String) : Except Stop (Command × Bool) :=
  match name with
  | "list" => do
    let p ← Parsed.start.read false (← Argument.ofTexts [.help, .path] arguments)
    .ok (.list p.path, p.surplus)
  | "show" => do
    let p ← Parsed.start.read true (← Argument.ofTexts [.help, .path] arguments)
    match p.name with
    | none => .error .usage
    | some n => .ok (.show n p.path, p.surplus)
  | "build" => do
    let p ← Parsed.start.read true (← Argument.ofTexts [.help, .params, .path] arguments)
    match p.name with
    | none => .error .usage
    | some n => .ok (.build n (p.params.getD "\x7b\x7d") p.path, p.surplus)
  | _ => .error .usage

/-- Reads the arguments before the command; `surplus` tells whether something was left over. -/
def readFrom (surplus : Bool) : List String → Except Stop Command
  | [] => if surplus then .error .usage else .ok .nothing
  | s :: rest => do
    match ← Argument.ofText [.help] s with
    | .unknown => readFrom true rest
    | .separator => .error .usage
    | .shortHelp none => .error .help
    | .shortHelp (some letters) => .error (helpLetters letters.toList)
    | .flag _ none => .error .help
    | .flag _ (some _) => .error .usage
    | .plain name => do
      let (command, more) ← readCommand name rest
      if surplus || more then .error .usage else .ok command

/-- The command that arguments make. -/
def Command.ofArguments (arguments : List String) : Except Stop Command :=
  readFrom false arguments

end QueryTemplate.CommandLine
