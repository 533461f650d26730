import QueryTemplate.Text.Components
import QueryTemplate.Text.Utf8

/-!
# Routes of the service

The path of a request is brought to its usual form, decoded, and told apart by its components.  A
path that fits only without its last slashes is answered as if it had none.
-/

namespace QueryTemplate.Service

/-- What a path stands for. -/
inductive Route where
  | health
  | statements
  | statement (name : String)
  | build (name : String)
  deriving DecidableEq

/-- The value of a hexadecimal digit. -/
def hexDigit? (c : Char) : Option Nat :=
  if c.isDigit then some (c.toNat - '0'.toNat)
  else if 'a' ≤ c ∧ c ≤ 'f' then some (c.toNat - 'a'.toNat + 10)
  else if 'A' ≤ c ∧ c ≤ 'F' then some (c.toNat - 'A'.toNat + 10)
  else none

/-- The bytes of a text whose bytes may be written as `%` and two hexadecimal digits. -/
def percentBytes : List Char → List UInt8
  | '%' :: a :: b :: rest =>
    match hexDigit? a, hexDigit? b with
    | some x, some y => UInt8.ofNat (16 * x + y) :: percentBytes rest
    | _, _ => '%'.toUInt8 :: percentBytes (a :: b :: rest)
  | c :: rest => (String.singleton c).toUTF8.toList ++ percentBytes rest
  | [] => []

/-- A text with its percent signs decoded. -/
def percentDecoded (s : String) : String :=
  String.ofList (Text.decodeReplacing (percentBytes s.toList))

/-- The path of a target: what stands before its query, without an authority in front of it, and
with exactly one slash at its beginning. -/
def pathOf (target : String) : String :=
  let path := match target.toList.takeWhile fun c => c != '?' && c != '#' with
    | '/' :: '/' :: rest => rest.dropWhile (· != '/')
    | cs => cs
  String.ofList ('/' :: path.dropWhile (· == '/'))

/-- A path with single dots dropped, and double dots with the component before them. -/
def withoutDots (path : String) : String :=
  "/".intercalate ((Text.components path).foldl (fun before c =>
    if c = "." then before
    else if c = ".." then (if before = [""] then before else before.dropLast)
    else before ++ [c]) [])

/-- Is a last component this word?  A line break at its end does not count. -/
def endsAs (word component : String) : Bool :=
  component = word || component = word ++ "\n"

/-- The route that a path fits as it stands. -/
def Route.asWritten? (path : String) : Option Route :=
  match Text.components path with
  | ["", last] =>
    if endsAs "health" last then some .health
    else if endsAs "statements" last then some .statements
    else none
  | ["", "statements", name] => if name = "" then none else some (.statement name)
  | ["", "statements", name, last] =>
    if name ≠ "" ∧ endsAs "build" last then some (.build name) else none
  | _ => none

/-- A text without the slashes at its end. -/
def withoutSlashes (path : String) : String :=
  String.ofList (path.toList.reverse.dropWhile (· == '/')).reverse

/-- The route of a decoded path. -/
def Route.ofPath? (path : String) : Option Route :=
  (Route.asWritten? path).or
    (if path.endsWith "/" then Route.asWritten? (withoutSlashes path) else none)

/-- The route of a request's target.  It is decoded on the way out and again on the way in. -/
def Route.ofTarget? (target : String) : Option Route :=
  Route.ofPath? (percentDecoded (percentDecoded (withoutDots (pathOf target))))

end QueryTemplate.Service
