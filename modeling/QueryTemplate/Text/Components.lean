/-!
# Components of a path

A path is cut at its slashes, so that a slash at an end of it leaves an empty component there.
-/

namespace QueryTemplate.Text

/-- What stands before the first slash, and what stands after each of the slashes. -/
def cutAtSlashes : List Char → List Char × List (List Char)
  | [] => ([], [])
  | c :: cs =>
    let (first, rest) := cutAtSlashes cs
    if c = '/' then ([], first :: rest) else (c :: first, rest)

/-- The components of a path. -/
def components (path : String) : List String :=
  let (first, rest) := cutAtSlashes path.toList
  (first :: rest).map String.ofList

end QueryTemplate.Text
