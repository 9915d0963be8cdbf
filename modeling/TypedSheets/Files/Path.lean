import TypedSheets.Text.Split

/-!
# Paths

Paths as texts with slashes: joining, the directory a path lies in, and the extension
of a file name.
-/

namespace TypedSheets.Path

/-- Whether a path begins at the root. -/
def isAbsolute (path : String) : Bool := path.toList.head? == some '/'

/-- A path taken from a directory; an absolute one stays as it is. -/
def join (directory path : String) : String :=
  if isAbsolute path then path
  else if directory = "" ∨ directory.toList.getLast? = some '/' then directory ++ path
  else directory ++ "/" ++ path

/-- The parts between the slashes that name something, the current directory left
out. -/
def components (path : String) : List String :=
  (Text.split '/' path).filter fun part => part != "" && part != "."

/-- Reversed characters of a path without slashes and current directories at its
end; a path that begins at the root keeps the first slash, `fuel` bounding the
work. -/
def dropTail : Nat → List Char → List Char
  | 0, reversed => reversed
  | fuel + 1, reversed =>
      match reversed with
      | ['/'] => ['/']
      | '/' :: rest => dropTail fuel rest
      | '.' :: '/' :: rest => dropTail fuel ('/' :: rest)
      | other => other

/-- The directory a path lies in: the path without its last part. -/
def parent (path : String) : String :=
  let whole := dropTail path.length path.toList.reverse
  String.ofList (dropTail path.length (whole.dropWhile (· ≠ '/'))).reverse

/-- The extension of a file name: what follows the last dot, unless that is the first
character. -/
def extension? (name : String) : Option String :=
  if name = ".." then none
  else
    match Text.splitLast? '.' name.toList with
    | some (_ :: _, extension) => some (String.ofList extension)
    | _ => none

/-- The order of paths part by part. -/
def lessParts : List String → List String → Bool
  | [], [] => false
  | [], _ :: _ => true
  | _ :: _, [] => false
  | left :: lefts, right :: rights => decide (left < right) || (left == right && lessParts lefts rights)

end TypedSheets.Path
