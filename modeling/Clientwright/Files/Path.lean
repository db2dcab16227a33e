import Clientwright.Text.Pieces

/-!
# Paths

A path is a text with slashes between its parts. It is kept as it was given: nothing is resolved and
no part is left out.
-/

namespace Clientwright.Files

/-- Does the path start at the root? -/
def isAbsolute (path : String) : Bool := path.toList.head? = some '/'

/-- The path, as seen from a directory; an absolute path is the same from everywhere. -/
def join (directory path : String) : String :=
  if isAbsolute path then path
  else if directory.isEmpty || directory.toList.getLast? = some '/' then directory ++ path
  else directory ++ "/" ++ path

/-- The parts of a path, of which empty ones and single dots lead nowhere. -/
def parts (path : String) : List String :=
  (Text.splitAt (· = '/') path.toList).map String.ofList

/-- Does the part of a path stay where it is? -/
def isIdle (part : String) : Bool := part = "" || part = "."

/-- The directory that holds the file at a path. Parts at its end that lead nowhere are left out;
the first part always stays, since it says whether the path starts at the root. -/
def parent (path : String) : String :=
  match (parts path).dropLast with
  | [] => ""
  | first :: rest =>
    match first :: (rest.reverse.dropWhile isIdle).reverse with
    | [""] => "/"
    | kept => "/".intercalate kept

end Clientwright.Files
