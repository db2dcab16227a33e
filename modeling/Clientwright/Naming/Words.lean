import Clientwright.Text.Alphanumeric
import Clientwright.Text.Case
import Clientwright.Text.Pieces

/-!
# Words of a name

Names in service definitions come in every style: `ListTables`, `us-east-1`, `PAY_PER_REQUEST`. A
name is cut into words at separators and where the case changes, and the words are joined again in
the style that is wanted.
-/

namespace Clientwright.Naming

/-- Does the character separate words without being part of one? -/
def isSeparator (c : Char) : Bool :=
  c = '-' || c = ' ' || c = '.' || c = '/' || c = ':'

/-- Does a word start at an uppercase letter with these neighbours? It does after a lowercase
letter or a digit, and where the letter after it is lowercase, which ends an acronym. -/
def startsWord (before : Option Char) (rest : List Char) : Bool :=
  match before with
  | none => false
  | some b => Text.isLowercase b || b.isDigit || rest.head?.any Text.isLowercase

/-- The text with an underscore at every boundary between words, letters of ASCII in lower case, and
without the characters that belong to no word. -/
def markWords (before : Option Char) : List Char → List Char
  | [] => []
  | c :: rest =>
    let image :=
      if Text.isUppercase c then
        if startsWord before rest then ['_', c.toLower] else [c.toLower]
      else if isSeparator c then ['_']
      else if Text.isAlphanumeric c || c = '_' then [c]
      else []
    image ++ markWords (some c) rest

/-- The words of a text in lower case. -/
def words (s : List Char) : List (List Char) :=
  (Text.splitAt (· = '_') (markWords none s)).filter fun w => !w.isEmpty

/-- The name with underscores between its words: `HTTPServer` becomes `http_server`. -/
def snake (s : String) : String :=
  String.ofList (['_'].intercalate (words s.toList))

/-- The words of a text for joining by capitals. Without a lowercase letter anywhere, case marks no
boundary and each run of letters and digits is one word. -/
def pascalWords (s : List Char) : List (List Char) :=
  let parts := (Text.splitAt (fun c => !Text.isAlphanumeric c) s).filter fun w => !w.isEmpty
  if s.any Text.isLowercase then parts.flatMap words else parts

/-- A word with a capital first letter and the rest in lower case. -/
def capitalWord : List Char → List Char
  | [] => []
  | c :: rest => Text.upperChar c ++ Text.lower rest

/-- The name with its words capitalized and joined: `us-east-1` becomes `UsEast1`. -/
def pascal (s : String) : String :=
  String.ofList ((pascalWords s.toList).flatMap capitalWord)

end Clientwright.Naming
