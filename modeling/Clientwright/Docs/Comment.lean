import Clientwright.Docs.Markdown

/-!
# Documentation comments

Documentation stands before what it documents, one comment for each line of Markdown.
-/

namespace Clientwright.Docs

/-- The comment for a line. -/
def commentLine (line : List Char) : List Char :=
  if line.isEmpty then ['/', '/', '/'] else ['/', '/', '/', ' '] ++ line

/-- The comments for an HTML fragment; without a text there are none. -/
def commentLines (html : Option String) : List String :=
  match html with
  | none => []
  | some html => (Text.lines (markdownChars html.toList)).map fun l => String.ofList (commentLine l)

/-- As many levels of indentation. -/
def indentation (indent : Nat) : String :=
  String.ofList (List.replicate (4 * indent) ' ')

/-- The comments for an HTML fragment as text, indented by some levels. -/
def comment (html : Option String) (indent : Nat) : String :=
  String.join ((commentLines html).map fun l => indentation indent ++ l ++ "\n")

end Clientwright.Docs
