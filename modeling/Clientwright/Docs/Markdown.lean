import Clientwright.Text.Blank
import Clientwright.Text.Pieces

/-!
# Markdown from HTML

Definitions carry their documentation as HTML fragments. A fragment becomes Markdown by a fixed
sequence of passes over the text: links, then the tags that have a meaning, then all other tags are
dropped, then character references are resolved. Every pass is a rule for `Text.substitute`; a rule
looks at the text from one character on and says what stands for how much of it.
-/

namespace Clientwright.Docs

open Text

/-- What a rule finds at the start of a text: the image, and the text behind the match. -/
abbrev Found := List Char × List Char

/-- A rule for `Text.substitute` from what is found at the start of a text. -/
def ruleOf (find? : List Char → Option Found) (s : List Char) : Option (List Char × Nat) :=
  (find? s).map fun (image, rest) => (image, s.length - rest.length - 1)

/-- A character without its case. Besides the capitals of ASCII, two characters are letters of
ASCII in another form. -/
def foldChar (c : Char) : Char :=
  if c = 'ſ' then 's' else if c = '\u212a' then 'k' else c.toLower

/-- What is left after the given beginning in either case, if the text begins so. -/
def dropTag? : List Char → List Char → Option (List Char)
  | [], s => some s
  | p :: ps, c :: s => if p = foldChar c then dropTag? ps s else none
  | _ :: _, [] => none

/-- `dropTag?` for a string. -/
def tag? (t : String) (s : List Char) : Option (List Char) := dropTag? t.toList s

/-- The text before the first occurrence of a tag and the text after it. -/
def cutAtTag? (t : String) : List Char → Option (List Char × List Char)
  | [] => none
  | c :: s =>
    match tag? t (c :: s) with
    | some rest => some ([], rest)
    | none => (cutAtTag? t s).map fun (before, after) => (c :: before, after)

/-- What is left after one of the tags. -/
def oneOf? (tags : List String) (s : List Char) : Option (List Char) :=
  tags.findSome? fun t => tag? t s

/-- Every run of blanks as one space. -/
def squeeze : List Char → List Char :=
  substitute fun
    | c :: s => if isBlank c then some ([' '], (s.takeWhile isBlank).length) else none
    | [] => none

/-- A link whose address begins here: the address, the label and the text behind the link. -/
def addressed? (s : List Char) : Option (List Char × List Char × List Char) := do
  let s ← tag? "href=\"" s
  let (address, s) ← cutAt? (· = '"') s
  let (_, s) ← cutAt? (· = '>') s
  let (label, s) ← cutAtTag? "</a>" s
  return (address, label, s)

/-- The last address in the attributes that makes a link. -/
def lastAddressed? : List Char → Option (List Char × List Char × List Char)
  | [] => none
  | c :: s => if c = '>' then none else (lastAddressed? s).or (addressed? (c :: s))

/-- A link: its label in brackets and its address in parentheses. -/
def link? (s : List Char) : Option Found := do
  let s ← tag? "<a" s
  let (c :: attributes) := s | none
  if !isBlank c then none
  let (address, label, rest) ← lastAddressed? attributes
  return ('[' :: label ++ [']', '('] ++ address ++ [')'], rest)

/-- The full name of the thing, a paragraph of its own. -/
def fullName? (s : List Char) : Option Found := do
  let s ← tag? "<fullname>" s
  let (name, rest) ← cutAtTag? "</fullname>" s
  if name.contains '\n' then none
  return (name ++ ['\n', '\n'], rest)

/-- Code in a line, between backquotes. -/
def code? (s : List Char) : Option Found := do
  let s ← tag? "<code>" s
  let (code, rest) ← cutAtTag? "</code>" (s.dropWhile isBlank)
  let code := trimEnd code
  if code.contains '\n' then none
  return ('`' :: code ++ ['`'], rest)

/-- One of some tags, for which a text stands. -/
def tags? (tags : List String) (image : String) (s : List Char) : Option Found :=
  (oneOf? tags s).map fun rest => (image.toList, rest)

/-- One of some tags with the blanks behind it, for which a text stands. -/
def tagsAndBlanks? (tags : List String) (image : String) (s : List Char) : Option Found :=
  (oneOf? tags s).map fun rest => (image.toList, rest.dropWhile isBlank)

/-- A line break. -/
def break? (s : List Char) : Option Found := do
  let s ← tag? "<br" s
  let s := s.dropWhile isBlank
  let rest ← oneOf? ["/>", ">"] s
  return (['\n'], rest)

/-- Any tag, for which nothing stands. -/
def anyTag? (s : List Char) : Option Found := do
  let '<' :: c :: s := s | none
  if c = '>' then none
  let (_, rest) ← cutAt? (· = '>') s
  return ([], rest)

/-- The passes that give tags a meaning, in order. -/
def passes : List (List Char → Option Found) := [
  link?,
  fullName?,
  code?,
  tags? ["<b>", "</b>", "<strong>", "</strong>"] "**",
  tags? ["<i>", "</i>", "<em>", "</em>"] "*",
  tagsAndBlanks? ["<li>"] "\n- ",
  tagsAndBlanks? ["<note>", "<important>"] "\n\n**Note:** ",
  tags? ["</p>", "</ul>", "</ol>", "</note>", "</important>", "</div>"] "\n\n",
  break?,
  anyTag?]

/-- The character references that are resolved, in order; the ampersand comes last, so that nothing
is resolved twice. -/
def references : List (String × String) := [
  ("&lt;", "<"), ("&gt;", ">"), ("&quot;", "\""), ("&#39;", "'"), ("&apos;", "'"),
  ("&nbsp;", " "), ("&amp;", "&")]

/-- The text with its character references resolved. -/
def resolve (s : List Char) : List Char :=
  references.foldl (fun s (name, image) => replaceWord name.toList image.toList s) s

/-- Every line without the blanks at its ends. -/
def trimLines (s : List Char) : List Char :=
  ['\n'].intercalate ((lines s).map trim)

/-- Runs of line feeds, at most two of which are kept. -/
def blankLines? (s : List Char) : Option Found :=
  let feeds := s.takeWhile (· = '\n')
  if 3 ≤ feeds.length then some (['\n', '\n'], s.dropWhile (· = '\n')) else none

/-- The Markdown of an HTML fragment. A fence would start a test in the generated code, so fences
are written with apostrophes. -/
def markdownChars (html : List Char) : List Char :=
  let s := passes.foldl (fun s find? => substitute (ruleOf find?) s) (squeeze html)
  let s := substitute (ruleOf blankLines?) (trimLines (resolve s))
  replaceWord "```".toList "'''".toList (trim s)

/-- `markdownChars` on a string. -/
def markdown (html : String) : String :=
  String.ofList (markdownChars html.toList)

end Clientwright.Docs
