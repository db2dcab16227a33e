import Clientwright.Text.CaseTables

/-!
# Upper and lower case

The full case mappings: a character may become several (`ß` becomes `SS`), and a capital sigma at
the end of a word has a form of its own.
-/

namespace Clientwright.Text

/-- Does the character have the property Uppercase? -/
def isUppercase (c : Char) : Bool :=
  if c.toNat < 0x80 then c.isUpper else inRanges uppercaseRanges c.toNat

/-- Does the character have the property Lowercase? -/
def isLowercase (c : Char) : Bool :=
  if c.toNat < 0x80 then c.isLower else inRanges lowercaseRanges c.toNat

/-- Where the run that holds the code point sends it. -/
def CaseRun.image? (n : Nat) (r : CaseRun) : Option Nat :=
  if r.first ≤ n && n ≤ r.last && (n - r.first) % r.step == 0 then some (r.image + (n - r.first))
  else none

/-- The image of a character under a mapping given by expansions and runs; a character that
neither names stays as it is. -/
def caseImage (expansions : List (Nat × List Nat)) (runs : List CaseRun) (c : Char) : List Char :=
  match expansions.lookup c.toNat with
  | some images => images.map Char.ofNat
  | none =>
    match runs.findSome? (CaseRun.image? c.toNat) with
    | some n => [Char.ofNat n]
    | none => [c]

/-- The uppercase form of a character. -/
def upperChar (c : Char) : List Char :=
  if c.toNat < 0x80 then [c.toUpper] else caseImage upperExpansions upperRuns c

/-- The lowercase form of a character that stands alone. -/
def lowerChar (c : Char) : List Char :=
  if c.toNat < 0x80 then [c.toLower] else caseImage lowerExpansions lowerRuns c

/-- The uppercase form of a text. -/
def upper (s : List Char) : List Char :=
  s.flatMap upperChar

/-- Is the first character that is not Case_Ignorable a cased letter? -/
def meetsCased (s : List Char) : Bool :=
  match s.dropWhile fun c => inRanges caseIgnorableRanges c.toNat with
  | c :: _ => inRanges casedRanges c.toNat
  | [] => false

/-- Lowers the rest of a text of which `before`, last character first, is already behind. A capital
sigma takes its final form after a cased letter and before none. -/
def lowerAfter (before : List Char) : List Char → List Char
  | [] => []
  | c :: rest =>
    let image :=
      if c = 'Σ' then
        if meetsCased before && !meetsCased rest then ['ς'] else ['σ']
      else lowerChar c
    image ++ lowerAfter (c :: before) rest

/-- The lowercase form of a text. -/
def lower (s : List Char) : List Char :=
  lowerAfter [] s

/-- The text with its first character in uppercase form. -/
def capitalize : List Char → List Char
  | [] => []
  | c :: rest => upperChar c ++ rest

/-- `upper` on a string. -/
def uppercased (s : String) : String :=
  String.ofList (upper s.toList)

/-- `lower` on a string. -/
def lowercased (s : String) : String :=
  String.ofList (lower s.toList)

/-- `capitalize` on a string. -/
def capitalized (s : String) : String :=
  String.ofList (capitalize s.toList)

end Clientwright.Text
