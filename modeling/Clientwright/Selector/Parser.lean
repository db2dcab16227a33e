import Clientwright.Selector.Basic
import Clientwright.Text.Alphanumeric
import Clientwright.Text.Blank
import Clientwright.Text.Pieces
import Clientwright.Word

/-!
# Reading selectors

The accepted texts are alternatives separated by `||`. An alternative is a field name followed by
any number of `.name`, `[]`, `[*]` and `[n]`. Calls, filters, comparisons and literals are not
supported. The reader takes one character at a time, so the position of an unexpected character is
the number of characters behind it.
-/

namespace Clientwright

/-- Why a text is no selector. -/
inductive SelectorError where
  | empty
  | unexpected (character : Char) (position : Nat)
  | trailingDot
  | unsupported (text : String)
  deriving DecidableEq, Repr

namespace SelectorError

/-- The kind of the error. -/
def kind : SelectorError → String
  | .empty => "Empty"
  | .unexpected _ _ => "UnexpectedCharacter"
  | .trailingDot => "TrailingDot"
  | .unsupported _ => "Unsupported"

/-- The error as a message. -/
def message : SelectorError → String
  | .empty => "empty path expression"
  | .unexpected c n => "unexpected '" ++ c.toString ++ "' at position " ++ toString n
  | .trailingDot => "expression ends with '.'"
  | .unsupported text => "unsupported expression: " ++ text

end SelectorError

namespace Selector

/-- May the character stand in a field name? -/
def isNameChar (c : Char) : Bool :=
  Text.isAlphanumeric c || c = '_'

/-- The value of decimal digits. -/
def natOfDigits? (s : List Char) : Option Nat :=
  if s.isEmpty || !s.all Char.isDigit then none
  else some (s.foldl (fun n c => 10 * n + (c.toNat - '0'.toNat)) 0)

/-- The integer of 64 bits that a text writes, with an optional sign. -/
def indexOf? (s : List Char) : Option Int :=
  let value? : Option Int :=
    match s with
    | '-' :: digits => (natOfDigits? digits).map fun n => -(n : Int)
    | '+' :: digits => (natOfDigits? digits).map fun n => (n : Int)
    | digits => (natOfDigits? digits).map fun n => (n : Int)
  value?.filter fitsInt64

/-- The step that a pair of brackets around a text means. -/
def bracketStep? (inner : List Char) : Option Step :=
  match Text.trim inner with
  | [] | ['*'] => some .project
  | index => (indexOf? index).map .index

/-- What the reader has just seen. -/
inductive Mode where
  /-- the start, or a point: a field name comes next -/
  | field
  /-- the characters of a field name, last first -/
  | name (read : List Char)
  /-- a closing bracket -/
  | closed
  /-- an opening bracket and the characters after it, last first -/
  | bracket (read : List Char)

/-- The field name that the read characters make. -/
def fieldOf (read : List Char) : Step :=
  .field (String.ofList read.reverse)

/-- The steps that the rest of an alternative writes, from position `n` on. `whole` is the
alternative itself, which errors quote. -/
def stepsFrom (whole : List Char) (mode : Mode) (n : Nat) :
    List Char → Except SelectorError (List Step)
  | [] =>
    match mode with
    | .field => .error .trailingDot
    | .name read => .ok [fieldOf read]
    | .closed => .ok []
    | .bracket _ => .error (.unsupported (String.ofList whole))
  | c :: rest =>
    match mode with
    | .bracket read =>
      if c = ']' then
        match bracketStep? read.reverse with
        | some step => (stepsFrom whole .closed (n + 1) rest).map (step :: ·)
        | none => .error (.unsupported (String.ofList whole))
      else stepsFrom whole (.bracket (c :: read)) (n + 1) rest
    | .field =>
      if isNameChar c then stepsFrom whole (.name [c]) (n + 1) rest
      else if c = '.' ∨ c = '[' then .error (.unexpected c n)
      else .error (.unsupported (String.ofList whole))
    | .name read =>
      if isNameChar c then stepsFrom whole (.name (c :: read)) (n + 1) rest
      else if c = '.' then (stepsFrom whole .field (n + 1) rest).map (fieldOf read :: ·)
      else if c = '[' then (stepsFrom whole (.bracket []) (n + 1) rest).map (fieldOf read :: ·)
      else .error (.unsupported (String.ofList whole))
    | .closed =>
      if isNameChar c then .error (.unexpected c n)
      else if c = '.' then stepsFrom whole .field (n + 1) rest
      else if c = '[' then stepsFrom whole (.bracket []) (n + 1) rest
      else .error (.unsupported (String.ofList whole))

/-- The steps that one alternative writes. -/
def parseAlternative (s : List Char) : Except SelectorError (List Step) :=
  if s.isEmpty then .error .empty else stepsFrom s .field 0 s

/-- The pieces between double bars. -/
def splitBars : List Char → List (List Char)
  | [] => [[]]
  | '|' :: '|' :: rest => [] :: splitBars rest
  | c :: rest =>
    match splitBars rest with
    | piece :: pieces => (c :: piece) :: pieces
    | [] => [[c]]

/-- The selector that a text writes. -/
def parse (s : String) : Except SelectorError Selector :=
  ((splitBars s.toList).mapM fun piece => parseAlternative (Text.trim piece)).map (⟨·⟩)

end Selector

end Clientwright
