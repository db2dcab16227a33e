/-!
# Positions in a YAML text

A cursor is a position in a text together with the text after it. Lines are what indentation and
simple keys are measured by, so a cursor knows its line and its column.
-/

namespace Clientwright.Yaml

/-- Does the character end a line? Other spellings of a line break are gone by then. -/
def isBreak (c : Char) : Bool := c = '\n' || c = '\u2028' || c = '\u2029'

/-- Is the character a space or a tab? -/
def isBlank (c : Char) : Bool := c = ' ' || c = '\t'

/-- May the character be part of the name of an anchor, a handle or a directive? -/
def isNameChar (c : Char) : Bool := c.isAlphanum || c = '_' || c = '-'

/-- May the character occur in a text at all? -/
def isAllowed (c : Char) : Bool :=
  let n := c.toNat
  n = 0x9 || n = 0xA || n = 0xD || (0x20 ≤ n && n ≤ 0x7E) || n = 0x85 ||
    (0xA0 ≤ n && n ≤ 0xD7FF) || (0xE000 ≤ n && n ≤ 0xFFFD) || 0x10000 ≤ n

/-- The text with one spelling for the line breaks that are not special. -/
def normalizeBreaks : List Char → List Char
  | [] => []
  | '\r' :: '\n' :: rest => '\n' :: normalizeBreaks rest
  | '\r' :: rest => '\n' :: normalizeBreaks rest
  | '\u0085' :: rest => '\n' :: normalizeBreaks rest
  | c :: rest => c :: normalizeBreaks rest

/-- The text without a byte order mark at its start. -/
def dropMark : List Char → List Char
  | '\ufeff' :: rest => rest
  | s => s

/-- A position in a text. -/
structure Cursor where
  rest : List Char
  line : Nat
  column : Nat
  index : Nat
  deriving Repr

namespace Cursor

/-- The start of a text. -/
def start (s : List Char) : Cursor := ⟨s, 0, 0, 0⟩

/-- The position after the next character. -/
def skip (c : Cursor) : Cursor :=
  match c.rest with
  | [] => c
  | d :: rest =>
    if isBreak d then ⟨rest, c.line + 1, 0, c.index + 1⟩
    else ⟨rest, c.line, c.column + 1, c.index + 1⟩

/-- The position after the next `n` characters. -/
def skipBy (c : Cursor) : Nat → Cursor
  | 0 => c
  | n + 1 => c.skip.skipBy n

/-- The characters of a kind that come next. -/
def take (p : Char → Bool) (c : Cursor) : List Char := c.rest.takeWhile p

/-- The position after the characters of a kind. -/
def drop (p : Char → Bool) (c : Cursor) : Cursor := c.skipBy (c.take p).length

/-- Is this the character at a distance? -/
def sees (c : Cursor) (d : Char) (distance : Nat := 0) : Bool := c.rest[distance]? = some d

/-- Does the character at a distance satisfy the predicate? -/
def seesAny (c : Cursor) (p : Char → Bool) (distance : Nat := 0) : Bool :=
  (c.rest[distance]?).any p

/-- Is there a blank, a line break or the end at a distance? -/
def isOpen (c : Cursor) (distance : Nat := 0) : Bool :=
  match c.rest[distance]? with
  | none => true
  | some d => isBlank d || isBreak d

/-- Is this the end of a line or of the text? -/
def isLineEnd (c : Cursor) : Bool :=
  match c.rest with
  | [] => true
  | d :: _ => isBreak d

/-- Does a line start here that consists of a word, or begins with it and a blank? -/
def atMarker (c : Cursor) (word : Char) : Bool :=
  c.column = 0 && c.sees word && c.sees word 1 && c.sees word 2 && c.isOpen 3

/-- Does a line start here that starts or ends a document? -/
def atDocumentMarker (c : Cursor) : Bool := c.atMarker '-' || c.atMarker '.'

/-- The position after blanks, and after a comment if there is one: the end of the line, unless
something else stands there. -/
def lineEnd? (c : Cursor) : Option Cursor :=
  let c := c.drop isBlank
  let c := if c.sees '#' then c.drop (fun d => !isBreak d) else c
  if c.isLineEnd then some c.skip else none

/-- More steps than can be taken before the end of the text. -/
def fuel (c : Cursor) : Nat := c.rest.length + 1

end Cursor

end Clientwright.Yaml
