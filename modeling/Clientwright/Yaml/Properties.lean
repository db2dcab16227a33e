import Clientwright.Yaml.Scalars

/-!
# Scanning anchors, tags and directives

What stands before a node, and before a document.
-/

namespace Clientwright.Yaml

/-- A tag as it is written: a handle that a directive may have set, and the rest. -/
structure TagName where
  handle : String
  suffix : String
  deriving DecidableEq, Repr

/-- Scans the name of an anchor or an alias, at its indicator. -/
def scanName (c : Cursor) : Option (String × Cursor) :=
  let c := c.skip
  let name := c.take isNameChar
  let c := c.drop isNameChar
  let ends := c.isOpen || c.seesAny fun d =>
    d = '?' || d = ':' || d = ',' || d = ']' || d = '\x7d' || d = '%' || d = '@' || d = '`'
  if name.isEmpty || !ends then none else some (String.ofList name, c)

/-- May the character be part of a tag? -/
def isTagChar (verbatim : Bool) (c : Char) : Bool :=
  isNameChar c || ";/?:@&=+$.%!~*'()".toList.contains c ||
    (verbatim && (c = ',' || c = '[' || c = ']'))

/-- The number of bytes in the UTF-8 form of a character that has the given first byte. -/
def utf8Width? (byte : Nat) : Option Nat :=
  if byte < 0x80 then some 1
  else if 0xC0 ≤ byte && byte < 0xE0 then some 2
  else if 0xE0 ≤ byte && byte < 0xF0 then some 3
  else if 0xF0 ≤ byte && byte < 0xF8 then some 4
  else none

/-- The byte that is escaped at a percent sign. -/
def escapedByte? (c : Cursor) : Option Nat :=
  match c.rest with
  | '%' :: a :: b :: _ => hexNumber? [a, b]
  | _ => none

/-- The bytes that are escaped one after the other, `n` of them. -/
def escapedBytes? (c : Cursor) : Nat → Option (List Nat)
  | 0 => some []
  | n + 1 => do
    let byte ← escapedByte? c
    let others ← escapedBytes? (c.skipBy 3) n
    return byte :: others

/-- The character that is escaped at a percent sign, and the position after it. -/
def escapedChar? (c : Cursor) : Option (Char × Cursor) := do
  let first ← escapedByte? c
  let width ← utf8Width? first
  let bytes ← escapedBytes? c width
  if !(bytes.drop 1).all (fun b => 0x80 ≤ b && b < 0xC0) then none
  let s ← String.fromUTF8? ⟨(bytes.map UInt8.ofNat).toArray⟩
  let char ← s.toList.head?
  return (char, c.skipBy (3 * width))

/-- Scans the characters of a tag. -/
def tagChars (verbatim : Bool) : Nat → Cursor → List Char → Option (List Char × Cursor)
  | 0, _, _ => none
  | fuel + 1, c, text =>
    if c.sees '%' then
      match escapedChar? c with
      | some (char, c) => tagChars verbatim fuel c (char :: text)
      | none => none
    else
      match c.rest with
      | d :: _ =>
        if isTagChar verbatim d then tagChars verbatim fuel c.skip (d :: text)
        else some (text.reverse, c)
      | [] => some (text.reverse, c)

/-- Scans what follows the handle of a tag. If the handle turned out to be part of it, what is left
of the handle comes first. -/
def scanSuffix (verbatim : Bool) (handle : List Char) (c : Cursor) : Option (String × Cursor) := do
  let (text, c) ← tagChars verbatim c.fuel c []
  if handle.isEmpty && text.isEmpty then none
  return (String.ofList (handle.drop 1 ++ text), c)

/-- Scans a handle, with its exclamation marks. -/
def scanHandle (c : Cursor) : Option (List Char × Cursor) :=
  if c.sees '!' then
    let name := c.skip.take isNameChar
    let c := c.skip.drop isNameChar
    if c.sees '!' then some ('!' :: name ++ ['!'], c.skip) else some ('!' :: name, c)
  else none

/-- Is the text a handle with two exclamation marks? -/
def isNamedHandle (handle : List Char) : Bool :=
  handle.length > 1 && handle.getLast? = some '!'

/-- Scans a tag, at its exclamation mark. -/
def scanTag (inFlow : Bool) (c : Cursor) : Option (TagName × Cursor) := do
  let (tag, c) ←
    if c.sees '<' 1 then do
      let (suffix, c) ← scanSuffix true [] c.skip.skip
      if c.sees '>' then some (⟨"", suffix⟩, c.skip) else none
    else do
      let (handle, c) ← scanHandle c
      if isNamedHandle handle then
        let (suffix, c) ← scanSuffix false [] c
        some (⟨String.ofList handle, suffix⟩, c)
      else
        let (suffix, c) ← scanSuffix false handle c
        some (if suffix.isEmpty then ⟨"", "!"⟩ else ⟨"!", suffix⟩, c)
  if c.isOpen || (inFlow && c.sees ',') then some (tag, c) else none

/-- A directive before a document. -/
inductive Directive where
  | version (major minor : Nat)
  | tag (handle : String) (start : String)
  deriving DecidableEq, Repr

/-- Scans a number of at most nine digits. -/
def scanNumber (c : Cursor) : Option (Nat × Cursor) :=
  let digits := c.take Char.isDigit
  if digits.isEmpty || digits.length > 9 then none
  else some (digits.foldl (fun n d => 10 * n + (d.toNat - '0'.toNat)) 0, c.drop Char.isDigit)

/-- Scans a directive, at its percent sign, up to the end of the line. -/
def scanDirective (c : Cursor) : Option (Directive × Cursor) := do
  let c := c.skip
  let name := String.ofList (c.take isNameChar)
  let c := c.drop isNameChar
  if name.isEmpty || !c.isOpen then none
  let c' := c.drop isBlank
  let (directive, c) ←
    if name = "YAML" then do
      let (major, c) ← scanNumber c'
      if !c.sees '.' then none
      let (minor, c) ← scanNumber c.skip
      some (Directive.version major minor, c)
    else if name = "TAG" then do
      let (handle, c) ← scanHandle c'
      if handle ≠ ['!'] && !isNamedHandle handle then none
      if !c.seesAny isBlank then none
      let (start, c) ← scanSuffix true [] (c.drop isBlank)
      if !c.isOpen then none
      some (Directive.tag (String.ofList handle) start, c)
    else none
  let c ← c.lineEnd?
  return (directive, c)

end Clientwright.Yaml
