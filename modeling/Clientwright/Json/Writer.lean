import Clientwright.Json.Double
import Clientwright.Table

/-!
# Writing JSON text

A value is written without blanks. Members stand in the order in which the value has them;
`Json.canonical` first brings them into the order of their names and drops all but the last of
several under one name.
-/

namespace Clientwright.Json

/-- The hexadecimal digit of a value below 16. -/
def hexDigit (n : Nat) : Char :=
  if n < 10 then Char.ofNat ('0'.toNat + n) else Char.ofNat ('a'.toNat + (n - 10))

/-- A character inside quotes. Control characters, quotes and backslashes are escaped. -/
def escapeChar (c : Char) : List Char :=
  match c with
  | '"' => ['\\', '"']
  | '\\' => ['\\', '\\']
  | '\x08' => ['\\', 'b']
  | '\x0c' => ['\\', 'f']
  | '\n' => ['\\', 'n']
  | '\r' => ['\\', 'r']
  | '\t' => ['\\', 't']
  | c =>
    if c.toNat < 0x20 then
      ['\\', 'u', '0', '0', hexDigit (c.toNat / 16), hexDigit (c.toNat % 16)]
    else [c]

/-- A text in quotes. -/
def quoted (s : String) : List Char :=
  '"' :: s.toList.flatMap escapeChar ++ ['"']

/-- The text of a number; a number out of every range has none. -/
def numberText (n : JsonNumber) : List Char :=
  (n.text?.getD "").toList

mutual

/-- The characters of a value. -/
def chars : Json → List Char
  | .null | .garbled => ['n', 'u', 'l', 'l']
  | .bool true => ['t', 'r', 'u', 'e']
  | .bool false => ['f', 'a', 'l', 's', 'e']
  | .number n => numberText n
  | .string s => quoted s
  | .array items => '[' :: charsOfItems items ++ [']']
  | .object members => '\x7b' :: charsOfMembers members ++ ['\x7d']

/-- The characters of the items, separated by commas. -/
def charsOfItems : List Json → List Char
  | [] => []
  | [v] => chars v
  | v :: rest => chars v ++ ',' :: charsOfItems rest

/-- The characters of the members, separated by commas. -/
def charsOfMembers : List (String × Json) → List Char
  | [] => []
  | [(name, v)] => quoted name ++ ':' :: chars v
  | (name, v) :: rest => quoted name ++ ':' :: chars v ++ ',' :: charsOfMembers rest

end

/-- The text of a value. -/
def text (v : Json) : String :=
  String.ofList v.chars

mutual

/-- The value with the members of every object by ascending name, the last of several under one
name. -/
def canonical : Json → Json
  | .array items => .array (canonicalItems items)
  | .object members => .object (Table.ofList (canonicalMembers members)).entries
  | v => v

/-- The items in canonical form. -/
def canonicalItems : List Json → List Json
  | [] => []
  | v :: rest => canonical v :: canonicalItems rest

/-- The members with values in canonical form. -/
def canonicalMembers : List (String × Json) → List (String × Json)
  | [] => []
  | (name, v) :: rest => (name, canonical v) :: canonicalMembers rest

end

mutual

/-- Does every part of the value denote something, every number within its range? -/
def isSound : Json → Bool
  | .garbled => false
  | .number n => n.text?.isSome
  | .array items => areSoundItems items
  | .object members => areSoundMembers members
  | _ => true

/-- Are all items sound? -/
def areSoundItems : List Json → Bool
  | [] => true
  | v :: rest => isSound v && areSoundItems rest

/-- Are the values of all members sound? -/
def areSoundMembers : List (String × Json) → Bool
  | [] => true
  | (_, v) :: rest => isSound v && areSoundMembers rest

end

end Clientwright.Json
