import Clientwright.Text.Visible

/-!
# Quoted text

A text in double quotes, as the generated code and the messages quote it. Quotes, backslashes and
the usual controls are escaped by a letter, and every other character that cannot be seen by its
code point, so the quoted form is one line that closes where it should.
-/

namespace Clientwright.Text

/-- The code point of a character in hexadecimal. -/
def hexDigits (c : Char) : List Char :=
  Nat.toDigits 16 c.toNat

/-- A character inside quotes. -/
def literalChar (c : Char) : List Char :=
  if c = '\x00' then ['\\', '0']
  else if c = '\t' then ['\\', 't']
  else if c = '\r' then ['\\', 'r']
  else if c = '\n' then ['\\', 'n']
  else if c = '\\' ∨ c = '"' then ['\\', c]
  else if isVisible c then [c]
  else ['\\', 'u', '\x7b'] ++ hexDigits c ++ ['\x7d']

/-- The literal of a text. -/
def literalChars (s : List Char) : List Char :=
  '"' :: s.flatMap literalChar ++ ['"']

/-- `literalChars` on a string. -/
def literal (s : String) : String :=
  String.ofList (literalChars s.toList)

/-- The quoted form of a file path, in which apostrophes are escaped too. -/
def quotedPath (s : String) : String :=
  let char (c : Char) : List Char := if c = '\'' then ['\\', c] else literalChar c
  String.ofList ('"' :: s.toList.flatMap char ++ ['"'])

end Clientwright.Text
