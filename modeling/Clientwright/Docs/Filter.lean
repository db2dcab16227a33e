import Clientwright.Docs.Comment
import Clientwright.Json.Basic
import Clientwright.Naming.Words
import Clientwright.Text.Literal

/-!
# Filters

The conversions that generated files apply to texts, under the names by which templates know them.
A filter takes a JSON value and wants a text; documentation may also be missing.
-/

namespace Clientwright

/-- A conversion of a text. -/
inductive Filter where
  | snakeCase
  | pascalCase
  | literal
  | rustdoc
  deriving DecidableEq, Repr

namespace Filter

/-- Every filter. -/
def all : List Filter := [.snakeCase, .pascalCase, .literal, .rustdoc]

/-- The filter's name. -/
def name : Filter → String
  | .snakeCase => "snake_case"
  | .pascalCase => "pascal_case"
  | .literal => "literal"
  | .rustdoc => "rustdoc"

/-- The filter of that name. -/
def ofName? (s : String) : Option Filter := all.find? fun f => f.name == s

/-- The levels of indentation that an argument asks for; anything but a natural number asks for
none. -/
def indentOf : Option Json → Nat
  | some (.number n) => (n.toNatBelow? UInt64.size).getD 0
  | _ => 0

/-- The image of a text. -/
def applyText (indent : Nat) : Filter → String → String
  | .snakeCase, s => Naming.snake s
  | .pascalCase, s => Naming.pascal s
  | .literal, s => Text.literal s
  | .rustdoc, s => Docs.comment (some s) indent

/-- The image of a value, or a complaint if it is no text. -/
def apply (f : Filter) (indent : Option Json) (value : Json) : Except String String :=
  match f, value with
  | f, .string s => .ok (f.applyText (indentOf indent) s)
  | .rustdoc, .null => .ok ""
  | f, _ => .error (f.name ++ " filter expects a string")

end Filter

end Clientwright
