import Clientwright.Source.Expr

/-!
# Code

Code is lines and blocks. A block has its opening line, its body one level deeper, and its closing
line, so whatever is printed is balanced. A binding and the head of a block say which names they
bring into scope.
-/

namespace Clientwright

/-- Code, or a piece of it. -/
inductive Code where
  | empty
  | seq (a b : Code)
  | line (e : Expr)
  /-- `let name = value;`, in scope for the rest of the block -/
  | bind (name : String) (value : Expr)
  /-- a block, with the names that its head binds in the body -/
  | block (head : Expr) (binds : List String) (body : Code) (close : String)
  /-- one of two blocks -/
  | branch (condition : Expr) (first second : Code)
  deriving DecidableEq, Repr

namespace Code

instance : Append Code := ⟨seq⟩

/-- The pieces one after the other. -/
def all (pieces : List Code) : Code := pieces.foldr seq empty

/-- A line of plain text. -/
def text (s : String) : Code := line (.plain s)

/-- Lines of plain text. -/
def texts (l : List String) : Code := all (l.map text)

/-- The code if there is any, otherwise an empty line. -/
def orBlank : Option Code → Code
  | some c => c
  | none => line .empty

/-- An empty line. -/
def blank : Code := line .empty

/-- The code if the condition holds, otherwise nothing. -/
def when (condition : Bool) (code : Code) : Code := if condition then code else empty

/-- A block in braces that binds nothing. -/
def braces (head : Expr) (body : Code) : Code := block (head ++ Expr.plain " \x7b") [] body "\x7d"

/-- A loop. -/
def forEach (pattern : Pattern) (subject : Expr) (body : Code) : Code :=
  block (.of ["for ", pattern.text, " in ", subject, " \x7b"]) pattern.names body "\x7d"

/-- Code for when a field of a receiver is set; its value is then under a name. -/
def ifSet (name receiver ident : String) (body : Code) : Code :=
  block (.of ["if let Some(", .var name, ") = &", receiver, ".", .field ident, " \x7b"]) [name]
    body "\x7d"

/-- The pieces with an empty line between each two of them. -/
def spaced : List Code → Code
  | [] => empty
  | [c] => c
  | c :: rest => seq c (seq blank (spaced rest))

/-- Is there no line in the code? -/
def isEmpty : Code → Bool
  | empty => true
  | seq a b => a.isEmpty && b.isEmpty
  | line _ | bind _ _ | block _ _ _ _ | branch _ _ _ => false

/-- A text at some depth; an empty line stays empty. -/
def indented (depth : Nat) (s : String) : String :=
  if s.isEmpty then s else String.ofList (List.replicate (4 * depth) ' ') ++ s

/-- The lines of the code, the outermost at the given depth. -/
def lines (depth : Nat) : Code → List String
  | empty => []
  | seq a b => a.lines depth ++ b.lines depth
  | line e => [indented depth e.text]
  | bind name value => [indented depth ("let " ++ name ++ " = " ++ value.text ++ ";")]
  | block head _ body close =>
    indented depth head.text :: body.lines (depth + 1) ++ [indented depth close]
  | branch condition first second =>
    indented depth ("if " ++ condition.text ++ " \x7b") :: first.lines (depth + 1) ++
      indented depth "\x7d else \x7b" :: second.lines (depth + 1) ++ [indented depth "\x7d"]

/-- The text of a file that consists of the code. -/
def fileText (c : Code) : String :=
  "\n".intercalate (c.lines 0) ++ "\n"

end Code

end Clientwright
