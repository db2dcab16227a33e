import Clientwright.Service.Protocol
import Clientwright.Text.Literal

/-!
# Expressions of generated code

An expression is text in which everything that refers to something keeps its meaning: string
literals, local variables, fields, generated items, conversions and timestamp formats. It is turned
into characters only when a file is printed, so statements about generated code can speak of what it
refers to.
-/

namespace Clientwright

/-- The modules of a generated crate that hold one item a file. -/
inductive Area where
  | types
  | input
  | output
  deriving DecidableEq, Repr

/-- The name of the module. -/
def Area.name : Area → String
  | .types => "types"
  | .input => "input"
  | .output => "output"

/-- The conversions that a generated structure may have. -/
inductive Conversion where
  | toJson
  | writeXml
  | toQuery
  | fromJson
  | fromXml
  deriving DecidableEq, Repr

/-- The name of the function. -/
def Conversion.name : Conversion → String
  | .toJson => "to_json"
  | .writeXml => "write_xml"
  | .toQuery => "to_query"
  | .fromJson => "from_json"
  | .fromXml => "from_xml"

/-- What a closure or a loop binds. -/
inductive Pattern where
  | var (name : String)
  | any
  | pair (a b : Pattern)
  deriving DecidableEq, Repr

namespace Pattern

/-- The pattern as it is written. -/
def text : Pattern → String
  | var name => name
  | any => "_"
  | pair a b => "(" ++ a.text ++ ", " ++ b.text ++ ")"

/-- The names that the pattern binds. -/
def names : Pattern → List String
  | var name => [name]
  | any => []
  | pair a b => a.names ++ b.names

instance : Coe String Pattern := ⟨var⟩

end Pattern

/-- An expression, or a piece of one. -/
inductive Expr where
  | empty
  /-- text that refers to nothing of interest -/
  | plain (s : String)
  /-- a string literal -/
  | quoted (s : String)
  /-- a local variable -/
  | var (name : String)
  /-- a field of a generated structure -/
  | field (ident : String)
  /-- a generated item, by its full path -/
  | item (area : Area) (name : String)
  /-- the conversion of a structure of the service -/
  | convert (conversion : Conversion) (owner : String)
  | timestamp (format : TimestampFormat)
  | seq (a b : Expr)
  | closure (params : Pattern) (body : Expr)
  deriving DecidableEq, Repr

namespace Expr

instance : Coe String Expr := ⟨plain⟩

instance : Append Expr := ⟨seq⟩

/-- The pieces one after the other. -/
def of (pieces : List Expr) : Expr := pieces.foldr seq empty

/-- The expressions with a text between each two of them. -/
def separated (separator : String) : List Expr → Expr
  | [] => empty
  | [e] => e
  | e :: rest => seq e (seq (plain separator) (separated separator rest))

/-- The expression as it is written. -/
def text : Expr → String
  | empty => ""
  | plain s => s
  | quoted s => Text.literal s
  | var name => name
  | field ident => ident
  | item area name => "crate::" ++ area.name ++ "::" ++ name
  | convert conversion _ => conversion.name
  | timestamp format => "runtime::TimestampFormat::" ++ format.variant
  | seq a b => a.text ++ b.text
  | closure params body => "|" ++ params.text ++ "| " ++ body.text

end Expr

end Clientwright
