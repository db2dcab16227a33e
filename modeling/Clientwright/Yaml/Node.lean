/-!
# YAML documents

A document as it is written: scalars keep their text and their style, since what a scalar means
depends on what is asked of it. An alias stays an alias; the document says what it stands for.
-/

namespace Clientwright.Yaml

/-- How a scalar is written. -/
inductive Style where
  | plain
  | singleQuoted
  | doubleQuoted
  | literal
  | folded
  deriving DecidableEq, Repr

/-- A scalar. -/
structure Scalar where
  text : String
  style : Style
  tag : Option String
  deriving DecidableEq, Repr

/-- The scalar where none is written. -/
def Scalar.missing (tag : Option String) : Scalar := ⟨"", .plain, tag⟩

/-- A node of a document. -/
inductive Node where
  | scalar (s : Scalar)
  | sequence (items : List Node)
  | mapping (entries : List (Node × Node))
  /-- another node, by its number -/
  | reference (id : Nat)
  deriving Repr

/-- A document: its root, and the nodes that aliases stand for, a later node in place of an earlier
one of the same number. -/
structure Document where
  root : Node
  anchored : List (Nat × Node)
  deriving Repr

namespace Document

/-- The node itself, where there may be an alias of it. -/
def follow (d : Document) : Node → Option Node
  | .reference id => d.anchored.lookup id
  | n => some n

end Document

end Clientwright.Yaml
