import Clientwright.Blueprint.Types
import Clientwright.Docs.Comment
import Clientwright.Naming.Identifier
import Clientwright.Source.Code

/-!
# Generated structures

Inputs, outputs and types are all structures with one optional field for each member, a constructor
for the empty value, and a method for each field that sets it.
-/

namespace Clientwright.Crate

/-- A field of a generated structure. -/
structure Field where
  ident : String
  /-- the name of the method that sets the field -/
  setter : String
  type : ValueType
  /-- the type of what the setter takes, which it boxes itself -/
  valueType : ValueType
  isBoxed : Bool
  documentation : Option String
  deprecated : Bool
  deriving DecidableEq, Repr

/-- The field of a member. -/
def Field.ofMember (b : Blueprint) (owner : StructureShape) (m : Member) :
    Except EmissionFault Field := do
  let valueType ← b.shapeType m.shape
  let isBoxed := b.isBoxed owner m
  return {
    ident := Naming.fieldIdent m.name
    setter := "with_" ++ Naming.snake m.name
    type := if isBoxed then .boxed valueType else valueType
    valueType
    isBoxed
    documentation := m.documentation
    deprecated := m.deprecated }

/-- The fields of a structure. -/
def fieldsOf (b : Blueprint) (s : StructureShape) : Except EmissionFault (List Field) :=
  s.members.mapM (Field.ofMember b s)

/-- Documentation comments. -/
def documented (html : Option String) : Code := .texts (Docs.commentLines html)

/-- Is there documentation, be it without any text in the end? -/
def isDocumented (html : Option String) : Bool := html.any fun s => !s.isEmpty

/-- The declaration of a field. -/
def Field.declaration (f : Field) : Code :=
  Code.all [
    documented f.documentation,
    .when f.deprecated (.text "#[deprecated]"),
    .line (.of ["pub ", .field f.ident, ": Option<", f.type.expr, ">,"])]

/-- The method that sets a field. -/
def Field.method (f : Field) : Code :=
  let value : Expr := if f.isBoxed then "Box::new(value.into())" else "value.into()"
  Code.all [
    .blank,
    .text ("/// Set `" ++ f.ident ++ "`"),
    .braces (.of ["pub fn ", f.setter, "(mut self, value: impl Into<", f.valueType.expr,
        ">) -> Self"]) <| Code.all [
      .line (.of ["self.", .field f.ident, " = Some(", value, ");"]),
      .text "self"]]

/-- A structure with its fields and its methods. -/
def structCode (name : String) (fields : List Field) (methods : Option Code) : Code :=
  Code.all [
    .text "#[derive(Debug, Clone, PartialEq, Default)]",
    .braces (.of ["pub struct ", name]) (Code.all (fields.map Field.declaration)),
    .blank,
    .braces (.of ["impl ", name]) <| Code.all [
      .text ("/// Create an empty `" ++ name ++ "`"),
      .braces "pub fn new() -> Self" (.text "Self::default()"),
      Code.all (fields.map Field.method),
      .blank,
      .orBlank methods]]

/-- The first lines of a file that needs the runtime. -/
def usingRuntime : Code := .text "use crate::runtime;" ++ .blank

end Clientwright.Crate
