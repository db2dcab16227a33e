import Clientwright.Crate.Struct
import Clientwright.Naming.Unique

/-!
# Enumerated texts as types

A text with known values becomes a type with one variant for each of them and one more for values
that were not known. Every value gets a variant of its own, also where several would be named alike.
-/

namespace Clientwright.Crate

/-- A variant, with the value it stands for. -/
structure Variant where
  name : String
  value : String
  deriving DecidableEq, Repr

/-- The variant for values that were not known. -/
def unknownVariant : String := "Unknown"

/-- The name that is wanted for the variant of a value. -/
def wantedVariant (value : String) : String :=
  let name := Naming.variantIdent value
  if name.isEmpty then "Empty"
  else if name = unknownVariant then "UnknownValue"
  else name

/-- The variants of some values. -/
def variants (values : List String) : List Variant :=
  List.zipWith Variant.mk (Naming.uniqueAll [unknownVariant] (values.map wantedVariant)) values

/-- The type of an enumerated text. -/
def enumCode (name : String) (documentation : Option String) (all : List Variant) : Code :=
  let each (f : Variant → Expr) : Code := Code.all (all.map fun v => .line (f v))
  Code.all [
    documented documentation,
    .text "#[derive(Debug, Clone, PartialEq, Eq, Hash)]",
    .braces (.of ["pub enum ", name]) <| Code.all [
      Code.all (all.map fun v => .texts ["/// `" ++ v.value ++ "`", v.name ++ ","]),
      .text "/// A value not known when this crate was generated",
      .text "Unknown(String),"],
    .blank,
    .braces (.of ["impl ", name]) <| Code.all [
      .text "/// Value sent on the wire",
      .braces "pub fn as_str(&self) -> &str" <| .braces "match self" <| Code.all [
        each fun v => .of [name, "::", v.name, " => ", .quoted v.value, ","],
        .text (name ++ "::Unknown(value) => value.as_str(),")],
      .blank,
      .text "/// Every known value",
      .braces "pub fn values() -> &'static [&'static str]" <|
        .line (.of ["&[", .separated ", " (all.map fun v => .quoted v.value), "]"])],
    .blank,
    .braces (.of ["impl From<&str> for ", name]) <|
      .braces "fn from(value: &str) -> Self" <| .braces "match value" <| Code.all [
        each fun v => .of [.quoted v.value, " => ", name, "::", v.name, ","],
        .text ("other => " ++ name ++ "::Unknown(other.to_string()),")],
    .blank,
    .braces (.of ["impl From<String> for ", name]) <|
      .braces "fn from(value: String) -> Self" (.text "Self::from(value.as_str())"),
    .blank,
    .braces (.of ["impl std::fmt::Display for ", name]) <|
      .braces "fn fmt(&self, f: &mut std::fmt::Formatter<'_>) -> std::fmt::Result" <|
        .text "f.write_str(self.as_str())"]

/-- The file of an enumerated text. -/
def enumFile (b : Blueprint) (shape : String) : Except EmissionFault Code :=
  match b.service.shape? shape with
  | some (.scalar s) =>
    .ok (enumCode (b.typeName shape) s.documentation (variants s.enumValues))
  | some _ => .error (.notAnEnum shape)
  | none => .error (.unknownShape shape)

end Clientwright.Crate
