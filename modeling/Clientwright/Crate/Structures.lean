import Clientwright.Crate.Struct
import Clientwright.Request.Message
import Clientwright.Response.JsonBody
import Clientwright.Response.XmlBody

/-!
# Structures as types

A structure that is reached from an input has a method that writes it, one that is reached from an
output a function that reads it, both in the encodings of the protocol.
-/

namespace Clientwright.Crate

/-- What the functions that convert a structure may fail with. -/
def failing (result : String) : String := ") -> Result<" ++ result ++ ", runtime::Error>"

/-- The method that writes a structure as JSON. -/
def jsonWriter (b : Blueprint) (s : StructureShape) : Except EmissionFault Code := do
  let object ← Request.JsonBody.members b s.members
  return .braces (.of ["pub(crate) fn to_json(&self", failing "serde_json::Value"]) <| Code.all [
    Request.validated s,
    object,
    .text "Ok(serde_json::Value::Object(object))"]

/-- The method that writes a structure as XML. -/
def xmlWriter (b : Blueprint) (s : StructureShape) : Except EmissionFault Code := do
  let attributes ← Request.XmlBody.attributes b s.members
  let elements ← Request.XmlBody.elements b s.members
  return .braces (.of ["pub(crate) fn write_xml(&self, name: &str, xmlns: Option<&str>, ",
      "out: &mut String", failing "()"]) <| Code.all [
    Request.validated s,
    .text "out.push('<');",
    .text "out.push_str(name);",
    .braces "if let Some(xmlns) = xmlns" <| .texts [
      "out.push(' ');",
      "out.push_str(xmlns);"],
    attributes,
    .text "out.push('>');",
    elements,
    .texts [
      "out.push_str(\"</\");",
      "out.push_str(name);",
      "out.push('>');",
      "Ok(())"]]

/-- The method that adds a structure to the parameters of a form. -/
def queryWriter (b : Blueprint) (s : StructureShape) : Except EmissionFault Code := do
  let statements ← Request.QueryBody.members b "prefix" s.members
  let mark := if s.members.isEmpty then "_" else ""
  return .braces (.of ["pub(crate) fn to_query(&self, ", mark, "prefix: &str, ", mark,
      "params: &mut Vec<(String, String)>", failing "()"]) <| Code.all [
    Request.validated s,
    statements,
    .text "Ok(())"]

/-- The method that writes a structure into requests. -/
def writer (b : Blueprint) (s : StructureShape) : Except EmissionFault Code :=
  match b.protocol.requestEncoding with
  | .json => jsonWriter b s
  | .xml => xmlWriter b s
  | .query => queryWriter b s

/-- The entry of a member in the value of a structure that is read. -/
def fieldValue (m : Member) (value : Expr) : Code :=
  .line (.of [.field (Naming.fieldIdent m.name), ": ", value, ","])

/-- The value of a structure that is read. -/
def readValue (fields : List Code) : Code :=
  .block "Ok(Self \x7b" [] (Code.all fields) "\x7d)"

/-- The function that reads a structure from JSON. -/
def jsonReader (b : Blueprint) (s : StructureShape) : Except EmissionFault Code := do
  let fields ← s.members.mapM fun m =>
    (Response.JsonBody.member b s m "object").map (fieldValue m)
  let body :=
    if s.members.isEmpty then
      .texts ["runtime::json::object(value)?;", "Ok(Self::default())"]
    else .bind "object" "runtime::json::object(value)?" ++ readValue fields
  return .braces (.of ["pub(crate) fn from_json(value: &serde_json::Value", failing "Self"]) body

/-- The function that reads a structure from XML. -/
def xmlReader (b : Blueprint) (s : StructureShape) : Except EmissionFault Code := do
  let fields ← s.members.mapM fun m =>
    (Response.XmlBody.member b s m "node").map (fieldValue m)
  let mark := if s.members.isEmpty then "_" else ""
  let body := if s.members.isEmpty then .text "Ok(Self::default())" else readValue fields
  return .braces (.of ["pub(crate) fn from_xml(", mark, "node: roxmltree::Node<'_, '_>",
    failing "Self"]) body

/-- The function that reads a structure from responses. -/
def reader (b : Blueprint) (s : StructureShape) : Except EmissionFault Code :=
  match b.protocol.responseEncoding with
  | .json => jsonReader b s
  | .xml | .query => xmlReader b s

/-- The file of a structure. -/
def structureFile (b : Blueprint) (s : StructureShape) : Except EmissionFault Code := do
  let written ←
    if b.usage.serialized.contains s.name then (writer b s).map ([·]) else .ok []
  let read ← if b.usage.parsed.contains s.name then (reader b s).map ([·]) else .ok []
  let fields ← fieldsOf b s
  let methods := (Request.validation? s).toList ++ written ++ read
  let union : Code :=
    .when (isDocumented s.documentation) (.text "///") ++
      .text "/// Exactly one member is expected to be set."
  return Code.all [
    usingRuntime,
    documented s.documentation,
    .when s.union union,
    .when s.deprecated (.text "#[deprecated]"),
    structCode (b.typeName s.name) fields
      (if methods.isEmpty then none else some (Code.spaced methods))]

end Clientwright.Crate
