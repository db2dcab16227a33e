import Clientwright.Request.Bindings
import Clientwright.Request.Body
import Clientwright.Request.Path

/-!
# Requests

The input of an operation has one method that builds its HTTP request, and one that checks that the
required members are set, where there are any.
-/

namespace Clientwright.Request

/-- The method that checks that the required members of a structure are set, if it has any. -/
def validation? (s : StructureShape) : Option Code :=
  let required := s.members.filter (·.required)
  if required.isEmpty then none
  else
    let check (m : Member) : Code :=
      .line (.of ["runtime::required(&self.", .field (Naming.fieldIdent m.name), ", ",
        .quoted s.name, ", ", .quoted m.name, ")?;"])
    some <| Code.all [
      .text "/// Check that every required member is set",
      .braces "pub fn validate(&self) -> Result<(), runtime::Error>" <|
        Code.all (required.map check) ++ .text "Ok(())"]

/-- The statement that calls the check. -/
def validated (s : StructureShape) : Code :=
  .when (validation? s).isSome (.text "self.validate()?;")

/-- The statement that fills in tokens that are not set, on a copy whose request is built instead. -/
def idempotencyTokens (input : StructureShape) : Code :=
  let fields := (input.members.filter (·.idempotencyToken)).map fun m =>
    Naming.fieldIdent m.name
  let fill (field : String) : Code :=
    .line (.of ["input.", .field field, " = Some(runtime::idempotency_token());"])
  let isNone (receiver field : String) : Expr := .of [receiver, ".", .field field, ".is_none()"]
  let fills :=
    match fields with
    | [field] => fill field
    | fields => Code.all <| fields.map fun field =>
      .braces (.of ["if ", isNone "input" field]) (fill field)
  if fields.isEmpty then .empty
  else
    .braces (.of ["if ", .separated " || " (fields.map (isNone "self"))]) <|
      Code.all [
        .text "let mut input = self.clone();",
        fills,
        .text "return input.request();"]

/-- The statements for the query parameters that the URI fixes. -/
def staticQuery (o : Operation) : Code :=
  Code.all <| o.http.staticQuery.map fun (key, value) => queryParameter (.quoted key) (.quoted value)

/-- The method that builds the request of an operation. -/
def method (b : Blueprint) (o : Operation) (input : Option StructureShape) :
    Except EmissionFault Code := do
  let (labels, path) ← pathOf b o input
  let bound ←
    match input with
    | some s => if b.protocol.isRest then bindings b s else .ok .empty
    | none => .ok .empty
  let sent ← body b o input
  let contents := Code.all [staticQuery o, bound, sent]
  let start : Expr := if contents.isEmpty then "let request" else "let mut request"
  return Code.all [
    .text ("/// Build the HTTP request of the `" ++ o.name ++ "` operation"),
    .braces "pub fn request(&self) -> Result<runtime::Request, runtime::Error>" <| Code.all [
      (input.map idempotencyTokens).getD .empty,
      (input.map validated).getD .empty,
      labels,
      .line (.of [start, " = runtime::Request::new(", .quoted o.http.method, ", ", path, ");"]),
      contents,
      .text "Ok(request)"]]

end Clientwright.Request
