import Clientwright.Naming.Identifier
import Clientwright.Response.JsonBody
import Clientwright.Response.XmlBody

/-!
# Responses

The output of an operation has one method that reads it from an HTTP response: first the body, which
may be one member or hold several, then the members in headers and the status code.
-/

namespace Clientwright.Response

/-- A statement that assigns to the field of a member. -/
def assign (m : Member) (value : Expr) : Code :=
  .line (.of ["output.", .field (Naming.fieldIdent m.name), " = ", value, ";"])

/-- Statements for when the body is an XML document. -/
def withDocument (inner : Code) : Code :=
  .text "let text = response.text()?;" ++
    .block "if let Some(document) = runtime::xml::parse(&text)? \x7b" ["document"] inner "\x7d"

/-- The statements that read the member that is the whole body. -/
def payload (b : Blueprint) (output : StructureShape) (m : Member) :
    Except EmissionFault Code :=
  let set (value : Expr) : Code := assign m (.of ["Some(", value, ")"])
  let boxed (e : Expr) : Expr := if b.isBoxed output m then .of ["Box::new(", e, ")"] else e
  match b.value m.shape with
  | .scalar key s =>
    .ok <|
      match s.kind with
      | .blob => set "response.body.clone()"
      | .document => set "response.json()?"
      | _ =>
        if s.isEnum then set (.of [b.typeItem key, "::from(response.text()?)"])
        else set "response.text()?"
  | .structure key s =>
    match b.protocol.responseEncoding with
    | .json =>
      .ok (set (boxed (.of [b.typeItem key, "::", .convert .fromJson s.name,
        "(&response.json()?)?"])))
    | _ =>
      .ok (withDocument (set (boxed (.of [b.typeItem key, "::", .convert .fromXml s.name,
        "(document.root_element())?"]))))
  | .unknown key => .error (.unknownShape key)
  | .list _ _ _ | .map _ _ _ _ | .endless _ => .error (.payloadNotReadable output.name m.name)

/-- The statements that read the members in the body. -/
def body (b : Blueprint) (o : Operation) (output : StructureShape) : Except EmissionFault Code :=
  let members := output.bodyMembers
  if members.isEmpty then .ok .empty
  else
    match b.protocol.responseEncoding with
    | .json => do
      let assignments ← members.mapM fun m =>
        (JsonBody.member b output m "object").map (assign m)
      return Code.all [
        .text "let body = response.json()?;",
        .bind "object" "runtime::json::object(&body)?",
        Code.all assignments]
    | _ => do
      let assignments ← members.mapM fun m => (XmlBody.member b output m "node").map (assign m)
      let node : Expr :=
        match o.resultWrapper with
        | some wrapper =>
          .of ["runtime::xml::unwrap_result(document.root_element(), Some(", .quoted wrapper,
            "))"]
        | none => "document.root_element()"
      return withDocument (.bind "node" node ++ Code.all assignments)

/-- The statements that read a member, if it is in headers or the status code. -/
def binding (b : Blueprint) (output : StructureShape) (m : Member) : Except EmissionFault Code :=
  let v := b.value m.shape
  let format := b.memberFormat m
  match m.location with
  | .header => do
    let inner ← headerOf b v "value" format
    return assign m (.of ["response.header(", .quoted m.wireName, ").map(",
      .closure "value" inner, ").transpose()?"])
  | .headers =>
    match v with
    | .map _ _ _ values => do
      let inner ← textOf b values "value" format
      return .bind "prefixed" (.of ["response.headers_with_prefix(", .quoted m.wireName, ")"]) ++
        .braces "if !prefixed.is_empty()" (assign m (.of ["Some(prefixed.iter().map(",
          .closure (.pair "key" "value") (.of [inner, ".map(",
            .closure "parsed" (.of ["(", .var "key", ".clone(), ", .var "parsed", ")"]), ")"]),
          ").collect::<Result<_, runtime::Error>>()?)"]))
    | .unknown key => .error (.unknownShape key)
    | _ => .error (.headersNotAMap output.name m.name)
  | .statusCode => .ok (assign m "Some(response.status.into())")
  | .body | .uri | .querystring => .ok .empty

/-- The method that reads the output of an operation. -/
def method (b : Blueprint) (o : Operation) (output : StructureShape) :
    Except EmissionFault Code := do
  let signature (parameter : String) : Expr :=
    .of ["pub(crate) fn from_response(", parameter,
      ": &runtime::Response) -> Result<Self, runtime::Error>"]
  if output.members.isEmpty then
    return .braces (signature "_response") (.text "Ok(Self::default())")
  let read ←
    match output.payloadMember? with
    | some m => payload b output m
    | none => body b o output
  let bound ← output.members.mapM (binding b output)
  return .braces (signature "response") <| Code.all [
    .text "let mut output = Self::default();",
    read,
    Code.all bound,
    .text "Ok(output)"]

end Clientwright.Response
