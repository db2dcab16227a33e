import Clientwright.Request.JsonBody
import Clientwright.Request.QueryBody
import Clientwright.Request.XmlBody

/-!
# Bodies of requests

Each protocol has its own body. In the rest protocols one member may be the whole body, and without
such a member and without members for the body there is no body.
-/

namespace Clientwright.Request

/-- A statement that sets a header to a fixed text. -/
def fixedHeader (name text : String) : Code :=
  .line (.of ["request.header(", .quoted name, ", ", .quoted text, ");"])

/-- The statement that makes the object the body. -/
def objectBody : Code :=
  .text "request.body = runtime::json::to_bytes(&serde_json::Value::Object(object));"

/-- The body of the json protocol. -/
def jsonBody (b : Blueprint) (o : Operation) (members : List Member) :
    Except EmissionFault Code := do
  let metadata := b.service.metadata
  let object ← JsonBody.members b members
  let target :=
    match metadata.targetPrefix with
    | some target => fixedHeader "X-Amz-Target" (target ++ "." ++ o.name)
    | none => .empty
  return Code.all [
    target,
    fixedHeader "Content-Type" ("application/x-amz-json-" ++ metadata.jsonVersion.getD "1.0"),
    object,
    objectBody]

/-- What a payload is, where it is a scalar. -/
def rawPayload (kind : ScalarKind) : Code :=
  match kind with
  | .blob => .line (.of ["request.body = ", .var "value", ".clone();"])
  | .document =>
    fixedHeader "Content-Type" "application/json" ++
      .line (.of ["request.body = runtime::json::to_bytes(", .var "value", ");"])
  | _ => .line (.of ["request.body = ", .var "value", ".to_string().into_bytes();"])

/-- The body that a member makes up alone; `structured` is the body where it is no scalar. -/
def payloadBody (b : Blueprint) (m : Member) (structured : Code) : Except EmissionFault Code :=
  match b.value m.shape with
  | .scalar _ s => .ok (.ifSet "value" "self" (Naming.fieldIdent m.name) (rawPayload s.kind))
  | .unknown key => .error (.unknownShape key)
  | _ => .ok (.ifSet "value" "self" (Naming.fieldIdent m.name) structured)

/-- The name by which a payload's structure is converted. -/
def payloadName (b : Blueprint) (m : Member) : String :=
  ((b.service.structure? m.shape).map (·.name)).getD m.shape

/-- The body of the rest-json protocol. -/
def restJsonBody (b : Blueprint) (input : StructureShape) : Except EmissionFault Code :=
  match input.payloadMember? with
  | some m =>
    payloadBody b m <| Code.all [
      fixedHeader "Content-Type" "application/json",
      .line (.of ["request.body = runtime::json::to_bytes(&", .var "value", ".",
        .convert .toJson (payloadName b m), "()?);"])]
  | none => do
    if input.bodyMembers.isEmpty then return .empty
    let object ← JsonBody.members b input.bodyMembers
    return Code.all [fixedHeader "Content-Type" "application/json", object, objectBody]

/-- The statements that make a text of XML the body. -/
def xmlSent : Code :=
  fixedHeader "Content-Type" "application/xml" ++ .text "request.body = body.into_bytes();"

/-- The body of the rest-xml protocol. -/
def restXmlBody (b : Blueprint) (input : StructureShape) : Except EmissionFault Code :=
  match input.payloadMember? with
  | some m =>
    let target := b.service.structure? m.shape
    let root := (m.locationName.or (target.bind (·.locationName))).getD m.name
    let xmlNamespace := m.xmlNamespace.or (target.bind (·.xmlNamespace))
    payloadBody b m <| Code.all [
      .text "let mut body = String::new();",
      .line (.of [.var "value", ".", .convert .writeXml (payloadName b m), "(", .quoted root, ", ",
        XmlBody.namespaceArgument xmlNamespace, ", &mut body)?;"]),
      xmlSent]
  | none => do
    if input.bodyMembers.isEmpty then return .empty
    let root := input.locationName.getD input.name
    let attributes ← XmlBody.attributes b input.bodyMembers
    let elements ← XmlBody.elements b input.bodyMembers
    return Code.all [
      .text "let mut body = String::new();",
      .text "let out = &mut body;",
      XmlBody.push ("<" ++ root),
      match input.xmlNamespace with
      | some n => XmlBody.push (" " ++ n.attribute)
      | none => .empty,
      attributes,
      .text "out.push('>');",
      elements,
      XmlBody.push ("</" ++ root ++ ">"),
      xmlSent]

/-- The body of the query protocols. -/
def queryBody (b : Blueprint) (o : Operation) (members : List Member) :
    Except EmissionFault Code := do
  let fixed (name text : String) : Code :=
    .line (.of ["(", .quoted name, ".to_string(), ", .quoted text, ".to_string()),"])
  let statements ← QueryBody.members b "\"\"" members
  return Code.all [
    .block (if members.isEmpty then "let params = vec![" else "let mut params = vec![") []
      (fixed "Action" o.name ++ fixed "Version" b.service.metadata.apiVersion) "];",
    .when (!members.isEmpty) (.text "let params = &mut params;"),
    statements,
    fixedHeader "Content-Type" "application/x-www-form-urlencoded; charset=utf-8",
    .text "request.body = runtime::form_encode(&params).into_bytes();"]

/-- The body of a request. -/
def body (b : Blueprint) (o : Operation) (input : Option StructureShape) :
    Except EmissionFault Code :=
  let members := (input.map (·.bodyMembers)).getD []
  match b.protocol with
  | .json => jsonBody b o members
  | .query | .ec2 => queryBody b o members
  | .restJson => (input.mapM (restJsonBody b)).map (·.getD .empty)
  | .restXml => (input.mapM (restXmlBody b)).map (·.getD .empty)

end Clientwright.Request
