import Clientwright.Error
import Clientwright.Json.Reader
import Clientwright.Json.Record
import Clientwright.Json.Writer
import Clientwright.Service.Basic

/-!
# Stored services

A service can be stored as JSON and read back. What is written has every field; what is read may
leave out the optional ones, and may have more. Reading does not check that references resolve.
-/

namespace Clientwright

open Json

/-- The value of the list whose name is the text. -/
def named? {α : Type} (all : List α) (name : α → String) (v : Json) : Option α := do
  let s ← variantName? v
  all.find? fun a => name a == s
where
  /-- a variant without data: its name, or an object with its name and null -/
  variantName? : Json → Option String
    | .string s => some s
    | .object [(s, .null)] => some s
    | _ => none

namespace Protocol

/-- The protocol as JSON. -/
def toJson (p : Protocol) : Json := .string p.name

/-- Reads a protocol. -/
def ofJson? : Json → Option Protocol := named? all name

end Protocol

namespace TimestampFormat

/-- The format as JSON. -/
def toJson (f : TimestampFormat) : Json := .string f.variant

/-- Reads a format. -/
def ofJson? : Json → Option TimestampFormat := named? all variant

end TimestampFormat

namespace Location

/-- The location as JSON. -/
def toJson (l : Location) : Json := .string l.variant

/-- Reads a location. -/
def ofJson? : Json → Option Location := named? all variant

end Location

namespace ScalarKind

/-- The kind as JSON. -/
def toJson (k : ScalarKind) : Json := .string k.name

/-- Reads a kind. -/
def ofJson? : Json → Option ScalarKind := named? all name

end ScalarKind

namespace XmlNamespace

/-- The namespace as JSON. -/
def toJson (n : XmlNamespace) : Json :=
  .object [("uri", .string n.uri), ("prefix", ofOption .string n.shorthand)]

/-- Reads a namespace. -/
def ofJson? (v : Json) : Option XmlNamespace := do
  let r ← record? ["uri", "prefix"] v
  return { uri := ← r.required "uri" string?, shorthand := ← r.optional "prefix" string? }

end XmlNamespace

namespace ShapeRef

/-- The reference as JSON. -/
def toJson (r : ShapeRef) : Json :=
  .object [("shape", .string r.shape), ("location_name", ofOption .string r.locationName)]

/-- Reads a reference. -/
def ofJson? (v : Json) : Option ShapeRef := do
  let r ← record? ["shape", "location_name"] v
  return {
    shape := ← r.required "shape" string?
    locationName := ← r.optional "location_name" string? }

end ShapeRef

namespace Member

/-- The member as JSON. -/
def toJson (m : Member) : Json :=
  .object [
    ("name", .string m.name),
    ("shape", .string m.shape),
    ("required", .bool m.required),
    ("location", m.location.toJson),
    ("location_name", ofOption .string m.locationName),
    ("query_name", ofOption .string m.queryName),
    ("streaming", .bool m.streaming),
    ("idempotency_token", .bool m.idempotencyToken),
    ("flattened", .bool m.flattened),
    ("xml_attribute", .bool m.xmlAttribute),
    ("xml_namespace", ofOption XmlNamespace.toJson m.xmlNamespace),
    ("timestamp_format", ofOption TimestampFormat.toJson m.timestampFormat),
    ("documentation", ofOption .string m.documentation),
    ("deprecated", .bool m.deprecated)]

/-- Reads a member. -/
def ofJson? (v : Json) : Option Member := do
  let r ← record? ["name", "shape", "required", "location", "location_name", "query_name",
    "streaming", "idempotency_token", "flattened", "xml_attribute", "xml_namespace",
    "timestamp_format", "documentation", "deprecated"] v
  return {
    name := ← r.required "name" string?
    shape := ← r.required "shape" string?
    required := ← r.required "required" bool?
    location := ← r.required "location" Location.ofJson?
    locationName := ← r.optional "location_name" string?
    queryName := ← r.optional "query_name" string?
    streaming := ← r.required "streaming" bool?
    idempotencyToken := ← r.required "idempotency_token" bool?
    flattened := ← r.required "flattened" bool?
    xmlAttribute := ← r.required "xml_attribute" bool?
    xmlNamespace := ← r.optional "xml_namespace" XmlNamespace.ofJson?
    timestampFormat := ← r.optional "timestamp_format" TimestampFormat.ofJson?
    documentation := ← r.optional "documentation" string?
    deprecated := ← r.required "deprecated" bool? }

end Member

namespace StructureShape

/-- The fields of the structure as JSON. -/
def fields (s : StructureShape) : List (String × Json) := [
  ("name", .string s.name),
  ("members", .array (s.members.map Member.toJson)),
  ("payload", ofOption .string s.payload),
  ("exception", .bool s.exception),
  ("error_code", ofOption .string s.errorCode),
  ("location_name", ofOption .string s.locationName),
  ("xml_namespace", ofOption XmlNamespace.toJson s.xmlNamespace),
  ("union", .bool s.union),
  ("documentation", ofOption .string s.documentation),
  ("deprecated", .bool s.deprecated)]

/-- Reads a structure. -/
def ofJson? (v : Json) : Option StructureShape := do
  let r ← record? ["name", "members", "payload", "exception", "error_code", "location_name",
    "xml_namespace", "union", "documentation", "deprecated"] v
  return {
    name := ← r.required "name" string?
    members := ← r.required "members" (list? Member.ofJson?)
    payload := ← r.optional "payload" string?
    exception := ← r.required "exception" bool?
    errorCode := ← r.optional "error_code" string?
    locationName := ← r.optional "location_name" string?
    xmlNamespace := ← r.optional "xml_namespace" XmlNamespace.ofJson?
    union := ← r.required "union" bool?
    documentation := ← r.optional "documentation" string?
    deprecated := ← r.required "deprecated" bool? }

end StructureShape

namespace ListShape

/-- The fields of the list as JSON. -/
def fields (l : ListShape) : List (String × Json) := [
  ("name", .string l.name),
  ("member", l.member.toJson),
  ("flattened", .bool l.flattened),
  ("documentation", ofOption .string l.documentation)]

/-- Reads a list. -/
def ofJson? (v : Json) : Option ListShape := do
  let r ← record? ["name", "member", "flattened", "documentation"] v
  return {
    name := ← r.required "name" string?
    member := ← r.required "member" ShapeRef.ofJson?
    flattened := ← r.required "flattened" bool?
    documentation := ← r.optional "documentation" string? }

end ListShape

namespace MapShape

/-- The fields of the map as JSON. -/
def fields (m : MapShape) : List (String × Json) := [
  ("name", .string m.name),
  ("key", m.key.toJson),
  ("value", m.value.toJson),
  ("flattened", .bool m.flattened),
  ("documentation", ofOption .string m.documentation)]

/-- Reads a map. -/
def ofJson? (v : Json) : Option MapShape := do
  let r ← record? ["name", "key", "value", "flattened", "documentation"] v
  return {
    name := ← r.required "name" string?
    key := ← r.required "key" ShapeRef.ofJson?
    value := ← r.required "value" ShapeRef.ofJson?
    flattened := ← r.required "flattened" bool?
    documentation := ← r.optional "documentation" string? }

end MapShape

namespace ScalarShape

/-- The fields of the scalar as JSON. -/
def fields (s : ScalarShape) : List (String × Json) := [
  ("name", .string s.name),
  ("kind", s.kind.toJson),
  ("enum_values", .array (s.enumValues.map .string)),
  ("timestamp_format", ofOption TimestampFormat.toJson s.timestampFormat),
  ("streaming", .bool s.streaming),
  ("sensitive", .bool s.sensitive),
  ("documentation", ofOption .string s.documentation)]

/-- Reads a scalar. -/
def ofJson? (v : Json) : Option ScalarShape := do
  let r ← record? ["name", "kind", "enum_values", "timestamp_format", "streaming", "sensitive",
    "documentation"] v
  return {
    name := ← r.required "name" string?
    kind := ← r.required "kind" ScalarKind.ofJson?
    enumValues := ← r.withDefault "enum_values" (list? string?) []
    timestampFormat := ← r.optional "timestamp_format" TimestampFormat.ofJson?
    streaming := ← r.required "streaming" bool?
    sensitive := ← r.required "sensitive" bool?
    documentation := ← r.optional "documentation" string? }

end ScalarShape

namespace Shape

/-- The shape as JSON: its fields behind a tag that says what it is. -/
def toJson : Shape → Json
  | .structure s => .object (("type", .string "structure") :: s.fields)
  | .list l => .object (("type", .string "list") :: l.fields)
  | .map m => .object (("type", .string "map") :: m.fields)
  | .scalar s => .object (("type", .string "scalar") :: s.fields)

/-- How deeply the value of a shape's field may nest, given that the shape itself stands inside
three objects. -/
def maxFieldDepth : Nat := maxDepth - 3

/-- Reads a shape. Since the tag may come last, all fields are looked at, and even those that are
skipped must denote something. -/
def ofJson? (v : Json) : Option Shape := do
  let tag ← record? ["type"] v
  if !v.isSound || maxFieldDepth + 1 < v.depth then none
  else
    match (← tag.required "type" string?) with
    | "structure" => (StructureShape.ofJson? v).map .structure
    | "list" => (ListShape.ofJson? v).map .list
    | "map" => (MapShape.ofJson? v).map .map
    | "scalar" => (ScalarShape.ofJson? v).map .scalar
    | _ => none

end Shape

namespace HttpBinding

/-- The binding as JSON. -/
def toJson (b : HttpBinding) : Json :=
  .object [
    ("method", .string b.method),
    ("request_uri", .string b.requestUri),
    ("response_code", ofOption ofNat b.responseCode)]

/-- Reads a binding. -/
def ofJson? (v : Json) : Option HttpBinding := do
  let r ← record? ["method", "request_uri", "response_code"] v
  return {
    method := ← r.required "method" string?
    requestUri := ← r.required "request_uri" string?
    responseCode := ← r.optional "response_code" nat16? }

end HttpBinding

namespace Operation

/-- The operation as JSON. -/
def toJson (o : Operation) : Json :=
  .object [
    ("name", .string o.name),
    ("http", o.http.toJson),
    ("input", ofOption .string o.input),
    ("output", ofOption .string o.output),
    ("result_wrapper", ofOption .string o.resultWrapper),
    ("errors", .array (o.errors.map .string)),
    ("documentation", ofOption .string o.documentation),
    ("deprecated", .bool o.deprecated)]

/-- Reads an operation. -/
def ofJson? (v : Json) : Option Operation := do
  let r ← record? ["name", "http", "input", "output", "result_wrapper", "errors",
    "documentation", "deprecated"] v
  return {
    name := ← r.required "name" string?
    http := ← r.required "http" HttpBinding.ofJson?
    input := ← r.optional "input" string?
    output := ← r.optional "output" string?
    resultWrapper := ← r.optional "result_wrapper" string?
    errors := ← r.required "errors" (list? string?)
    documentation := ← r.optional "documentation" string?
    deprecated := ← r.required "deprecated" bool? }

end Operation

namespace Metadata

/-- The metadata as JSON. -/
def toJson (m : Metadata) : Json :=
  .object [
    ("api_version", .string m.apiVersion),
    ("endpoint_prefix", .string m.endpointPrefix),
    ("service_id", .string m.serviceId),
    ("service_full_name", .string m.fullName),
    ("protocol", m.protocol.toJson),
    ("json_version", ofOption .string m.jsonVersion),
    ("target_prefix", ofOption .string m.targetPrefix),
    ("xml_namespace", ofOption .string m.xmlNamespace),
    ("signing_name", ofOption .string m.signingName),
    ("signature_version", ofOption .string m.signatureVersion)]

/-- Reads metadata. -/
def ofJson? (v : Json) : Option Metadata := do
  let r ← record? ["api_version", "endpoint_prefix", "service_id", "service_full_name",
    "protocol", "json_version", "target_prefix", "xml_namespace", "signing_name",
    "signature_version"] v
  return {
    apiVersion := ← r.required "api_version" string?
    endpointPrefix := ← r.required "endpoint_prefix" string?
    serviceId := ← r.required "service_id" string?
    fullName := ← r.required "service_full_name" string?
    protocol := ← r.required "protocol" Protocol.ofJson?
    jsonVersion := ← r.optional "json_version" string?
    targetPrefix := ← r.optional "target_prefix" string?
    xmlNamespace := ← r.optional "xml_namespace" string?
    signingName := ← r.optional "signing_name" string?
    signatureVersion := ← r.optional "signature_version" string? }

end Metadata

namespace Step

/-- The step as JSON. -/
def toJson : Step → Json
  | .field name => .object [("Field", .string name)]
  | .project => .string "Project"
  | .index n => .object [("Index", .number (.ofInt n))]

/-- Reads a step. -/
def ofJson? : Json → Option Step
  | .object [("Field", v)] => (string? v).map .field
  | .object [("Index", v)] => (int64? v).map .index
  | .string "Project" | .object [("Project", .null)] => some .project
  | _ => none

end Step

namespace Selector

/-- The selector as JSON. -/
def toJson (s : Selector) : Json :=
  .object [("alternatives", .array (s.alternatives.map fun a => .array (a.map Step.toJson)))]

/-- Reads a selector. -/
def ofJson? (v : Json) : Option Selector := do
  let r ← record? ["alternatives"] v
  return { alternatives := ← r.required "alternatives" (list? (list? Step.ofJson?)) }

end Selector

namespace Pagination

/-- The paginator as JSON. -/
def toJson (p : Pagination) : Json :=
  .object [
    ("operation", .string p.operation),
    ("input_tokens", .array (p.inputTokens.map .string)),
    ("output_tokens", .array (p.outputTokens.map Selector.toJson)),
    ("limit_key", ofOption .string p.limitKey),
    ("result_keys", .array (p.resultKeys.map Selector.toJson)),
    ("more_results", ofOption Selector.toJson p.moreResults)]

/-- Reads a paginator. -/
def ofJson? (v : Json) : Option Pagination := do
  let r ← record? ["operation", "input_tokens", "output_tokens", "limit_key", "result_keys",
    "more_results"] v
  return {
    operation := ← r.required "operation" string?
    inputTokens := ← r.required "input_tokens" (list? string?)
    outputTokens := ← r.required "output_tokens" (list? Selector.ofJson?)
    limitKey := ← r.optional "limit_key" string?
    resultKeys := ← r.required "result_keys" (list? Selector.ofJson?)
    moreResults := ← r.optional "more_results" Selector.ofJson? }

end Pagination

namespace AcceptorState

/-- The state as JSON. -/
def toJson (s : AcceptorState) : Json := .string s.variant

/-- Reads a state. -/
def ofJson? : Json → Option AcceptorState := named? all variant

end AcceptorState

namespace Expected

/-- The literal as JSON. -/
def toJson : Expected → Json
  | .string s => .object [("String", .string s)]
  | .boolean b => .object [("Boolean", .bool b)]
  | .number t => .object [("Number", .string t)]

/-- Reads a literal. -/
def ofJson? : Json → Option Expected
  | .object [("String", v)] => (string? v).map .string
  | .object [("Boolean", v)] => (bool? v).map .boolean
  | .object [("Number", v)] => (string? v).map .number
  | _ => none

end Expected

namespace Matcher

/-- A comparison as JSON. -/
def comparison (argument : Selector) (expected : Expected) : Json :=
  .object [("argument", argument.toJson), ("expected", expected.toJson)]

/-- Reads a comparison. -/
def comparison? (make : Selector → Expected → Matcher) (v : Json) : Option Matcher := do
  let r ← record? ["argument", "expected"] v
  return make (← r.required "argument" Selector.ofJson?) (← r.required "expected" Expected.ofJson?)

/-- The matcher as JSON. -/
def toJson : Matcher → Json
  | .path a e => .object [("Path", comparison a e)]
  | .pathAll a e => .object [("PathAll", comparison a e)]
  | .pathAny a e => .object [("PathAny", comparison a e)]
  | .status code => .object [("Status", ofNat code)]
  | .errorCode code => .object [("ErrorCode", .string code)]
  | .anyError failed => .object [("AnyError", .bool failed)]
  | .unsupported matcher reason =>
    .object [("Unsupported", .object [("matcher", .string matcher), ("reason", .string reason)])]

/-- Reads a matcher. -/
def ofJson? : Json → Option Matcher
  | .object [("Path", v)] => comparison? .path v
  | .object [("PathAll", v)] => comparison? .pathAll v
  | .object [("PathAny", v)] => comparison? .pathAny v
  | .object [("Status", v)] => (nat16? v).map .status
  | .object [("ErrorCode", v)] => (string? v).map .errorCode
  | .object [("AnyError", v)] => (bool? v).map .anyError
  | .object [("Unsupported", v)] => do
    let r ← record? ["matcher", "reason"] v
    return .unsupported (← r.required "matcher" string?) (← r.required "reason" string?)
  | _ => none

end Matcher

namespace Acceptor

/-- The acceptor as JSON. -/
def toJson (a : Acceptor) : Json :=
  .object [("state", a.state.toJson), ("matcher", a.matcher.toJson)]

/-- Reads an acceptor. -/
def ofJson? (v : Json) : Option Acceptor := do
  let r ← record? ["state", "matcher"] v
  return {
    state := ← r.required "state" AcceptorState.ofJson?
    matcher := ← r.required "matcher" Matcher.ofJson? }

end Acceptor

namespace Waiter

/-- The waiter as JSON. -/
def toJson (w : Waiter) : Json :=
  .object [
    ("name", .string w.name),
    ("operation", .string w.operation),
    ("delay", ofNat w.delay),
    ("max_attempts", ofNat w.maxAttempts),
    ("description", ofOption .string w.description),
    ("acceptors", .array (w.acceptors.map Acceptor.toJson))]

/-- Reads a waiter. -/
def ofJson? (v : Json) : Option Waiter := do
  let r ← record? ["name", "operation", "delay", "max_attempts", "description", "acceptors"] v
  return {
    name := ← r.required "name" string?
    operation := ← r.required "operation" string?
    delay := ← r.required "delay" nat32?
    maxAttempts := ← r.required "max_attempts" nat32?
    description := ← r.optional "description" string?
    acceptors := ← r.required "acceptors" (list? Acceptor.ofJson?) }

end Waiter

/-- A table as JSON. -/
def Table.toJson {α : Type} (f : α → Json) (t : Table α) : Json :=
  .object (t.map f).entries

namespace Service

/-- The service as JSON. -/
def toJson (s : Service) : Json :=
  .object [
    ("name", .string s.name),
    ("metadata", s.metadata.toJson),
    ("documentation", ofOption .string s.documentation),
    ("operations", s.operations.toJson Operation.toJson),
    ("shapes", s.shapes.toJson Shape.toJson),
    ("paginators", s.paginators.toJson Pagination.toJson),
    ("waiters", s.waiters.toJson Waiter.toJson)]

/-- Reads a service. -/
def ofJson? (v : Json) : Option Service := do
  let r ← record? ["name", "metadata", "documentation", "operations", "shapes", "paginators",
    "waiters"] v
  return {
    name := ← r.required "name" string?
    metadata := ← r.required "metadata" Metadata.ofJson?
    documentation := ← r.optional "documentation" string?
    operations := ← r.required "operations" (table? Operation.ofJson?)
    shapes := ← r.required "shapes" (table? Shape.ofJson?)
    paginators := ← r.withDefault "paginators" (table? Pagination.ofJson?) .empty
    waiters := ← r.withDefault "waiters" (table? Waiter.ofJson?) .empty }

/-- The text under which a service is stored. -/
def stored (s : Service) : String := s.toJson.text

/-- Reads a stored service. -/
def ofStored? (text : String) : Option Service := do
  ofJson? (← Json.ofText? text)

/-- Reads a stored service, or says that it cannot. -/
def load (text : String) : Except Error Service :=
  match ofStored? text with
  | some s => .ok s
  | none => .error .malformedStore

end Service

end Clientwright
