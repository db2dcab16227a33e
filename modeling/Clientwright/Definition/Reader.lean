import Clientwright.Definition.Basic
import Clientwright.Json.Reader
import Clientwright.Json.Record

/-!
# Reading service definitions

The document is a JSON object. Fields that are not known are skipped, a field that is missing has
its default, and a field of the wrong type makes the whole document unreadable.
-/

namespace Clientwright.Definition

open Json

/-- Reads a reference to a shape. -/
def reference? (v : Json) : Option ShapeRef := do
  let r ← record? ["shape", "locationName"] v
  return {
    shape := ← r.required "shape" string?
    locationName := ← r.optional "locationName" string? }

/-- Reads a namespace. -/
def namespace? (v : Json) : Option XmlNamespace := do
  let r ← record? ["uri", "prefix"] v
  return { uri := ← r.required "uri" string?, shorthand := ← r.optional "prefix" string? }

/-- Reads the metadata. -/
def MetadataEntry.ofJson? (v : Json) : Option MetadataEntry := do
  let r ← record? ["apiVersion", "endpointPrefix", "protocol", "protocols", "serviceId",
    "serviceAbbreviation", "serviceFullName", "jsonVersion", "targetPrefix", "xmlNamespace",
    "signingName", "signatureVersion"] v
  return {
    apiVersion := ← r.required "apiVersion" string?
    endpointPrefix := ← r.required "endpointPrefix" string?
    protocol := ← r.optional "protocol" string?
    protocols := ← r.withDefault "protocols" (list? string?) []
    serviceId := ← r.optional "serviceId" string?
    serviceAbbreviation := ← r.optional "serviceAbbreviation" string?
    serviceFullName := ← r.optional "serviceFullName" string?
    jsonVersion := ← r.optional "jsonVersion" string?
    targetPrefix := ← r.optional "targetPrefix" string?
    xmlNamespace := ← r.optional "xmlNamespace" string?
    signingName := ← r.optional "signingName" string?
    signatureVersion := ← r.optional "signatureVersion" string? }

/-- Reads an HTTP binding. -/
def HttpEntry.ofJson? (v : Json) : Option HttpEntry := do
  let r ← record? ["method", "requestUri", "responseCode"] v
  let standard : HttpEntry := {}
  return {
    method := ← r.withDefault "method" string? standard.method
    requestUri := ← r.withDefault "requestUri" string? standard.requestUri
    responseCode := ← r.optional "responseCode" nat16? }

/-- Reads a reference to an output. -/
def OutputEntry.ofJson? (v : Json) : Option OutputEntry := do
  let r ← record? ["shape", "resultWrapper"] v
  return {
    shape := ← r.required "shape" string?
    resultWrapper := ← r.optional "resultWrapper" string? }

/-- Reads an operation. -/
def OperationEntry.ofJson? (v : Json) : Option OperationEntry := do
  let r ← record? ["name", "http", "input", "output", "errors", "documentation", "deprecated"] v
  return {
    name := ← r.optional "name" string?
    http := ← r.withDefault "http" HttpEntry.ofJson? {}
    input := ← r.optional "input" reference?
    output := ← r.optional "output" OutputEntry.ofJson?
    errors := ← r.withDefault "errors" (list? reference?) []
    documentation := ← r.optional "documentation" string?
    deprecated := ← r.withDefault "deprecated" bool? false }

/-- Reads a member. -/
def MemberEntry.ofJson? (v : Json) : Option MemberEntry := do
  let r ← record? ["shape", "location", "locationName", "queryName", "streaming",
    "idempotencyToken", "flattened", "xmlAttribute", "xmlNamespace", "timestampFormat",
    "documentation", "deprecated"] v
  return {
    shape := ← r.required "shape" string?
    location := ← r.optional "location" string?
    locationName := ← r.optional "locationName" string?
    queryName := ← r.optional "queryName" string?
    streaming := ← r.withDefault "streaming" bool? false
    idempotencyToken := ← r.withDefault "idempotencyToken" bool? false
    flattened := ← r.withDefault "flattened" bool? false
    xmlAttribute := ← r.withDefault "xmlAttribute" bool? false
    xmlNamespace := ← r.optional "xmlNamespace" namespace?
    timestampFormat := ← r.optional "timestampFormat" string?
    documentation := ← r.optional "documentation" string?
    deprecated := ← r.withDefault "deprecated" bool? false }

/-- Reads the data of an exception. -/
def ErrorEntry.ofJson? (v : Json) : Option ErrorEntry := do
  let r ← record? ["code", "httpStatusCode", "senderFault"] v
  return {
    code := ← r.optional "code" string?
    httpStatusCode := ← r.optional "httpStatusCode" nat16?
    senderFault := ← r.withDefault "senderFault" bool? false }

/-- Reads a shape. -/
def ShapeEntry.ofJson? (v : Json) : Option ShapeEntry := do
  let r ← record? ["type", "members", "required", "payload", "exception", "error", "document",
    "union", "member", "key", "value", "flattened", "enum", "timestampFormat", "streaming",
    "sensitive", "locationName", "xmlNamespace", "documentation", "deprecated"] v
  return {
    type := ← r.required "type" string?
    members := ← r.withDefault "members" (entries? MemberEntry.ofJson?) []
    required := ← r.withDefault "required" (list? string?) []
    payload := ← r.optional "payload" string?
    exception := ← r.withDefault "exception" bool? false
    error := ← r.optional "error" ErrorEntry.ofJson?
    document := ← r.withDefault "document" bool? false
    union := ← r.withDefault "union" bool? false
    member := ← r.optional "member" reference?
    key := ← r.optional "key" reference?
    value := ← r.optional "value" reference?
    flattened := ← r.withDefault "flattened" bool? false
    enum := ← r.withDefault "enum" (list? string?) []
    timestampFormat := ← r.optional "timestampFormat" string?
    streaming := ← r.withDefault "streaming" bool? false
    sensitive := ← r.withDefault "sensitive" bool? false
    locationName := ← r.optional "locationName" string?
    xmlNamespace := ← r.optional "xmlNamespace" namespace?
    documentation := ← r.optional "documentation" string?
    deprecated := ← r.withDefault "deprecated" bool? false }

/-- Reads a definition. -/
def ofJson? (v : Json) : Option Definition := do
  let r ← record? ["version", "metadata", "operations", "shapes", "documentation"] v
  return {
    version := ← r.optional "version" string?
    metadata := ← r.required "metadata" MetadataEntry.ofJson?
    operations := ← r.withDefault "operations" (entries? OperationEntry.ofJson?) []
    shapes := ← r.withDefault "shapes" (entries? ShapeEntry.ofJson?) []
    documentation := ← r.optional "documentation" string? }

/-- Reads the text of a definition. -/
def ofText? (text : String) : Option Definition := do
  ofJson? (← Json.ofText? text)

end Clientwright.Definition
