import Clientwright.Definition.Basic
import Clientwright.Json.Basic

/-!
# Writing service definitions

The inverse of reading, with every field present.
-/

namespace Clientwright.Definition

open Json

/-- A list of texts. -/
def textList (l : List String) : Json := .array (l.map .string)

/-- Entries as an object. -/
def entriesToJson {α : Type} (f : α → Json) (l : List (String × α)) : Json :=
  .object (l.map fun (name, a) => (name, f a))

/-- A reference as JSON. -/
def referenceToJson (r : ShapeRef) : Json :=
  .object [("shape", .string r.shape), ("locationName", ofOption .string r.locationName)]

/-- A namespace as JSON. -/
def namespaceToJson (n : XmlNamespace) : Json :=
  .object [("uri", .string n.uri), ("prefix", ofOption .string n.shorthand)]

/-- The metadata as JSON. -/
def MetadataEntry.toJson (m : MetadataEntry) : Json :=
  .object [
    ("apiVersion", .string m.apiVersion),
    ("endpointPrefix", .string m.endpointPrefix),
    ("protocol", ofOption .string m.protocol),
    ("protocols", textList m.protocols),
    ("serviceId", ofOption .string m.serviceId),
    ("serviceAbbreviation", ofOption .string m.serviceAbbreviation),
    ("serviceFullName", ofOption .string m.serviceFullName),
    ("jsonVersion", ofOption .string m.jsonVersion),
    ("targetPrefix", ofOption .string m.targetPrefix),
    ("xmlNamespace", ofOption .string m.xmlNamespace),
    ("signingName", ofOption .string m.signingName),
    ("signatureVersion", ofOption .string m.signatureVersion)]

/-- The binding as JSON. -/
def HttpEntry.toJson (h : HttpEntry) : Json :=
  .object [
    ("method", .string h.method),
    ("requestUri", .string h.requestUri),
    ("responseCode", ofOption ofNat h.responseCode)]

/-- The reference as JSON. -/
def OutputEntry.toJson (o : OutputEntry) : Json :=
  .object [("shape", .string o.shape), ("resultWrapper", ofOption .string o.resultWrapper)]

/-- The operation as JSON. -/
def OperationEntry.toJson (o : OperationEntry) : Json :=
  .object [
    ("name", ofOption .string o.name),
    ("http", o.http.toJson),
    ("input", ofOption referenceToJson o.input),
    ("output", ofOption OutputEntry.toJson o.output),
    ("errors", .array (o.errors.map referenceToJson)),
    ("documentation", ofOption .string o.documentation),
    ("deprecated", .bool o.deprecated)]

/-- The member as JSON. -/
def MemberEntry.toJson (m : MemberEntry) : Json :=
  .object [
    ("shape", .string m.shape),
    ("location", ofOption .string m.location),
    ("locationName", ofOption .string m.locationName),
    ("queryName", ofOption .string m.queryName),
    ("streaming", .bool m.streaming),
    ("idempotencyToken", .bool m.idempotencyToken),
    ("flattened", .bool m.flattened),
    ("xmlAttribute", .bool m.xmlAttribute),
    ("xmlNamespace", ofOption namespaceToJson m.xmlNamespace),
    ("timestampFormat", ofOption .string m.timestampFormat),
    ("documentation", ofOption .string m.documentation),
    ("deprecated", .bool m.deprecated)]

/-- The data of an exception as JSON. -/
def ErrorEntry.toJson (e : ErrorEntry) : Json :=
  .object [
    ("code", ofOption .string e.code),
    ("httpStatusCode", ofOption ofNat e.httpStatusCode),
    ("senderFault", .bool e.senderFault)]

/-- The shape as JSON. -/
def ShapeEntry.toJson (s : ShapeEntry) : Json :=
  .object [
    ("type", .string s.type),
    ("members", entriesToJson MemberEntry.toJson s.members),
    ("required", textList s.required),
    ("payload", ofOption .string s.payload),
    ("exception", .bool s.exception),
    ("error", ofOption ErrorEntry.toJson s.error),
    ("document", .bool s.document),
    ("union", .bool s.union),
    ("member", ofOption referenceToJson s.member),
    ("key", ofOption referenceToJson s.key),
    ("value", ofOption referenceToJson s.value),
    ("flattened", .bool s.flattened),
    ("enum", textList s.enum),
    ("timestampFormat", ofOption .string s.timestampFormat),
    ("streaming", .bool s.streaming),
    ("sensitive", .bool s.sensitive),
    ("locationName", ofOption .string s.locationName),
    ("xmlNamespace", ofOption namespaceToJson s.xmlNamespace),
    ("documentation", ofOption .string s.documentation),
    ("deprecated", .bool s.deprecated)]

/-- The definition as JSON. -/
def toJson (d : Definition) : Json :=
  .object [
    ("version", ofOption .string d.version),
    ("metadata", d.metadata.toJson),
    ("operations", entriesToJson OperationEntry.toJson d.operations),
    ("shapes", entriesToJson ShapeEntry.toJson d.shapes),
    ("documentation", ofOption .string d.documentation)]

end Clientwright.Definition
