import Clientwright.Definition.Basic
import Clientwright.Error
import Clientwright.Naming.Words
import Clientwright.Service.Basic

/-!
# From definitions to services

A definition becomes a service when all its references resolve and every shape has the parts that
its type needs. What is checked here, the generator need not check again. The first fault in the
order of the document is the one reported: metadata, then shapes, then operations.
-/

namespace Clientwright.Definition

/-- The protocol of the service: the one that is named, or the first known one that is offered. -/
def MetadataEntry.protocol? (m : MetadataEntry) : Except DefinitionFault Protocol :=
  match m.protocol.or (m.protocols.find? fun p => (Protocol.ofName? p).isSome) with
  | none => .error .noProtocol
  | some name =>
    match Protocol.ofName? name with
    | some p => .ok p
    | none => .error (.unknownProtocol name)

/-- The metadata of the service. -/
def MetadataEntry.convert (m : MetadataEntry) : Except DefinitionFault Metadata := do
  let protocol ← m.protocol?
  if protocol = .json ∧ m.targetPrefix.isNone then .error (.noTargetPrefix m.id)
  return {
    apiVersion := m.apiVersion
    endpointPrefix := m.endpointPrefix
    serviceId := m.id
    fullName := m.serviceFullName.getD m.id
    protocol
    jsonVersion := m.jsonVersion
    targetPrefix := m.targetPrefix
    xmlNamespace := m.xmlNamespace
    signingName := m.signingName
    signatureVersion := m.signatureVersion }

/-- The timestamp format that is named, if one is. -/
def timestampFormat? (owner : String) :
    Option String → Except DefinitionFault (Option TimestampFormat)
  | none => .ok none
  | some name =>
    match TimestampFormat.ofName? name with
    | some f => .ok (some f)
    | none => .error (.unknownTimestampFormat owner name)

/-- A reference that leads to a shape of the definition. -/
def resolve (d : Definition) (owner : String) (r : ShapeRef) : Except DefinitionFault ShapeRef :=
  if (d.shape? r.shape).isSome then .ok r else .error (.unknownReference owner r.shape)

/-- The member of a structure. Streaming and flattening may also be said of the shape it has. -/
def MemberEntry.convert (d : Definition) (owner : ShapeEntry) (ownerName : String)
    (entry : String × MemberEntry) : Except DefinitionFault Member := do
  let (name, m) := entry
  let some target := d.shape? m.shape | .error (.unknownMemberShape ownerName name m.shape)
  let some location := Location.ofName? m.location
    | .error (.unknownLocation ownerName name (m.location.getD ""))
  let timestampFormat ← timestampFormat? (ownerName ++ "." ++ name) m.timestampFormat
  return {
    name
    shape := m.shape
    required := owner.required.contains name
    location
    locationName := m.locationName
    queryName := m.queryName
    streaming := m.streaming || target.streaming
    idempotencyToken := m.idempotencyToken
    flattened := m.flattened || target.flattened
    xmlAttribute := m.xmlAttribute
    xmlNamespace := m.xmlNamespace
    timestampFormat
    documentation := m.documentation
    deprecated := m.deprecated }

/-- Does the shape have a member of the name? -/
def ShapeEntry.hasMember (s : ShapeEntry) (name : String) : Bool :=
  s.members.any fun m => m.1 == name

/-- The structure that a shape describes. -/
def ShapeEntry.structure? (d : Definition) (name : String) (s : ShapeEntry) :
    Except DefinitionFault StructureShape := do
  if let some member := s.required.find? fun r => !s.hasMember r then
    .error (.unknownRequired name member)
  if let some payload := s.payload.filter fun p => !s.hasMember p then
    .error (.unknownPayload name payload)
  let members ← s.members.mapM (MemberEntry.convert d s name)
  return {
    name
    members
    payload := s.payload
    exception := s.exception
    errorCode := s.error.bind (·.code)
    locationName := s.locationName
    xmlNamespace := s.xmlNamespace
    union := s.union
    documentation := s.documentation
    deprecated := s.deprecated }

/-- The list that a shape describes. -/
def ShapeEntry.list? (d : Definition) (name : String) (s : ShapeEntry) :
    Except DefinitionFault ListShape := do
  let some member := s.member | .error (.listWithoutMember name)
  let member ← resolve d name member
  return { name, member, flattened := s.flattened, documentation := s.documentation }

/-- The map that a shape describes. -/
def ShapeEntry.map? (d : Definition) (name : String) (s : ShapeEntry) :
    Except DefinitionFault MapShape := do
  let (some key, some value) := (s.key, s.value) | .error (.mapWithoutEnds name)
  let key ← resolve d name key
  let value ← resolve d name value
  return { name, key, value, flattened := s.flattened, documentation := s.documentation }

/-- The scalar that a shape of a given kind describes. -/
def ShapeEntry.scalar? (name : String) (s : ShapeEntry) (kind : ScalarKind) :
    Except DefinitionFault ScalarShape := do
  let timestampFormat ← timestampFormat? name s.timestampFormat
  return {
    name
    kind
    enumValues := s.enum
    timestampFormat
    streaming := s.streaming
    sensitive := s.sensitive
    documentation := s.documentation }

/-- The scalar for a structure whose content is any document. -/
def ShapeEntry.documentScalar (name : String) (s : ShapeEntry) : ScalarShape where
  name
  kind := .document
  enumValues := []
  timestampFormat := none
  streaming := false
  sensitive := s.sensitive
  documentation := s.documentation

/-- The shape that an entry describes. -/
def ShapeEntry.convert (d : Definition) (name : String) (s : ShapeEntry) :
    Except DefinitionFault Shape :=
  match s.type with
  | "structure" =>
    if s.document then .ok (.scalar (s.documentScalar name))
    else (s.structure? d name).map .structure
  | "list" => (s.list? d name).map .list
  | "map" => (s.map? d name).map .map
  | type =>
    match ScalarKind.ofTypeName? type with
    | some kind => (s.scalar? name kind).map .scalar
    | none => .error (.unknownType name type)

/-- The structure that an operation refers to in a role. -/
def operationStructure (shapes : Table Shape) (operation role shape : String) :
    Except DefinitionFault StructureShape :=
  match shapes.get? shape with
  | some (.structure s) => .ok s
  | some _ => .error (.notAStructure operation role shape)
  | none => .error (.unknownOperationShape operation role shape)

/-- Is the placeholder bound to a member of the input? -/
def isBound (input : Option StructureShape) (placeholder : Placeholder) : Bool :=
  input.any fun s => s.members.any fun m => m.location = .uri && m.wireName = placeholder.name

/-- Checks that the shapes of an operation exist and that its placeholders are bound. -/
def checkOperation (shapes : Table Shape) (o : Operation) : Except DefinitionFault Unit := do
  let input ← o.input.mapM (operationStructure shapes o.name "input")
  let _ ← o.output.mapM (operationStructure shapes o.name "output")
  if let some error := o.errors.find? fun e => !shapes.contains e then
    .error (.unknownErrorShape o.name error)
  if let some p := o.http.placeholders.find? fun p => !isBound input p then
    .error (.unboundPlaceholder o.name p.name)

/-- The operation that an entry describes. -/
def OperationEntry.toOperation (name : String) (o : OperationEntry) : Operation where
  name := o.name.getD name
  http := {
    method := Text.uppercased o.http.method
    requestUri := o.http.requestUri
    responseCode := o.http.responseCode }
  input := o.input.map (·.shape)
  output := o.output.map (·.shape)
  resultWrapper := o.output.bind (·.resultWrapper)
  errors := o.errors.map (·.shape)
  documentation := o.documentation
  deprecated := o.deprecated

/-- The operation that an entry describes, if it is sound. -/
def OperationEntry.convert (shapes : Table Shape) (name : String) (o : OperationEntry) :
    Except DefinitionFault Operation := do
  let operation := o.toOperation name
  checkOperation shapes operation
  return operation

/-- The name of the service unless it is given another: the words of its identifier. -/
def serviceName (d : Definition) : String :=
  Naming.snake (String.ofList (d.metadata.id.toList.filter (· ≠ ' ')))

/-- The service that a definition describes, without paginators and waiters. -/
def toService (d : Definition) (name : String) : Except DefinitionFault Service := do
  let metadata ← d.metadata.convert
  let shapes ← d.shapes.mapM fun (name, s) => (s.convert d name).map ((name, ·))
  let shapes := Table.ofList shapes
  let operations ← d.operations.mapM fun (name, o) => (o.convert shapes name).map ((name, ·))
  return {
    name
    metadata
    documentation := d.documentation
    operations := Table.ofList operations
    shapes
    paginators := .empty
    waiters := .empty }

end Clientwright.Definition
