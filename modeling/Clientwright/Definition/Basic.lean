import Clientwright.Service.Shape

/-!
# Service definitions

A service definition as its document gives it, every default filled in and nothing checked: the
shapes may lack parts, and references may lead nowhere. Entries keep the order of the document.
-/

namespace Clientwright

namespace Definition

/-- What the definition says about the service. -/
structure MetadataEntry where
  apiVersion : String
  endpointPrefix : String
  /-- the one protocol that older definitions name -/
  protocol : Option String
  /-- the protocols that newer definitions offer, by preference -/
  protocols : List String
  serviceId : Option String
  serviceAbbreviation : Option String
  serviceFullName : Option String
  jsonVersion : Option String
  targetPrefix : Option String
  xmlNamespace : Option String
  signingName : Option String
  signatureVersion : Option String
  deriving DecidableEq, Repr

/-- The HTTP binding of an operation. -/
structure HttpEntry where
  method : String := "POST"
  requestUri : String := "/"
  responseCode : Option Nat := none
  deriving DecidableEq, Repr

/-- Reference from an operation to its output. -/
structure OutputEntry where
  shape : String
  resultWrapper : Option String
  deriving DecidableEq, Repr

/-- An operation. -/
structure OperationEntry where
  name : Option String
  http : HttpEntry
  input : Option ShapeRef
  output : Option OutputEntry
  errors : List ShapeRef
  documentation : Option String
  deprecated : Bool
  deriving DecidableEq, Repr

/-- A member of a structure. -/
structure MemberEntry where
  shape : String
  location : Option String
  locationName : Option String
  queryName : Option String
  streaming : Bool
  idempotencyToken : Bool
  flattened : Bool
  xmlAttribute : Bool
  xmlNamespace : Option XmlNamespace
  timestampFormat : Option String
  documentation : Option String
  deprecated : Bool
  deriving DecidableEq, Repr

/-- How an exception is told from others. -/
structure ErrorEntry where
  code : Option String
  httpStatusCode : Option Nat
  senderFault : Bool
  deriving DecidableEq, Repr

/-- A shape. Its type decides which of the fields count. -/
structure ShapeEntry where
  type : String
  members : List (String × MemberEntry)
  required : List String
  payload : Option String
  exception : Bool
  error : Option ErrorEntry
  document : Bool
  union : Bool
  member : Option ShapeRef
  key : Option ShapeRef
  value : Option ShapeRef
  flattened : Bool
  enum : List String
  timestampFormat : Option String
  streaming : Bool
  sensitive : Bool
  locationName : Option String
  xmlNamespace : Option XmlNamespace
  documentation : Option String
  deprecated : Bool
  deriving DecidableEq, Repr

end Definition

open Definition in
/-- A service definition. -/
structure Definition where
  version : Option String
  metadata : MetadataEntry
  operations : List (String × OperationEntry)
  shapes : List (String × ShapeEntry)
  documentation : Option String
  deriving DecidableEq, Repr

namespace Definition

/-- The shape under a name. -/
def shape? (d : Definition) (name : String) : Option ShapeEntry := d.shapes.lookup name

/-- The identifier of the service: its id, its abbreviation or the prefix of its endpoint. -/
def MetadataEntry.id (m : MetadataEntry) : String :=
  (m.serviceId.or m.serviceAbbreviation).getD m.endpointPrefix

end Definition

end Clientwright
