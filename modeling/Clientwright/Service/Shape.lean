import Clientwright.Service.Protocol

/-!
# Shapes

A shape is a named type of a service: a structure of members, a list, a map or a scalar. Shapes
refer to each other by name, and the references may run in circles.
-/

namespace Clientwright

/-- The namespace of an XML element. -/
structure XmlNamespace where
  uri : String
  shorthand : Option String
  deriving DecidableEq, Repr

/-- The attribute that declares the namespace. -/
def XmlNamespace.attribute (n : XmlNamespace) : String :=
  match n.shorthand with
  | some a => "xmlns:" ++ a ++ "=\"" ++ n.uri ++ "\""
  | none => "xmlns=\"" ++ n.uri ++ "\""

/-- Reference from a list or map to the shape of its elements. -/
structure ShapeRef where
  shape : String
  locationName : Option String
  deriving DecidableEq, Repr

/-- A member of a structure. -/
structure Member where
  name : String
  shape : String
  required : Bool
  location : Location
  locationName : Option String
  /-- the name that replaces all others in queries of the ec2 protocol -/
  queryName : Option String
  streaming : Bool
  idempotencyToken : Bool
  flattened : Bool
  xmlAttribute : Bool
  xmlNamespace : Option XmlNamespace
  timestampFormat : Option TimestampFormat
  documentation : Option String
  deprecated : Bool
  deriving DecidableEq, Repr

/-- The name on the wire: the location name if there is one. -/
def Member.wireName (m : Member) : String :=
  m.locationName.getD m.name

/-- A structure. -/
structure StructureShape where
  name : String
  /-- members in the order of the definition -/
  members : List Member
  /-- the member that is the whole body -/
  payload : Option String
  exception : Bool
  errorCode : Option String
  locationName : Option String
  xmlNamespace : Option XmlNamespace
  union : Bool
  documentation : Option String
  deprecated : Bool
  deriving DecidableEq, Repr

namespace StructureShape

/-- The first member of the name. -/
def member? (s : StructureShape) (name : String) : Option Member :=
  s.members.find? fun m => m.name == name

/-- The member that is the whole body. -/
def payloadMember? (s : StructureShape) : Option Member :=
  s.payload.bind s.member?

/-- The members that travel in the body. -/
def bodyMembers (s : StructureShape) : List Member :=
  s.members.filter fun m => m.location == .body

end StructureShape

/-- A list. -/
structure ListShape where
  name : String
  member : ShapeRef
  flattened : Bool
  documentation : Option String
  deriving DecidableEq, Repr

/-- A map; its keys are written as text whatever their shape. -/
structure MapShape where
  name : String
  key : ShapeRef
  value : ShapeRef
  flattened : Bool
  documentation : Option String
  deriving DecidableEq, Repr

/-- The kinds of scalars. -/
inductive ScalarKind where
  | string
  | integer
  | long
  | float
  | double
  | boolean
  | timestamp
  | blob
  | document
  deriving DecidableEq, Repr, Inhabited

namespace ScalarKind

/-- Every kind. -/
def all : List ScalarKind :=
  [.string, .integer, .long, .float, .double, .boolean, .timestamp, .blob, .document]

/-- The kind's name in a stored service. -/
def name : ScalarKind → String
  | .string => "string"
  | .integer => "integer"
  | .long => "long"
  | .float => "float"
  | .double => "double"
  | .boolean => "boolean"
  | .timestamp => "timestamp"
  | .blob => "blob"
  | .document => "document"

/-- The kind that the type of a defined shape stands for. -/
def ofTypeName? : String → Option ScalarKind
  | "string" => some .string
  | "byte" | "short" | "integer" => some .integer
  | "long" => some .long
  | "float" => some .float
  | "double" => some .double
  | "boolean" => some .boolean
  | "timestamp" => some .timestamp
  | "blob" => some .blob
  | _ => none

end ScalarKind

/-- A scalar. -/
structure ScalarShape where
  name : String
  kind : ScalarKind
  enumValues : List String
  timestampFormat : Option TimestampFormat
  streaming : Bool
  sensitive : Bool
  documentation : Option String
  deriving DecidableEq, Repr

/-- Is the scalar a text with a list of known values? -/
def ScalarShape.isEnum (s : ScalarShape) : Bool :=
  s.kind == .string && !s.enumValues.isEmpty

/-- A named type of a service. -/
inductive Shape where
  | structure (s : StructureShape)
  | list (l : ListShape)
  | map (m : MapShape)
  | scalar (s : ScalarShape)
  deriving DecidableEq, Repr

namespace Shape

/-- The shape's name. -/
def name : Shape → String
  | .structure s => s.name
  | .list l => l.name
  | .map m => m.name
  | .scalar s => s.name

/-- The shape's documentation. -/
def documentation : Shape → Option String
  | .structure s => s.documentation
  | .list l => l.documentation
  | .map m => m.documentation
  | .scalar s => s.documentation

/-- Is the shape a text with a list of known values? -/
def isEnum : Shape → Bool
  | .scalar s => s.isEnum
  | _ => false

/-- Is the shape a structure? -/
def isStructure : Shape → Bool
  | .structure _ => true
  | _ => false

end Shape

end Clientwright
