import Clientwright.Blueprint.Boxes
import Clientwright.Blueprint.Names
import Clientwright.Blueprint.Usage

/-!
# Blueprints

A blueprint is a service with everything settled that its code depends on: what is generated, under
which names, and which members are boxed.
-/

namespace Clientwright

/-- A service that is ready to be generated. -/
structure Blueprint where
  service : Service
  usage : Usage
  names : List (String × TypeNames)
  boxed : List (String × String)

namespace Blueprint

/-- The blueprint of a service for a selection of operations. -/
def of (service : Service) (selection : List String) : Except SelectionFault Blueprint := do
  let usage ← Usage.analyze service selection
  return {
    service
    usage
    names := TypeNames.assign service
    boxed := service.boxedMembers }

/-- The protocol of the service. -/
def protocol (b : Blueprint) : Protocol := b.service.metadata.protocol

/-- The value of a shape. -/
def value (b : Blueprint) (shape : String) : ValueShape := b.service.value shape

/-- The type name of a shape. -/
def typeName (b : Blueprint) (shape : String) : String :=
  match b.names.lookup shape with
  | some n => n.typeName
  | none => Naming.typeIdent shape

/-- The module name of a shape. -/
def moduleName (b : Blueprint) (shape : String) : String :=
  match b.names.lookup shape with
  | some n => n.moduleName
  | none => Naming.moduleName shape

/-- Is the member of the structure boxed? -/
def isBoxed (b : Blueprint) (owner : StructureShape) (m : Member) : Bool :=
  b.boxed.contains (owner.name, m.name)

/-- The selected operations. -/
def operations (b : Blueprint) : List Operation :=
  b.usage.operations.filterMap b.service.operation?

end Blueprint

end Clientwright
