import Clientwright.Blueprint.Walk
import Clientwright.Error
import Clientwright.Service.Value

/-!
# Usage

Only what the selected operations reach is generated. A structure that is reached from an input is
written into requests, one that is reached from an output is read from responses, and each gets the
conversions that it needs. The inputs and outputs themselves count only if they are reached again
from their own members.
-/

namespace Clientwright

/-- What is generated. -/
structure Usage where
  /-- the selected operations, ascending -/
  operations : List String
  /-- the structures that are written into requests, ascending -/
  serialized : List String
  /-- the structures that are read from responses, ascending -/
  parsed : List String
  /-- the enumerated texts, ascending -/
  enums : List String
  deriving DecidableEq, Repr

namespace Service

/-- The structures in the members of a structure. -/
def heldStructures (s : Service) (t : StructureShape) : List StructureShape :=
  t.members.flatMap fun m => (s.value m.shape).structures

/-- The enumerated texts in the members of a structure. -/
def heldEnums (s : Service) (t : StructureShape) : List String :=
  t.members.flatMap fun m => (s.value m.shape).enums

/-- Every structure of the service. -/
def allStructures (s : Service) : List StructureShape :=
  s.shapes.values.filterMap fun
    | .structure t => some t
    | _ => none

/-- The walk from structures to the structures in their members. -/
def structureWalk (s : Service) : Walk StructureShape where
  mark t := t.name
  next := s.heldStructures
  marks := s.allStructures.map (·.name)

/-- The structures that a structure reaches through its members. -/
def reachedStructures (s : Service) (t : StructureShape) : List StructureShape :=
  s.structureWalk.reach (s.heldStructures t)

end Service

namespace Usage

/-- The operations that are meant by a selection; an empty one means all. -/
def selected (s : Service) (selection : List String) : Except SelectionFault (List String) :=
  if selection.isEmpty then .ok s.operations.keys
  else
    match selection.find? fun name => (s.operation? name).isNone with
    | some name => .error (.unknownOperation s.name name)
    | none => .ok (sortedNames selection)

/-- The usage of the shapes by the operations of a selection. -/
def analyze (s : Service) (selection : List String) : Except SelectionFault Usage := do
  let names ← selected s selection
  let operations := names.filterMap s.operation?
  let inputs := operations.filterMap s.inputOf?
  let outputs := operations.filterMap s.outputOf?
  let written := inputs.flatMap s.reachedStructures
  let read := outputs.flatMap s.reachedStructures
  return {
    operations := names
    serialized := sortedNames (written.map (·.name))
    parsed := sortedNames (read.map (·.name))
    enums := sortedNames ((inputs ++ outputs ++ written ++ read).flatMap s.heldEnums) }

/-- Is the operation selected? -/
def isSelected (u : Usage) (operation : String) : Bool := u.operations.contains operation

/-- Every structure that is generated as a type of its own, ascending. -/
def structures (u : Usage) : List String := sortedNames (u.serialized ++ u.parsed)

end Usage

end Clientwright
