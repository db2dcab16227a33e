import Clientwright.Blueprint.Walk
import Clientwright.Service.Basic

/-!
# Boxed members

A structure that contains itself directly would be endlessly large. Its members that lead back to
it are boxed; lists and maps allocate anyway, so only members that are structures themselves count.
-/

namespace Clientwright.Service

/-- The members of a structure that are structures, each with the name it is referred to by. -/
def directStructures (s : Service) (t : StructureShape) : List (String × StructureShape) :=
  t.members.filterMap fun m => (s.structure? m.shape).map (m.shape, ·)

/-- The walk from structures to their members that are structures. -/
def directWalk (s : Service) : Walk (String × StructureShape) where
  mark t := t.1
  next t := s.directStructures t.2
  marks := s.shapes.keys

/-- The names of the structures that a structure leads to by direct members. -/
def directlyReached (s : Service) (t : StructureShape) : List String :=
  (s.directWalk.reach (s.directStructures t)).map (·.1)

/-- Does the member of a structure lead back to it? -/
def leadsBack (s : Service) (owner : StructureShape) (m : Member) : Bool :=
  match s.structure? m.shape with
  | some target => m.shape == owner.name || (s.directlyReached target).contains owner.name
  | none => false

/-- The boxed members, each with the name of its structure. -/
def boxedMembers (s : Service) : List (String × String) :=
  s.shapes.values.flatMap fun
    | .structure t => (t.members.filter (s.leadsBack t)).map fun m => (t.name, m.name)
    | _ => []

end Clientwright.Service
