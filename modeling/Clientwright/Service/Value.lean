import Clientwright.Service.Basic

/-!
# Values

The shape of a value, with the lists and maps in it unfolded down to scalars and structures. A
structure is a leaf here, since code refers to it by name; so the unfolding is finite unless lists
and maps contain themselves with no structure in between, and such a shape is cut where it repeats.
-/

namespace Clientwright

/-- The shape of a value; each node keeps the name by which it was referred to. -/
inductive ValueShape where
  | structure (key : String) (shape : StructureShape)
  | scalar (key : String) (shape : ScalarShape)
  | list (key : String) (shape : ListShape) (item : ValueShape)
  | map (key : String) (shape : MapShape) (keys values : ValueShape)
  /-- there is no shape of the name -/
  | unknown (key : String)
  /-- the list or map is already being unfolded -/
  | endless (key : String)
  deriving Repr

namespace ValueShape

/-- The name by which the shape was referred to. -/
def key : ValueShape → String
  | .structure k _ | .scalar k _ | .list k _ _ | .map k _ _ _ | .unknown k | .endless k => k

/-- The structures in a value, outside other structures. -/
def structures : ValueShape → List StructureShape
  | .structure _ s => [s]
  | .list _ _ item => item.structures
  | .map _ _ keys values => keys.structures ++ values.structures
  | .scalar _ _ | .unknown _ | .endless _ => []

/-- The names of the enumerated texts in a value, outside structures. -/
def enums : ValueShape → List String
  | .scalar _ s => if s.isEnum then [s.name] else []
  | .list _ _ item => item.enums
  | .map _ _ keys values => keys.enums ++ values.enums
  | .structure _ _ | .unknown _ | .endless _ => []

end ValueShape

namespace Service

/-- The value of a shape, using only the names that are still available. -/
def valueWithin (s : Service) (available : List String) (key : String) : ValueShape :=
  match s.shape? key with
  | none => .unknown key
  | some (.structure t) => .structure key t
  | some (.scalar t) => .scalar key t
  | some (.list l) =>
    if key ∈ available then .list key l (s.valueWithin (available.erase key) l.member.shape)
    else .endless key
  | some (.map m) =>
    if key ∈ available then
      .map key m (s.valueWithin (available.erase key) m.key.shape)
        (s.valueWithin (available.erase key) m.value.shape)
    else .endless key
termination_by available.length
decreasing_by
  all_goals
    have := List.length_pos_of_mem (by assumption : key ∈ available)
    rw [List.length_erase_of_mem (by assumption : key ∈ available)]
    omega

/-- The value of a shape. -/
def value (s : Service) (key : String) : ValueShape := s.valueWithin s.shapes.keys key

end Service

end Clientwright
