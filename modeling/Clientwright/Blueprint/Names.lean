import Clientwright.Naming.Identifier
import Clientwright.Naming.Unique
import Clientwright.Service.Basic

/-!
# Names of generated types

Every structure and every enumerated text of a service gets a type name and a module name of its
own. Names are given in the order of the shapes, so they do not depend on what is selected.
-/

namespace Clientwright

/-- The names of a generated type. -/
structure TypeNames where
  typeName : String
  /-- also the stem of the file -/
  moduleName : String
  deriving DecidableEq, Repr

namespace TypeNames

/-- Type names that every generated module already knows with another meaning. -/
def preludeNames : List String :=
  ["Box", "Err", "None", "Ok", "Option", "Result", "Self", "Some", "String", "Vec"]

/-- The type name that is wanted for a shape. -/
def wantedTypeName (shape : String) : String :=
  let name := Naming.typeIdent shape
  if preludeNames.contains name then name ++ "Value" else name

/-- Is the shape generated as a type of its own? -/
def isGenerated (s : Shape) : Bool := s.isStructure || s.isEnum

/-- The shapes that are generated, by ascending name. -/
def generatedShapes (s : Service) : List String :=
  (s.shapes.entries.filter fun e => isGenerated e.2).map (·.1)

/-- The names of all generated types, by shape. -/
def assign (s : Service) : List (String × TypeNames) :=
  let shapes := generatedShapes s
  let typeNames := Naming.uniqueAll [] (shapes.map wantedTypeName)
  let moduleNames := Naming.uniqueAll [] (shapes.map Naming.moduleName)
  shapes.zip (List.zipWith TypeNames.mk typeNames moduleNames)

end TypeNames

end Clientwright
