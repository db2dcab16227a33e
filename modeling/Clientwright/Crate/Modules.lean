import Clientwright.Source.Code

/-!
# Modules

A module that holds one item a file declares the files and exports the items.
-/

namespace Clientwright.Crate

/-- A file of a module and the item that it holds. -/
structure Module where
  name : String
  item : String
  deriving DecidableEq, Repr

/-- The file that declares a module's files. -/
def moduleFile (title : String) (modules : List Module) : Code :=
  Code.all [
    .text ("//! " ++ title),
    .blank,
    .texts (modules.map fun m => "mod " ++ m.name ++ ";"),
    .blank,
    .texts (modules.map fun m => "pub use " ++ m.name ++ "::" ++ m.item ++ ";")]

end Clientwright.Crate
