import Clientwright.Service.Basic
import Clientwright.Text.Pieces

/-!
# Options of a crate

What the user decides about one generated crate. Everything has a default.
-/

namespace Clientwright

/-- The version of a crate that is given none. -/
def defaultVersion : String := "0.1.0"

/-- The options of a crate. -/
structure Options where
  /-- the name of the crate, which otherwise follows from the name of the service -/
  crateName : Option String := none
  crateVersion : String := defaultVersion
  /-- the selected operations; none selects all of them -/
  operations : List String := []
  /-- are page iterators generated? -/
  paginators : Bool := true
  /-- are waiters generated? -/
  waiters : Bool := true
  deriving DecidableEq, Repr

/-- The name of the crate of a service. -/
def Options.crateNameOf (o : Options) (s : Service) : String :=
  o.crateName.getD ("aws-lite-" ++ Text.replaceChar '_' '-' s.name)

end Clientwright
