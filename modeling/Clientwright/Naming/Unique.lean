/-!
# Unique names

A name that is already taken gets a number behind it, from two upwards. Among one more candidates
than there are taken names one is free, so the search is bounded.
-/

namespace Clientwright.Naming

/-- The candidates for a name: the name itself, then the name with the numbers from two. -/
def candidate (base : String) : Nat → String
  | 0 => base
  | n + 1 => base ++ toString (n + 2)

/-- The first candidate that is not taken. -/
def unique (used : List String) (base : String) : String :=
  (((List.range (used.length + 1)).map (candidate base)).find? fun name =>
    !used.contains name).getD base

/-- Makes the names of a list unique, one after the other; some names are taken before. -/
def uniqueAll (used : List String) : List String → List String
  | [] => []
  | base :: rest =>
    let name := unique used base
    name :: uniqueAll (name :: used) rest

end Clientwright.Naming
