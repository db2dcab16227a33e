import Clientwright.Crate.Options
import Clientwright.Files.Path
import Clientwright.Naming.Words
import Clientwright.Table

/-!
# Manifests

A manifest lists services with the files that describe them, and what their crates are called. Paths
in it are relative to the directory that holds it.
-/

namespace Clientwright

/-- A service of a manifest. -/
structure ManifestEntry where
  definition : String
  paginators : Option String
  waiters : Option String
  /-- the selected operations; none selects all of them -/
  operations : List String
  crateName : Option String
  deriving DecidableEq, Repr

/-- A manifest. -/
structure Manifest where
  version : Nat
  /-- what the names of crates begin with -/
  cratePrefix : String
  crateVersion : String
  output : Option String
  services : Table ManifestEntry
  /-- the directory that the manifest lies in -/
  directory : String
  deriving DecidableEq, Repr

namespace Manifest

/-- The version of manifests that is understood. -/
def supportedVersion : Nat := 1

/-- What the names of crates begin with when the manifest does not say. -/
def defaultPrefix : String := "aws-lite"

/-- A path of the manifest as seen from the working directory. -/
def resolve (m : Manifest) (path : String) : String := Files.join m.directory path

/-- The name of the crate of a service, listed or not. -/
def crateName (m : Manifest) (service : String) : String :=
  ((m.services.get? service).bind (·.crateName)).getD
    (m.cratePrefix ++ "-" ++ Text.replaceChar '_' '-' (Naming.snake service))

/-- Does the text contain the word? -/
def containsWord (text word : String) : Bool :=
  (Text.cutAtWord? word.toList text.toList).isSome

/-- Does a service pass a filter? It does if its name contains a word of the filter, in upper or
lower case. -/
def passes (filter : List String) (service : String) : Bool :=
  let name := Text.lowercased service
  filter.any fun word => containsWord name (Text.lowercased word)

/-- The services that pass the filter, if there is one. -/
def selected (m : Manifest) (filter : Option (List String)) : List (String × ManifestEntry) :=
  match filter with
  | some words => m.services.entries.filter fun (name, _) => passes words name
  | none => m.services.entries

/-- The options of a service's crate. -/
def options (m : Manifest) (service : String) (entry : ManifestEntry) : Options where
  crateName := some (m.crateName service)
  crateVersion := m.crateVersion
  operations := entry.operations

end Manifest

end Clientwright
