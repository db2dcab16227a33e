import Clientwright.Crate.Generation

/-!
# Workspaces

A workspace holds the crates of several services, each in a directory of the crate's name, with a
manifest that lists them and a page that introduces them. Crate names have to be distinct.
-/

namespace Clientwright

/-- A generator of a workspace. -/
structure Workspace where
  crates : List Generator

namespace Workspace

/-- The generators of services whose crates are put beside each other, some names being taken. -/
def generators (taken : List String) :
    List (Service × Options) → Except SelectionFault (List Generator)
  | [] => .ok []
  | (s, o) :: rest => do
    let g ← Generator.of s o
    if taken.contains g.crateName then .error (.sharedCrateName g.crateName)
    let others ← generators (g.crateName :: taken) rest
    return g :: others

/-- The workspace of some services with their options. -/
def of (services : List (Service × Options)) : Except SelectionFault Workspace := do
  let crates ← generators [] services
  return { crates }

/-- The crates by name; those of one name would stay in their order. -/
def sorted (w : Workspace) : List Generator :=
  w.crates.mergeSort fun g h => decide (g.crateName ≤ h.crateName)

/-- The manifest of the workspace. -/
def manifest (w : Workspace) : List String :=
  ["[workspace]", "resolver = \"2\"", "members = ["] ++
  w.sorted.map (fun g => "    \"" ++ g.crateName ++ "\",") ++
  ["]"]

/-- The row of a crate in the table of crates. -/
def row (g : Generator) : String :=
  let metadata := g.service.metadata
  "| `" ++ g.crateName ++ "` | " ++ metadata.fullName ++ " | `" ++ metadata.apiVersion ++
    "` | `" ++ metadata.protocol.name ++ "` | " ++
    toString g.blueprint.usage.operations.length ++ " |"

/-- The page that introduces the workspace. -/
def readme (w : Workspace) : List String :=
  [ "# Generated service clients",
    "",
    "| Crate | Service | API version | Protocol | Operations |",
    "|-------|---------|-------------|----------|------------|"] ++
  w.sorted.map row ++
  [ "",
    "Each crate is independent; add the ones you need as path dependencies."]

/-- Makes a file of lines. -/
def writeLines (path : String) (lines : List String) : Trace Event Unit :=
  .emit (.action (.writeFile path (Contents.lines lines).toText))

/-- Generates the workspace into a directory. -/
def generate (w : Workspace) (out : String) : Trace Event Unit := do
  Trace.emit (.action (.makeDirectory out))
  writeLines (Files.join out "Cargo.toml") w.manifest
  writeLines (Files.join out "README.md") w.readme
  w.crates.forM fun g => g.generate (Files.join out g.crateName)

end Workspace

end Clientwright
