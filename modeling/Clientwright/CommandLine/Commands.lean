import Clientwright.CommandLine.Arguments
import Clientwright.CommandLine.Session
import Clientwright.Manifest.Reader
import Clientwright.Workspace.Basic

/-!
# Commands

Every command reads all its documents and checks all that can be checked before it makes the first
directory.
-/

namespace Clientwright.CommandLine

variable {m : Type → Type} [Monad m]

/-- Reads the service that some files describe. -/
def loadService (h : Host m) (f : ServiceFiles) : Session m Service := do
  Session.print h ["→ Parsing service definition: " ++ f.definition]
  let s ← Session.during (.loadDefinition f.definition) (Sources.ofFile h.read f.definition)
  let s :=
    match f.service with
    | some name => s.withName name
    | none => s
  let s ← Session.optionally f.paginators s fun s path =>
    Session.during (.loadPaginators path) (s.withPaginatorsFile h.read path)
  let s ← Session.optionally f.waiters s fun s path =>
    Session.during (.loadWaiters path) (s.withWaitersFile h.read path)
  Session.warned h .parseDefinition s.toService

/-- What a service consists of. -/
def summary (s : Service) : List String := [
  "",
  "✓ Parse successful!",
  "",
  "Service Information:",
  "  Name: " ++ s.name,
  "  Full name: " ++ s.metadata.fullName,
  "  API version: " ++ s.metadata.apiVersion,
  "  Protocol: " ++ s.metadata.protocol.name,
  "  Endpoint prefix: " ++ s.metadata.endpointPrefix,
  "  Operations: " ++ toString s.operations.size,
  "  Shapes: " ++ toString s.shapes.size,
  "  Paginators: " ++ toString s.paginators.size,
  "  Waiters: " ++ toString s.waiters.size]

/-- An operation in one line. -/
def operationLine (o : Operation) : String :=
  "  • " ++ o.name ++ " " ++ o.http.method ++ " " ++ o.http.requestUri ++
    if o.deprecated then " (deprecated)" else ""

/-- A paginator in one line. -/
def paginatorLine (p : Pagination) : String :=
  "  • " ++ p.operation ++ " (" ++ ", ".intercalate p.inputTokens ++ " ← " ++
    ", ".intercalate (p.outputTokens.map (·.text)) ++ ")"

/-- A waiter in one line, and the acceptors of it that are not supported. -/
def waiterLines (w : Waiter) : List String :=
  ("  • " ++ w.name ++ " on " ++ w.operation ++ " (every " ++ toString w.delay ++ "s, " ++
    toString w.maxAttempts ++ " attempts)") ::
  (w.acceptors.filterMap fun a => a.matcher.unsupported?).map fun (matcher, reason) =>
    "    ⚠ unsupported " ++ matcher ++ " acceptor: " ++ reason

/-- A list under a heading, if there is anything in it. -/
def listing (heading : String) (lines : List String) : List String :=
  if lines.isEmpty then [] else ["", heading] ++ lines

/-- What a service consists of, in more detail. -/
def details (s : Service) : List String :=
  ["", "Operations:"] ++ s.operations.values.map operationLine ++
    listing "Paginators:" (s.paginators.values.map paginatorLine) ++
    listing "Waiters:" (s.waiters.values.flatMap waiterLines)

/-- Shows what is in a service. -/
def parse (h : Host m) (f : ServiceFiles) (verbose : Bool) : Session m Unit := do
  let s ← loadService h f
  Session.print h (summary s ++ if verbose then details s else [])

/-- What would have been written: the path of each file, and how large they all are. -/
def dryRunLines (sizes : List (String × Nat)) : List String :=
  ["", "Dry run, nothing was written:"] ++ (sizes.map (·.1)).map ("  📄 " ++ ·) ++
    ["  " ++ toString ((sizes.map (·.2)).foldl (· + ·) 0) ++ " bytes total"]

/-- Generates files, or only tells which. -/
def produce (h : Host m) (task : Task) (t : Trace Event Unit) (output : String) (dryRun : Bool) :
    Session m Unit := do
  if dryRun then
    let sizes ← Session.during task (h.place.rehearse t)
    Session.print h (dryRunLines sizes)
  else
    Session.during task (h.place.run t)
  Session.print h [
    "",
    "✓ Generation complete!",
    "  " ++ toString t.files.length ++ " files in " ++ output]

/-- Generates the crate of one service. -/
def generate (h : Host m) (f : ServiceFiles) (o : Options) (output : String) (dryRun : Bool) :
    Session m Unit := do
  let s ← loadService h f
  Session.print h ["✓ Parsed " ++ toString s.operations.size ++ " operations and " ++
    toString s.shapes.size ++ " shapes from " ++ s.name]
  let g ← Session.check .createGenerator ((Generator.of s o).mapError .selection)
  Session.print h ["→ Generating crate " ++ g.crateName ++ "..."]
  produce h .generateCrate (g.generate output) output dryRun
  if !dryRun then
    Session.print h [
      "",
      "Next steps:",
      "  1. Review generated files in " ++ output,
      "  2. Build the crate: cd " ++ output ++ " && cargo build"]

/-- Reads a manifest. -/
def loadManifest (h : Host m) (path : String) : m (Except Error Manifest) := do
  match ← h.read path with
  | some text => return (Manifest.ofText text).map ({ · with directory := Files.parent path })
  | none => return .error (.unreadable .manifest path)

/-- Reads a service of a manifest. -/
def loadListed (h : Host m) (manifest : Manifest) (name : String) (e : ManifestEntry) :
    Session m Service := do
  let definition := manifest.resolve e.definition
  let s ← Session.during (.loadListed definition) (Sources.ofFile h.read definition)
  let s := s.withName (Naming.snake name)
  let s ← Session.optionally (e.paginators.map manifest.resolve) s fun s path =>
    Session.during (.loadPaginators path) (s.withPaginatorsFile h.read path)
  let s ← Session.optionally (e.waiters.map manifest.resolve) s fun s path =>
    Session.during (.loadWaiters path) (s.withWaitersFile h.read path)
  Session.warned h (.parseListed name) s.toService

/-- Reads services of a manifest, of which some number is already read. -/
def loadAll (h : Host m) (manifest : Manifest) (total done : Nat) :
    List (String × ManifestEntry) → Session m (List (Service × Options))
  | [] => return []
  | (name, e) :: rest => do
    Session.print h ["→ Parsing service " ++ toString (done + 1) ++ "/" ++ toString total ++
      ": " ++ name]
    let s ← loadListed h manifest name e
    let others ← loadAll h manifest total (done + 1) rest
    return (s, manifest.options name e) :: others

/-- Generates a workspace for the services of a manifest. -/
def generateAll (h : Host m) (path : String) (filter : Option (List String))
    (output : Option String) (dryRun : Bool) : Session m Unit := do
  Session.print h ["→ Loading manifest: " ++ path]
  let manifest ← Session.during (.loadManifest path) (loadManifest h path)
  let some output := output.or (manifest.output.map manifest.resolve) | throw .noOutput
  let selected := manifest.selected filter
  if selected.isEmpty then throw .nothingSelected
  Session.print h ["→ Generating " ++ toString selected.length ++ " of " ++
    toString manifest.services.size ++ " services"]
  let services ← loadAll h manifest selected.length 0 selected
  let w ← Session.check .createGenerator ((Workspace.of services).mapError .selection)
  Session.print h ["", "→ Generating workspace files..."]
  produce h .generateWorkspace (w.generate output) output dryRun

/-- Runs a command. -/
def run (h : Host m) (i : Invocation) : m (Except Failure Unit) :=
  match i.command with
  | .parse files => (parse h files i.verbose).run
  | .generate files options output dryRun => (generate h files options output dryRun).run
  | .generateAll manifest filter output dryRun =>
    (generateAll h manifest filter output dryRun).run

/-- How a run of the program ended. -/
inductive Outcome where
  | done
  | failed (f : Failure)
  | misused
  deriving DecidableEq, Repr

/-- The exit code. -/
def Outcome.code : Outcome → Nat
  | done => 0
  | failed _ => 1
  | misused => 2

/-- The program and its version. -/
def versionLine : String := "sdkgen 0.3.0"

/-- How the program is used. -/
def usageLine : String := "Usage: sdkgen [OPTIONS] <COMMAND>"

/-- Runs the program with arguments. -/
def start (h : Host m) (arguments : List String) : m Outcome := do
  match invocation arguments with
  | .error .version =>
    h.print versionLine
    return .done
  | .error .help =>
    h.print usageLine
    return .done
  | .error .misuse => return .misused
  | .ok i =>
    match ← run h i with
    | .ok () => return .done
    | .error f => return .failed f

end Clientwright.CommandLine
