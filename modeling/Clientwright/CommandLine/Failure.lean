import Clientwright.Error

/-!
# Failed commands

A command fails with an error while it is at some task, or because it has nothing to do.
-/

namespace Clientwright.CommandLine

/-- What a command is at. -/
inductive Task where
  | loadDefinition (path : String)
  | loadPaginators (path : String)
  | loadWaiters (path : String)
  | parseDefinition
  | createGenerator
  | generateCrate
  | loadManifest (path : String)
  | loadListed (path : String)
  | parseListed (service : String)
  | generateWorkspace
  deriving DecidableEq, Repr

/-- How the failure of a task is announced. -/
def Task.failure : Task → String
  | .loadDefinition path => "Failed to load service definition: " ++ path
  | .loadPaginators path => "Failed to load paginators: " ++ path
  | .loadWaiters path => "Failed to load waiters: " ++ path
  | .parseDefinition => "Failed to parse service definition"
  | .createGenerator => "Failed to create generator"
  | .generateCrate => "Failed to generate crate"
  | .loadManifest path => "Failed to load manifest: " ++ path
  | .loadListed path => "Failed to load " ++ path
  | .parseListed service => "Failed to parse service " ++ service
  | .generateWorkspace => "Failed to generate workspace"

/-- Why a command failed. -/
inductive Failure where
  | during (task : Task) (cause : Error)
  | noOutput
  | nothingSelected
  deriving DecidableEq, Repr

namespace Failure

/-- What went wrong. -/
def text : Failure → String
  | during task _ => task.failure
  | noOutput => "No output directory: pass --output or set `output` in the manifest"
  | nothingSelected => "No service in the manifest matches the filter"

/-- What it came from. -/
def cause? : Failure → Option Error
  | during _ cause => some cause
  | noOutput | nothingSelected => none

/-- The lines of a text. -/
def textLines (s : String) : List String :=
  (Text.splitAt (· = '\n') s.toList).map String.ofList

/-- The lines that report the failure. -/
def report (f : Failure) : List String :=
  textLines ("Error: " ++ f.text) ++
    match f.cause? with
    | some cause => ["", "Caused by:"] ++ (textLines cause.message).map ("    " ++ ·)
    | none => []

end Failure

end Clientwright.CommandLine
