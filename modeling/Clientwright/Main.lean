import Clientwright.CommandLine.Commands

/-!
# The program

The host that works on the real files, and the program that runs commands on it.
-/

namespace Clientwright.CommandLine

/-- The value of an action, unless it fails. -/
def attempt {α : Type} (action : IO α) : IO (Option α) := do
  match ← action.toBaseIO with
  | .ok a => return some a
  | .error _ => return none

/-- The real files as a place for generated ones. -/
def realPlace : Place IO where
  act
    | .makeDirectory path => do
      if path.isEmpty then return .ok ()
      match ← attempt (IO.FS.createDirAll path) with
      | some () => return .ok ()
      | none => return .error (.directory path)
    | .writeFile path text => do
      match ← attempt (IO.FS.writeFile path text) with
      | some () => return .ok ()
      | none => return .error (.file path)
  warn w := do
    let fields := w.fields.map fun (name, value) => name ++ "=" ++ value
    IO.eprintln (" ".intercalate ("WARN" :: fields))

/-- The real world. -/
def realHost : Host IO where
  read path := attempt (IO.FS.readFile path)
  print line := IO.println line
  place := realPlace

end Clientwright.CommandLine

open Clientwright.CommandLine in
/-- Runs the program. -/
def main (arguments : List String) : IO UInt32 := do
  let outcome ← start realHost arguments
  match outcome with
  | .done => pure ()
  | .failed f => f.report.forM fun line => IO.eprintln line
  | .misused => IO.eprintln usageLine
  return outcome.code.toUInt32
