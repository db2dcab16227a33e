import Clientwright.Crate.Runtime.Checks
import Clientwright.Crate.Runtime.Messages
import Clientwright.Crate.Runtime.Readers
import Clientwright.Crate.Runtime.Values
import Clientwright.Error

/-!
# Support code

Generated code relies on one file of support code, which is the same in every crate. Its sections
stand with an empty line between each two of them and one at the end.
-/

namespace Clientwright.Crate

/-- The sections of the support code. -/
def runtimeSections : List (List String) := [
  Runtime.header,
  Runtime.errorType,
  Runtime.requestType,
  Runtime.responseType,
  Runtime.transportType,
  Runtime.apiErrors,
  Runtime.parameters,
  Runtime.timestamps,
  Runtime.binaries,
  Runtime.urls,
  Runtime.markup,
  Runtime.waiting,
  Runtime.textModule,
  Runtime.jsonModule,
  Runtime.xmlModule,
  Runtime.tests]

/-- The text of the support code. -/
def runtimeText : String :=
  String.join (runtimeSections.map fun lines => "\n".intercalate lines ++ "\n\n")

/-- The file of a name that is the same in every crate. -/
def constantFile (name : String) : Except EmissionFault String :=
  if name = "runtime.rs" then .ok runtimeText else .error (.unknownTemplate name)

theorem constantFile_runtime : constantFile "runtime.rs" = .ok runtimeText := if_pos rfl

end Clientwright.Crate
