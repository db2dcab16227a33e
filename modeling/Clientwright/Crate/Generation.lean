import Clientwright.Crate.Enums
import Clientwright.Crate.Layout
import Clientwright.Crate.Modules
import Clientwright.Crate.Package
import Clientwright.Crate.Pages
import Clientwright.Crate.Runtime
import Clientwright.Crate.Structures
import Clientwright.Crate.Waiters
import Clientwright.Files.Action

/-!
# Generating a crate

A crate is generated as a trace: directories, files and warnings in a fixed order. The trace knows
nothing of the directory that the crate is put into, and of how files are written.
-/

namespace Clientwright

/-- A generator of one crate: a service with a selection of its operations, and options. -/
structure Generator where
  blueprint : Blueprint
  options : Options

namespace Crate

/-- What generating a crate brings forth. -/
inductive Product where
  | folder (f : Folder)
  | file (f : File) (contents : Contents)
  | warning (w : Warning)
  deriving DecidableEq, Repr

/-- The event of a product when the crate lies in some directory. -/
def Product.event (out : String) : Product → Event
  | folder f => .action (.makeDirectory (f.path out))
  | file f contents => .action (.writeFile (f.path out) contents.toText)
  | warning w => .warning w

/-- Makes a file. -/
def writeFile (f : File) (contents : Contents) : Trace Product Unit := .emit (.file f contents)

/-- Makes a file of code. -/
def writeCode (f : File) (code : Code) : Trace Product Unit := writeFile f (.code code)

/-- Code that may not exist. -/
def emitted {α : Type} (r : Except EmissionFault α) : Trace Product α :=
  .ofExcept (r.mapError .emission)

/-- The folders of every crate. -/
def folders : List Folder := [.root, .source, .area .input, .area .output, .area .types]

/-- The files of one operation; the result is the module of its input and that of its output. -/
def generateOperation (b : Blueprint) (name : String) :
    Trace Product (Module × Option Module) := do
  let some o := b.service.operation? name
    | .fail (.emission (.unknownOperation name))
  let moduleName := Naming.moduleName o.name
  let input ← emitted (inputFile b o)
  writeCode (.item .input moduleName) input
  match ← emitted (outputFile? b o) with
  | some output =>
    writeCode (.item .output moduleName) output
    return (⟨moduleName, inputType o⟩, some ⟨moduleName, outputType o⟩)
  | none => return (⟨moduleName, inputType o⟩, none)

/-- The file that declares the modules of an area. -/
def generateIndex (a : Area) (title : String) (modules : List Module) : Trace Product Unit :=
  writeCode (.index a) (moduleFile title modules)

/-- The files of the operations. -/
def generateOperations (b : Blueprint) : Trace Product Unit := do
  let modules ← b.usage.operations.mapM (generateOperation b)
  generateIndex .input "Operation inputs" (modules.map (·.1))
  generateIndex .output "Operation outputs" (modules.filterMap (·.2))

/-- The module of a shape. -/
def typeModule (b : Blueprint) (shape : String) : Module :=
  ⟨b.moduleName shape, b.typeName shape⟩

/-- The file of a structure. -/
def generateStructure (b : Blueprint) (name : String) : Trace Product Module := do
  let some s := b.service.structure? name | .fail (.emission (.notAStructure name))
  let code ← emitted (structureFile b s)
  writeCode (.item .types (b.moduleName name)) code
  return typeModule b name

/-- The file of an enumerated text. -/
def generateEnum (b : Blueprint) (name : String) : Trace Product Module := do
  let code ← emitted (enumFile b name)
  writeCode (.item .types (b.moduleName name)) code
  return typeModule b name

/-- The files of the types. -/
def generateTypes (b : Blueprint) : Trace Product Unit := do
  let structures ← b.usage.structures.mapM (generateStructure b)
  let enums ← b.usage.enums.mapM (generateEnum b)
  generateIndex .types "Structures and enums shared by inputs and outputs" <|
    (structures ++ enums).mergeSort fun m n => decide (m.name ≤ n.name)

/-- Gives warnings. -/
def warn (warnings : List Warning) : Trace Product Unit := .emitAll (warnings.map .warning)

/-- The file of the page iterators, if there are any; the result is the operations that have one. -/
def generatePages (b : Blueprint) : Trace Product (List String) := do
  warn (pagesWarnings b)
  let pages := allPages b
  if !pages.isEmpty then
    writeCode .pagination (pagesFile b (pages.map (·.2)))
  return pages.map (·.1.operation)

/-- The file of the waiters, if there are any; the result is their names. -/
def generateWaiters (b : Blueprint) : Trace Product (List String) := do
  warn (waiterWarnings b)
  let waiters := allWaiters b
  if !waiters.isEmpty then
    writeCode .waiters (waitersFile b (waiters.map (·.2)))
  return waiters.map (·.1.name)

/-- The files that make a crate out of the modules. -/
def generatePackage (p : Package) : Trace Product Unit := do
  writeCode .library p.library
  writeFile .package (.lines p.manifest)
  writeFile .readme (.lines p.readme)

/-- The whole crate. -/
def generate (b : Blueprint) (o : Options) : Trace Product Unit := do
  Trace.emitAll (folders.map .folder)
  writeFile .runtime (.text (← emitted (constantFile "runtime.rs")))
  writeCode .client (clientFile b)
  generateOperations b
  generateTypes b
  let paginators ← if o.paginators then generatePages b else pure []
  let waiters ← if o.waiters then generateWaiters b else pure []
  generatePackage (Package.of b o paginators waiters)

end Crate

namespace Generator

/-- The generator of a service's crate; the selection of operations has to fit the service. -/
def of (s : Service) (o : Options) : Except SelectionFault Generator := do
  let blueprint ← Blueprint.of s o.operations
  return { blueprint, options := o }

/-- The service. -/
def service (g : Generator) : Service := g.blueprint.service

/-- The name of the crate. -/
def crateName (g : Generator) : String := g.options.crateNameOf g.service

/-- Generates the crate into a directory. -/
def generate (g : Generator) (out : String) : Trace Event Unit :=
  (Crate.generate g.blueprint g.options).mapEvents (Crate.Product.event out)

end Generator

end Clientwright
