import Clientwright.Files.Path
import Clientwright.Source.Expr

/-!
# Layout of a crate

The directories and files that a crate may consist of, and where each of them lies.
-/

namespace Clientwright.Crate

/-- A directory of a crate. -/
inductive Folder where
  | root
  | source
  | area (a : Area)
  deriving DecidableEq, Repr

/-- A file of a crate. -/
inductive File where
  | runtime
  | client
  | pagination
  | waiters
  | library
  | package
  | readme
  /-- the file of one item -/
  | item (a : Area) (moduleName : String)
  /-- the file that declares the files of an area -/
  | index (a : Area)
  deriving DecidableEq, Repr

/-- The path of a directory of the crate that lies in some directory. -/
def Folder.path (out : String) : Folder → String
  | root => out
  | source => Files.join out "src"
  | area a => Files.join (Files.join out "src") a.name

/-- The directory that a file lies in. -/
def File.folder : File → Folder
  | runtime | client | pagination | waiters | library => .source
  | package | readme => .root
  | item a _ | index a => .area a

/-- The name of a file in its directory. -/
def File.name : File → String
  | runtime => "runtime.rs"
  | client => "client.rs"
  | pagination => "pagination.rs"
  | waiters => "waiters.rs"
  | library => "lib.rs"
  | package => "Cargo.toml"
  | readme => "README.md"
  | item _ moduleName => moduleName ++ ".rs"
  | index _ => "mod.rs"

/-- The path of a file of the crate that lies in some directory. -/
def File.path (out : String) (f : File) : String := Files.join (f.folder.path out) f.name

end Clientwright.Crate
