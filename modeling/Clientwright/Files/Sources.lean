import Clientwright.Definition.Sources

/-!
# Sources in files

The documents of a service are read from files, in whatever world these are.
-/

namespace Clientwright.Sources

variable {m : Type → Type} [Monad m]

/-- Reads a document from a file. -/
def readDocument {α : Type} (read : String → m (Option String)) (document : Document)
    (path : String) (parse : String → Except Error α) : m (Except Error α) := do
  match ← read path with
  | some text => return parse text
  | none => return .error (.unreadable document path)

/-- Starts with a definition in a file. -/
def ofFile (read : String → m (Option String)) (path : String) : m (Except Error Sources) :=
  readDocument read .definition path ofDefinition

/-- Adds a paginator document in a file. -/
def withPaginatorsFile (read : String → m (Option String)) (s : Sources) (path : String) :
    m (Except Error Sources) :=
  readDocument read .paginators path s.withPaginators

/-- Adds a waiter document in a file. -/
def withWaitersFile (read : String → m (Option String)) (s : Sources) (path : String) :
    m (Except Error Sources) :=
  readDocument read .waiters path s.withWaiters

/-- The documents of a service, all of them in files. -/
def ofFiles (read : String → m (Option String)) (definition : String)
    (paginators waiters : Option String) : m (Except Error Sources) := ExceptT.run do
  let s ← ExceptT.mk (ofFile read definition)
  let s ←
    match paginators with
    | some path => ExceptT.mk (withPaginatorsFile read s path)
    | none => pure s
  match waiters with
  | some path => ExceptT.mk (withWaitersFile read s path)
  | none => pure s

end Clientwright.Sources
