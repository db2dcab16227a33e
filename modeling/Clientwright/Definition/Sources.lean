import Clientwright.Definition.Conversion
import Clientwright.Definition.Paginators
import Clientwright.Definition.Reader
import Clientwright.Definition.Waiters

/-!
# Sources of a service

A service comes from up to three documents: its definition, its paginators and its waiters. All of
them are read before any of them is checked.
-/

namespace Clientwright

open Definition

/-- The documents of a service, read and not yet checked. -/
structure Sources where
  definition : Definition
  /-- the name to be used instead of the one in the definition -/
  givenName : Option String
  paginators : Option PaginatorDocument
  waiters : Option WaiterDocument

namespace Sources

/-- Starts with the text of a definition. -/
def ofDefinition (text : String) : Except Error Sources :=
  match Definition.ofText? text with
  | some definition => .ok { definition, givenName := none, paginators := none, waiters := none }
  | none => .error (.malformed .definition)

/-- Gives the service another name, of which the words count. -/
def withName (s : Sources) (name : String) : Sources :=
  { s with givenName := some (Naming.snake name) }

/-- Adds the text of a paginator document. -/
def withPaginators (s : Sources) (text : String) : Except Error Sources :=
  match PaginatorDocument.ofText? text with
  | some d => .ok { s with paginators := some d }
  | none => .error (.malformed .paginators)

/-- Adds the text of a waiter document. -/
def withWaiters (s : Sources) (text : String) : Except Error Sources :=
  match WaiterDocument.ofText? text with
  | some d => .ok { s with waiters := some d }
  | none => .error (.malformed .waiters)

/-- The name under which the service is made. -/
def serviceName (s : Sources) : String :=
  s.givenName.getD s.definition.serviceName

/-- The service that the documents describe. -/
def toService (s : Sources) : Trace Warning Service := do
  let service ← Trace.ofExcept ((s.definition.toService s.serviceName).mapError .definition)
  let paginators ←
    match s.paginators with
    | some d => convertPaginators service d.entries
    | none => pure service.paginators
  let service := { service with paginators }
  match s.waiters with
  | some d => do
    let waiters ← Trace.ofExcept ((d.convert service).mapError .waiters)
    return { service with waiters }
  | none => return service

end Sources

end Clientwright
