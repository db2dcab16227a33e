import Clientwright.Error
import Clientwright.Json.Reader
import Clientwright.Json.Record
import Clientwright.Json.Writer
import Clientwright.Service.Basic

/-!
# Waiter documents

A waiter document says how to poll an operation until it has reached a state. What an acceptor
compares with may be any JSON value; a comparison outside the supported language is kept as
unsupported, with the reason, and an acceptor that makes no sense is an error.
-/

namespace Clientwright.Definition

open Json

/-- An acceptor. -/
structure AcceptorEntry where
  state : String
  matcher : String
  argument : Option String
  expected : Json

/-- A waiter. -/
structure WaiterEntry where
  operation : String
  delay : Nat
  maxAttempts : Nat
  description : Option String
  acceptors : List AcceptorEntry

/-- A waiter document. -/
structure WaiterDocument where
  version : Nat
  entries : List (String × WaiterEntry)

/-- The version of waiter documents that is understood. -/
def waiterVersion : Nat := 2

/-- How deeply the expected value of an acceptor may nest arrays and objects: it stands five deep
in the document. -/
def maxExpectedDepth : Nat := maxDepth - 5

/-- Reads an expected value. -/
def expected? (v : Json) : Option Json :=
  if v.isSound && v.depth ≤ maxExpectedDepth then some v.canonical else none

/-- Reads an acceptor. -/
def AcceptorEntry.ofJson? (v : Json) : Option AcceptorEntry := do
  let r ← record? ["state", "matcher", "argument", "expected"] v
  return {
    state := ← r.required "state" string?
    matcher := ← r.required "matcher" string?
    argument := ← r.optional "argument" string?
    expected := ← r.withDefault "expected" expected? .null }

/-- Reads a waiter. -/
def WaiterEntry.ofJson? (v : Json) : Option WaiterEntry := do
  let r ← record? ["operation", "delay", "maxAttempts", "description", "acceptors"] v
  return {
    operation := ← r.required "operation" string?
    delay := ← r.required "delay" nat32?
    maxAttempts := ← r.required "maxAttempts" nat32?
    description := ← r.optional "description" string?
    acceptors := ← r.withDefault "acceptors" (list? AcceptorEntry.ofJson?) [] }

/-- Reads the text of a waiter document. -/
def WaiterDocument.ofText? (text : String) : Option WaiterDocument := do
  let r ← record? ["version", "waiters"] (← Json.ofText? text)
  return {
    version := ← r.required "version" nat32?
    entries := ← r.withDefault "waiters" (entries? WaiterEntry.ofJson?) [] }

namespace AcceptorEntry

/-- The state that an acceptor names. -/
def state? (waiter : String) (a : AcceptorEntry) : Except WaiterFault AcceptorState :=
  match a.state with
  | "success" => .ok .success
  | "failure" => .ok .failure
  | "retry" => .ok .retry
  | other => .error (.unknownState waiter other)

/-- The literal that a value can be compared with. -/
def literal? : Json → Option Expected
  | .string s => some (.string s)
  | .bool b => some (.boolean b)
  | .number n => n.text?.map .number
  | _ => none

/-- The comparison that an acceptor with a path describes. -/
def comparison (a : AcceptorEntry) (argument : String) : Matcher :=
  match Selector.parse argument with
  | .error e => .unsupported a.matcher (e.message ++ " (" ++ argument ++ ")")
  | .ok selector =>
    if 1 < selector.alternatives.length then
      .unsupported a.matcher ("alternatives are not supported (" ++ selector.text ++ ")")
    else
      match literal? a.expected with
      | none => .unsupported a.matcher ("cannot compare against " ++ a.expected.text)
      | some expected =>
        match a.matcher with
        | "path" =>
          if selector.hasProjection then
            .unsupported a.matcher ("path matcher over a projection (" ++ selector.text ++ ")")
          else .path selector expected
        | "pathAll" => .pathAll selector expected
        | _ => .pathAny selector expected

/-- The matcher that an acceptor describes. -/
def matcher? (waiter : String) (a : AcceptorEntry) : Except WaiterFault Matcher :=
  match a.matcher with
  | "path" | "pathAll" | "pathAny" =>
    match a.argument with
    | some argument => .ok (a.comparison argument)
    | none => .error (.noArgument waiter a.matcher)
  | "status" =>
    match nat16? a.expected with
    | some code => .ok (.status code)
    | none => .error (.statusNotNumeric waiter)
  | "error" =>
    match a.expected with
    | .string code => .ok (.errorCode code)
    | .bool failed => .ok (.anyError failed)
    | other => .error (.unexpectedErrorValue waiter other.text)
  | other => .ok (.unsupported other "unknown matcher")

/-- The acceptor that an entry describes. -/
def convert (waiter : String) (a : AcceptorEntry) : Except WaiterFault Acceptor := do
  let state ← a.state? waiter
  let matcher ← a.matcher? waiter
  return { state, matcher }

end AcceptorEntry

/-- The waiter that an entry describes. -/
def WaiterEntry.convert (service : Service) (name : String) (w : WaiterEntry) :
    Except WaiterFault Waiter := do
  if (service.operation? w.operation).isNone then .error (.unknownOperation name w.operation)
  let acceptors ← w.acceptors.mapM (AcceptorEntry.convert name)
  return {
    name
    operation := w.operation
    delay := w.delay
    maxAttempts := w.maxAttempts
    description := w.description
    acceptors }

/-- The waiters of a document, by name. -/
def WaiterDocument.convert (service : Service) (d : WaiterDocument) :
    Except WaiterFault (Table Waiter) := do
  if d.version ≠ waiterVersion then .error (.unsupportedVersion d.version waiterVersion)
  let waiters ← d.entries.mapM fun (name, w) => (w.convert service name).map ((name, ·))
  return Table.ofList waiters

end Clientwright.Definition
