import Clientwright.Selector.Basic
import Clientwright.Service.Http
import Clientwright.Service.Shape
import Clientwright.Table

/-!
# Services

A service as the generator sees it: metadata, operations and shapes by name, paginators by
operation, waiters by name. Everything here is plain data; what a service must satisfy to be
generated is checked when it is made from a definition.
-/

namespace Clientwright

/-- What a service says about itself. -/
structure Metadata where
  apiVersion : String
  endpointPrefix : String
  serviceId : String
  fullName : String
  protocol : Protocol
  jsonVersion : Option String
  targetPrefix : Option String
  xmlNamespace : Option String
  signingName : Option String
  signatureVersion : Option String
  deriving DecidableEq, Repr

/-- An operation. -/
structure Operation where
  name : String
  http : HttpBinding
  input : Option String
  output : Option String
  /-- the element around the output in query responses -/
  resultWrapper : Option String
  errors : List String
  documentation : Option String
  deprecated : Bool
  deriving DecidableEq, Repr

/-- How the results of an operation are paged. -/
structure Pagination where
  operation : String
  /-- input members that take the tokens of the page before -/
  inputTokens : List String
  /-- where the output holds the tokens of the next page -/
  outputTokens : List Selector
  limitKey : Option String
  resultKeys : List Selector
  moreResults : Option Selector
  deriving DecidableEq, Repr

/-- The state that an acceptor leads to. -/
inductive AcceptorState where
  | success
  | failure
  | retry
  deriving DecidableEq, Repr

namespace AcceptorState

/-- Every state. -/
def all : List AcceptorState := [.success, .failure, .retry]

/-- The state's name. -/
def variant : AcceptorState → String
  | .success => "Success"
  | .failure => "Failure"
  | .retry => "Retry"

end AcceptorState

/-- A literal that the values found by a selector are compared with. -/
inductive Expected where
  | string (s : String)
  | boolean (b : Bool)
  | number (text : String)
  deriving DecidableEq, Repr

/-- The literal as text, the form in which it is compared. -/
def Expected.text : Expected → String
  | .string s => s
  | .boolean true => "true"
  | .boolean false => "false"
  | .number t => t

/-- What an acceptor looks at. -/
inductive Matcher where
  /-- the one value is the expected one -/
  | path (argument : Selector) (expected : Expected)
  /-- there are values and all are the expected one -/
  | pathAll (argument : Selector) (expected : Expected)
  /-- some value is the expected one -/
  | pathAny (argument : Selector) (expected : Expected)
  /-- the response has the status code -/
  | status (code : Nat)
  /-- the operation failed with the error code -/
  | errorCode (code : String)
  /-- the operation failed, or it did not -/
  | anyError (failed : Bool)
  /-- something that cannot be turned into code -/
  | unsupported (matcher reason : String)
  deriving DecidableEq, Repr

/-- A rule that ends the polling, or goes on with it. -/
structure Acceptor where
  state : AcceptorState
  matcher : Matcher
  deriving DecidableEq, Repr

/-- A rule for polling an operation. -/
structure Waiter where
  name : String
  operation : String
  /-- seconds between attempts -/
  delay : Nat
  maxAttempts : Nat
  description : Option String
  acceptors : List Acceptor
  deriving DecidableEq, Repr

/-- The matcher's name and the reason why it cannot be turned into code. -/
def Matcher.unsupported? : Matcher → Option (String × String)
  | .unsupported matcher reason => some (matcher, reason)
  | _ => none

/-- Can every acceptor be turned into code? -/
def Waiter.isSupported (w : Waiter) : Bool :=
  w.acceptors.all fun a => a.matcher.unsupported?.isNone

/-- A complete service. -/
structure Service where
  /-- the name from which crate and module names are made -/
  name : String
  metadata : Metadata
  documentation : Option String
  operations : Table Operation
  shapes : Table Shape
  paginators : Table Pagination
  waiters : Table Waiter
  deriving DecidableEq, Repr

namespace Service

/-- The shape under a name. -/
def shape? (s : Service) (name : String) : Option Shape := s.shapes.get? name

/-- The structure under a name. -/
def structure? (s : Service) (name : String) : Option StructureShape :=
  match s.shape? name with
  | some (.structure t) => some t
  | _ => none

/-- The operation under a name. -/
def operation? (s : Service) (name : String) : Option Operation := s.operations.get? name

/-- The input structure of an operation. -/
def inputOf? (s : Service) (o : Operation) : Option StructureShape := o.input.bind s.structure?

/-- The output structure of an operation. -/
def outputOf? (s : Service) (o : Operation) : Option StructureShape := o.output.bind s.structure?

/-- Is there an enumerated text under the name? -/
def isEnum (s : Service) (name : String) : Bool :=
  match s.shape? name with
  | some shape => shape.isEnum
  | none => false

end Service

end Clientwright
