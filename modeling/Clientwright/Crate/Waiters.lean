import Clientwright.Blueprint.Access
import Clientwright.Crate.Client
import Clientwright.Text.Blank
import Clientwright.Warning

/-!
# Waiters

A waiter polls an operation until an acceptor ends it. The function that polls once sends the
request and then asks a list of guarded questions, one list for failed responses and one for
successful ones. A waiter whose acceptors cannot be asked is left out, with the reason.
-/

namespace Clientwright.Crate

/-- Why a waiter cannot be generated. -/
inductive WaitFault where
  | unsupported (matchers : List (String × String))
  | unknownOperation (name : String)
  | noOutput (operation : String)
  | alternatives (selector : String)
  | access (fault : AccessFault)
  | notComparable (selector : String)
  deriving DecidableEq, Repr

/-- The fault in words. -/
def WaitFault.text : WaitFault → String
  | .unsupported matchers =>
    "; ".intercalate (matchers.map fun (matcher, reason) => matcher ++ ": " ++ reason)
  | .unknownOperation name => "unknown operation " ++ name
  | .noOutput operation => operation ++ " has no output to match paths against"
  | .alternatives selector => selector ++ " has alternatives"
  | .access fault => fault.text
  | .notComparable selector => selector ++ " does not end at a comparable value"

/-- What is asked of a response. -/
inductive Question where
  | always
  /-- is the status this one? -/
  | status (code : Nat)
  /-- did the operation fail with this code? -/
  | errorCode (code : String)
  /-- is some value the expected one? -/
  | anyValue (access : Access) (expected : String)
  /-- are there values, and are all the expected one? -/
  | allValues (access : Access) (expected : String)
  deriving DecidableEq, Repr

/-- A question and the state that it leads to when the answer is yes. -/
structure Guarded where
  question : Question
  state : AcceptorState
  deriving DecidableEq, Repr

/-- What a poll asks: the first question that is answered with yes decides. If there is none, a
failed response is an error and a successful one means to try again. -/
structure Poll where
  failed : List Guarded
  succeeded : List Guarded
  deriving DecidableEq, Repr

/-- The questions asked of a failed response. -/
def failedQuestions : List Acceptor → List Guarded
  | [] => []
  | a :: rest =>
    match a.matcher with
    | .errorCode code => ⟨.errorCode code, a.state⟩ :: failedQuestions rest
    | .status code => ⟨.status code, a.state⟩ :: failedQuestions rest
    | .anyError true => [⟨.always, a.state⟩]
    | _ => failedQuestions rest

/-- The way to values that can be compared. -/
def comparable (b : Blueprint) (output : String) (s : Selector) : Except WaitFault Access :=
  match s.alternatives with
  | [steps] => do
    let access ← (Access.toValues b s.text output steps).mapError .access
    match b.service.shape? access.leaf with
    | none => .error (.access (.unknownShape access.leaf))
    | some (.scalar t) =>
      if t.kind = .blob then .error (.notComparable s.text) else return access
    | some _ => .error (.notComparable s.text)
  | _ => .error (.alternatives s.text)

/-- The questions asked of a successful response. -/
def succeededQuestions (b : Blueprint) (o : Operation) :
    List Acceptor → Except WaitFault (List Guarded)
  | [] => .ok []
  | a :: rest =>
    let ask (make : Access → Question) (s : Selector) : Except WaitFault (List Guarded) := do
      let some output := o.output | .error (.noOutput o.name)
      let access ← comparable b output s
      let others ← succeededQuestions b o rest
      return ⟨make access, a.state⟩ :: others
    match a.matcher with
    | .status code => (succeededQuestions b o rest).map (⟨.status code, a.state⟩ :: ·)
    | .anyError false => .ok [⟨.always, a.state⟩]
    | .path s expected | .pathAny s expected => ask (.anyValue · expected.text) s
    | .pathAll s expected => ask (.allValues · expected.text) s
    | _ => succeededQuestions b o rest

/-- The poll of a waiter. -/
def pollOf (b : Blueprint) (o : Operation) (w : Waiter) : Except WaitFault Poll := do
  let succeeded ← succeededQuestions b o w.acceptors
  return { failed := failedQuestions w.acceptors, succeeded }

namespace Question

/-- Does the question ask for values in the output? -/
def asksOutput : Question → Bool
  | anyValue _ _ | allValues _ _ => true
  | always | status _ | errorCode _ => false

/-- Does the question ask for an error code? -/
def asksError : Question → Bool
  | errorCode _ => true
  | always | status _ | anyValue _ _ | allValues _ _ => false

end Question

/-- The statement that ends a poll in a state. -/
def endIn (s : AcceptorState) : Code :=
  .text ("return Ok(runtime::WaiterState::" ++ s.variant ++ ");")

/-- The statement that collects the values at the end of an access. -/
def collect (name : String) (access : Access) : Code :=
  .line (.of ["let ", .var name, ": Vec<String> = ", access.valuesExpr,
    ".map(|v| v.to_string()).collect();"])

/-- The code of a question; `index` counts the collections of values. -/
def Guarded.code (g : Guarded) (index : Nat) : Code :=
  let values := localName "values" index
  match g.question with
  | .always => endIn g.state
  | .status code =>
    .braces (.plain ("if response.status == " ++ toString code)) (endIn g.state)
  | .errorCode code =>
    .braces (.of ["if error.code() == Some(", .quoted code, ")"]) (endIn g.state)
  | .anyValue access expected =>
    collect values access ++
      .braces (.of ["if ", .var values, ".iter().any(|v| v == ", .quoted expected, ")"])
        (endIn g.state)
  | .allValues access expected =>
    collect values access ++
      .braces (.of ["if !", .var values, ".is_empty() && ", .var values,
        ".iter().all(|v| v == ", .quoted expected, ")"]) (endIn g.state)

/-- The code of questions, the collections of values counted from some index. -/
def questionsCode (index : Nat) : List Guarded → Code
  | [] => .empty
  | g :: rest =>
    g.code index ++ questionsCode (if g.question.asksOutput then index + 1 else index) rest

namespace Poll

/-- Do the questions of a list decide in any case? -/
def decides (questions : List Guarded) : Bool := questions.any fun g => g.question == .always

/-- The code for failed responses. -/
def failedCode (p : Poll) (format : String) : Code :=
  let usesError := !decides p.failed || p.failed.any fun g => g.question.asksError
  .braces "if !response.is_success()" <| Code.all [
    .when usesError (.text ("let error = runtime::api_error(&response, runtime::ErrorFormat::" ++
      format ++ ");")),
    questionsCode 0 p.failed,
    .when (!decides p.failed) (.text "return Err(error);")]

/-- The code for successful responses. -/
def succeededCode (p : Poll) (o : Operation) : Code :=
  Code.all [
    .when (p.succeeded.any fun g => g.question.asksOutput) <|
      .line (.of ["let output = ", outputItem o, "::from_response(&response)?;"]),
    questionsCode 0 p.succeeded,
    .when (!decides p.succeeded) (.text "Ok(runtime::WaiterState::Retry)")]

/-- The function that polls once. -/
def code (p : Poll) (b : Blueprint) (o : Operation) (words : String) : Code :=
  .braces (.of ["fn poll_", words, "(&self, input: &", inputItem o,
      ") -> Result<runtime::WaiterState, runtime::Error>"]) <| Code.all [
    .text "let response = self.transport.send(input.request()?)?;",
    .blank,
    p.failedCode (errorFormat b),
    .blank,
    p.succeededCode o]

end Poll

/-- The documentation of a waiter. -/
def waiterDocumentation (w : Waiter) (o : Operation) : Code :=
  let first :=
    match w.description with
    | some description => Text.trimmed description
    | none => "Wait until `" ++ o.name ++ "` reports the `" ++ w.name ++ "` condition"
  .texts [
    "/// " ++ first,
    "///",
    "/// Polls every " ++ toString w.delay ++ " seconds, giving up after " ++
      toString w.maxAttempts ++ " attempts."]

/-- The methods of a waiter. -/
def waiterCode (b : Blueprint) (w : Waiter) (o : Operation) (p : Poll) : Code :=
  let words := Naming.snake w.name
  Code.all [
    waiterDocumentation w o,
    .braces (.of ["pub fn wait_until_", words, "(&self, input: &", inputItem o,
        ") -> Result<(), runtime::Error>"]) <|
      .text ("self.wait_until_" ++ words ++ "_with(input, std::time::Duration::from_secs(" ++
        toString w.delay ++ "), " ++ toString w.maxAttempts ++ ")"),
    .blank,
    .text ("/// [`Self::wait_until_" ++ words ++ "`] with a custom delay and attempt limit"),
    .braces (.of ["pub fn wait_until_", words, "_with(&self, input: &", inputItem o,
        ", delay: std::time::Duration, max_attempts: u32) -> Result<(), runtime::Error>"]) <|
      .line (.of ["runtime::wait(", .quoted w.name, ", delay, max_attempts, || self.poll_", words,
        "(input))"]),
    .blank,
    p.code b o words]

/-- The code of a waiter, or why there is none. -/
def waiterAttempt (b : Blueprint) (w : Waiter) : Except WaitFault Code := do
  let unsupported := w.acceptors.filterMap fun a => a.matcher.unsupported?
  if !unsupported.isEmpty then .error (.unsupported unsupported)
  let some o := b.service.operation? w.operation | .error (.unknownOperation w.operation)
  let p ← pollOf b o w
  return waiterCode b w o p

/-- The waiters of the selected operations, with the code of each or the reason why it has none. -/
def waiterAttempts (b : Blueprint) : List (Waiter × Except WaitFault Code) :=
  (b.service.waiters.values.filter fun w => b.usage.isSelected w.operation).map fun w =>
    (w, waiterAttempt b w)

/-- The waiters that can be generated, with their code. -/
def allWaiters (b : Blueprint) : List (Waiter × Code) :=
  (waiterAttempts b).filterMap fun (w, attempt) => attempt.toOption.map (w, ·)

/-- The warnings for those that cannot. -/
def waiterWarnings (b : Blueprint) : List Warning :=
  (waiterAttempts b).filterMap fun (w, attempt) =>
    match attempt with
    | .error fault => some (.skippedWaiter b.service.name w.name fault.text)
    | .ok _ => none

/-- The file of the waiters. -/
def waitersFile (b : Blueprint) (waiters : List Code) : Code :=
  Code.all [
    .text "//! Waiters polling an operation until it reaches a terminal state",
    .blank,
    usingRuntime,
    .braces (.of ["impl<T: runtime::Transport> crate::client::", clientType b.service, "<T>"])
      (Code.spaced waiters)]

end Clientwright.Crate
