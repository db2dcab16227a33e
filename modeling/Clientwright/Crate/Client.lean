import Clientwright.Crate.Operations

/-!
# The client

The client has one method for each selected operation: it builds the request from the input, sends
it through a transport that the user provides, and reads the output from the response.
-/

namespace Clientwright.Crate

/-- The type of the client. -/
def clientType (s : Service) : String := Naming.pascal s.metadata.serviceId ++ "Client"

/-- The format in which the service reports errors. -/
def errorFormat (b : Blueprint) : String :=
  match b.protocol.responseEncoding with
  | .json => "Json"
  | .xml | .query => "Xml"

/-- The error codes that an operation may answer with. -/
def errorCodes (s : Service) (o : Operation) : List String :=
  o.errors.map fun name => ((s.structure? name).bind (·.errorCode)).getD name

/-- The documentation of the errors of an operation. -/
def errorDocumentation (s : Service) (o : Operation) : Code :=
  .when (!o.errors.isEmpty) <| Code.all [
    .when (isDocumented o.documentation) (.text "///"),
    .texts [
      "/// # Errors",
      "///",
      "/// Besides transport failures, the service may answer with:"],
    .texts ((errorCodes s o).map fun code => "/// * `" ++ code ++ "`")]

/-- The method of an operation. -/
def operationMethod (s : Service) (o : Operation) : Code :=
  let result : Expr := if o.output.isSome then outputItem o else "()"
  let body : Code :=
    if o.output.isSome then
      .text "let response = self.send(input.request()?)?;" ++
        .line (.of [outputItem o, "::from_response(&response)"])
    else .texts ["self.send(input.request()?)?;", "Ok(())"]
  Code.all [
    .blank,
    documented o.documentation,
    errorDocumentation s o,
    .when o.deprecated (.text "#[deprecated]"),
    .braces (.of ["pub fn ", methodName o, "(&self, input: &", inputItem o, ") -> Result<", result,
      ", runtime::Error>"]) body]

/-- The method that sends a request. -/
def sendMethod (b : Blueprint) : Code :=
  Code.all [
    .text "/// Send a request, turning error responses into [`runtime::Error::Api`]",
    .braces "fn send(&self, request: runtime::Request) -> Result<runtime::Response, runtime::Error>"
      (.text "let response = self.transport.send(request)?;" ++
        .branch "response.is_success()" (.text "Ok(response)")
          (.text ("Err(runtime::api_error(&response, runtime::ErrorFormat::" ++ errorFormat b ++
            "))")))]

/-- The file of the client. -/
def clientFile (b : Blueprint) : Code :=
  let client := clientType b.service
  let metadata := b.service.metadata
  Code.all [
    .text ("//! Client for " ++ metadata.fullName),
    .blank,
    usingRuntime,
    documented b.service.documentation,
    .when (isDocumented b.service.documentation) (.text "///"),
    .text ("/// API version `" ++ metadata.apiVersion ++ "` over the `" ++ b.protocol.name ++
      "` protocol. Requests are"),
    .text ("/// sent through the [`runtime::Transport`] given to [`" ++ client ++ "::new`]."),
    .text "#[derive(Debug, Clone)]",
    .braces (.of ["pub struct ", client, "<T>"]) (.text "pub(crate) transport: T,"),
    .blank,
    .braces (.of ["impl<T> ", client, "<T>"]) <| Code.all [
      .text "/// Create a client sending requests through `transport`",
      .braces "pub fn new(transport: T) -> Self" (.text "Self \x7b transport \x7d"),
      .blank,
      .braces "pub fn transport(&self) -> &T" (.text "&self.transport")],
    .blank,
    .braces (.of ["impl<T: runtime::Transport> ", client, "<T>"]) <|
      sendMethod b ++ Code.all (b.operations.map (operationMethod b.service))]

end Clientwright.Crate
