import Clientwright.Crate.Struct
import Clientwright.Request.Message
import Clientwright.Response.Message

/-!
# Inputs and outputs

Each selected operation has an input, and an output if the service defines one. The names of the
types and of the method on the client come from the name of the operation.
-/

namespace Clientwright.Crate

/-- Names of methods that the client has already. -/
def clientMethods : List String := ["new", "send", "transport"]

/-- The type of the input of an operation. -/
def inputType (o : Operation) : String := Naming.typeIdent o.name ++ "Input"

/-- The type of the output of an operation. -/
def outputType (o : Operation) : String := Naming.typeIdent o.name ++ "Output"

/-- The method of an operation on the client. -/
def methodName (o : Operation) : String :=
  let name := Naming.fieldIdent o.name
  if clientMethods.contains name then name ++ "_operation" else name

/-- The input of an operation as an item. -/
def inputItem (o : Operation) : Expr := .item .input (inputType o)

/-- The output of an operation as an item. -/
def outputItem (o : Operation) : Expr := .item .output (outputType o)

/-- The file of an operation's input. -/
def inputFile (b : Blueprint) (o : Operation) : Except EmissionFault Code := do
  let input := b.service.inputOf? o
  let request ← Request.method b o input
  let methods :=
    match input.bind Request.validation? with
    | some validation => Code.all [validation, .blank, request]
    | none => request
  let fields ←
    match input with
    | some s => fieldsOf b s
    | none => .ok []
  return Code.all [
    usingRuntime,
    .text ("/// Input of the `" ++ o.name ++ "` operation"),
    structCode (inputType o) fields methods]

/-- The file of an operation's output, if it has one. -/
def outputFile? (b : Blueprint) (o : Operation) : Except EmissionFault (Option Code) := do
  let some output := b.service.outputOf? o | return none
  let method ← Response.method b o output
  let fields ← fieldsOf b output
  return some <| Code.all [
    usingRuntime,
    .text ("/// Output of the `" ++ o.name ++ "` operation"),
    structCode (outputType o) fields method]

end Clientwright.Crate
