import Clientwright.Naming.Identifier
import Clientwright.Request.Text
import Clientwright.Source.Local
import Clientwright.Text.Pieces

/-!
# Paths of requests

The path of an operation is a template with placeholders. Each placeholder becomes a label: a
variable that holds the member bound to it, which has to be set. The path is then put together from
the labels in their encoded form.
-/

namespace Clientwright.Request

/-- The input member that is bound to a placeholder. -/
def boundMember? (input : Option StructureShape) (p : Placeholder) : Option Member :=
  input.bind fun s => s.members.find? fun m => m.location = .uri && m.wireName = p.name

/-- The text with the first occurrence of a word replaced. -/
def replaceFirst (word image s : String) : String :=
  match Text.cutAtWord? word.toList s.toList with
  | some (before, after) => String.ofList before ++ image ++ String.ofList after
  | none => s

/-- The template with its placeholders replaced by the marks of a format string, one after the
other. -/
def formatTemplate (path : String) (placeholders : List Placeholder) : String :=
  placeholders.foldl (fun template p => replaceFirst p.text "\x7b\x7d" template) path

/-- A label: the statement that takes the member, and the expression of its encoded text. -/
structure Label where
  statement : Code
  argument : Expr

/-- The label of a placeholder. -/
def label (b : Blueprint) (o : Operation) (input : Option StructureShape) (index : Nat)
    (p : Placeholder) : Except EmissionFault Label := do
  let some m := boundMember? input p | .error (.noUriMember o.name p.name)
  let name := localName "label" index
  let text ← textOf (b.value m.shape) name (b.memberFormat m)
  return {
    statement := .bind name (.of ["self.", .field (Naming.fieldIdent m.name),
      ".as_ref().ok_or(runtime::Error::MissingParameter \x7b shape: ",
      .quoted ((input.map (·.name)).getD ""), ", member: ", .quoted m.name, " \x7d)?"])
    argument := .of ["runtime::uri_encode(&", text, ", ", if p.greedy then "true" else "false",
      ")"] }

/-- The labels of placeholders, numbered from some index. -/
def labels (b : Blueprint) (o : Operation) (input : Option StructureShape) :
    Nat → List Placeholder → Except EmissionFault (List Label)
  | _, [] => .ok []
  | index, p :: rest => do
    let first ← label b o input index p
    let others ← labels b o input (index + 1) rest
    return first :: others

/-- The statements for the labels of an operation, and the expression of its path. -/
def pathOf (b : Blueprint) (o : Operation) (input : Option StructureShape) :
    Except EmissionFault (Code × Expr) := do
  let placeholders := o.http.placeholders
  if placeholders.isEmpty then return (.empty, .quoted o.http.path)
  let all ← labels b o input 0 placeholders
  return (Code.all (all.map (·.statement)),
    .of ["format!(", .quoted (formatTemplate o.http.path placeholders), ", ",
      .separated ", " (all.map (·.argument)), ")"])

end Clientwright.Request
