import Clientwright.Naming.Identifier
import Clientwright.Request.Text
import Clientwright.Source.Local

/-!
# Writing JSON

A value is an expression that builds a JSON value from what a variable refers to; lists and maps
bind a variable of their own for what they hold. The members of a structure are statements that fill
an object, one for each member that is set.
-/

namespace Clientwright.Request.JsonBody

/-- The JSON of a scalar. -/
def scalar (s : ScalarShape) (name : String) (format : TimestampFormat) : Expr :=
  if s.isEnum then .of ["serde_json::Value::String(", .var name, ".as_str().to_string())"]
  else
    match s.kind with
    | .string => .of ["serde_json::Value::String(", .var name, ".clone())"]
    | .integer | .long | .float | .double => .of ["serde_json::Value::from(*", .var name, ")"]
    | .boolean => .of ["serde_json::Value::Bool(*", .var name, ")"]
    | .timestamp =>
      .of ["runtime::json::timestamp_value(", .var name, ", ", .timestamp format, ")"]
    | .blob => .of ["runtime::json::blob_value(", .var name, ")"]
    | .document => .of [.var name, ".clone()"]

/-- The JSON of a value. -/
def value (b : Blueprint) (v : ValueShape) (name : String) (format : TimestampFormat)
    (depth : Nat) : Except EmissionFault Expr :=
  match v with
  | .structure _ s => .ok (.of [.var name, ".", .convert .toJson s.name, "()?"])
  | .scalar _ s => .ok (scalar s name format)
  | .list _ _ item => do
    let itemName := localName "item" depth
    let inner ← value b item itemName (b.bodyFormat item) (depth + 1)
    return .of ["serde_json::Value::Array(", .var name, ".iter().map(",
      .closure itemName (.of ["Ok(", inner, ")"]),
      ").collect::<Result<Vec<_>, runtime::Error>>()?)"]
  | .map _ _ _ values => do
    let keyName := localName "key" depth
    let itemName := localName "item" depth
    let inner ← value b values itemName (b.bodyFormat values) (depth + 1)
    return .of ["serde_json::Value::Object(", .var name, ".iter().map(",
      .closure (.pair keyName itemName)
        (.of ["Ok((", .var keyName, ".clone(), ", inner, "))"]),
      ").collect::<Result<serde_json::Map<_, _>, runtime::Error>>()?)"]
  | .unknown key => .error (.unknownShape key)
  | .endless key => .error (.endlessShape key)

/-- The statement that puts a member into the object. -/
def member (b : Blueprint) (m : Member) : Except EmissionFault Code := do
  let inner ← value b (b.value m.shape) "value" (b.memberFormat m) 0
  return .ifSet "value" "self" (Naming.fieldIdent m.name) <|
    .line (.of ["object.insert(", .quoted m.wireName, ".to_string(), ", inner, ");"])

/-- The statements that build the object of some members. -/
def members (b : Blueprint) (l : List Member) : Except EmissionFault Code := do
  if l.isEmpty then return .text "let object = serde_json::Map::new();"
  let statements ← l.mapM (member b)
  return .text "let mut object = serde_json::Map::new();" ++ Code.all statements

end Clientwright.Request.JsonBody
