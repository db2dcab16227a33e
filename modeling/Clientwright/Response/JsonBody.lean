import Clientwright.Response.Text
import Clientwright.Source.Local

/-!
# Reading JSON

A value is an expression that reads what a variable refers to and evaluates to a result. A member is
an expression that looks its name up in an object and evaluates to an option.
-/

namespace Clientwright.Response.JsonBody

/-- The scalar in a JSON value. -/
def scalar (b : Blueprint) (key : String) (s : ScalarShape) (name : String)
    (format : TimestampFormat) : Expr :=
  if s.isEnum then .of ["runtime::json::string(", .var name, ")", fromText b key]
  else
    match s.kind with
    | .string => .of ["runtime::json::string(", .var name, ")"]
    | .integer => .of ["runtime::json::integer(", .var name, ")"]
    | .long => .of ["runtime::json::long(", .var name, ")"]
    | .float => .of ["runtime::json::float(", .var name, ")"]
    | .double => .of ["runtime::json::double(", .var name, ")"]
    | .boolean => .of ["runtime::json::boolean(", .var name, ")"]
    | .timestamp => .of ["runtime::json::timestamp(", .var name, ", ", .timestamp format, ")"]
    | .blob => .of ["runtime::json::blob(", .var name, ")"]
    | .document => .of ["runtime::json::document(", .var name, ")"]

/-- The value in a JSON value. -/
def value (b : Blueprint) (v : ValueShape) (name : String) (format : TimestampFormat)
    (depth : Nat) : Except EmissionFault Expr :=
  match v with
  | .structure key s =>
    .ok (.of [b.typeItem key, "::", .convert .fromJson s.name, "(", .var name, ")"])
  | .scalar key s => .ok (scalar b key s name format)
  | .list _ _ item => do
    let itemsName := localName "items" depth
    let itemName := localName "item" depth
    let inner ← value b item itemName (b.bodyFormat item) (depth + 1)
    return .of ["runtime::json::array(", .var name, ").and_then(",
      .closure itemsName (.of [.var itemsName, ".iter().map(", .closure itemName inner,
        ").collect::<Result<Vec<_>, runtime::Error>>()"]), ")"]
  | .map _ _ _ values => do
    let entriesName := localName "entries" depth
    let keyName := localName "key" depth
    let itemName := localName "item" depth
    let inner ← value b values itemName (b.bodyFormat values) (depth + 1)
    return .of ["runtime::json::object(", .var name, ").and_then(",
      .closure entriesName (.of [.var entriesName, ".iter().filter(",
        .closure (.pair .any itemName) (.of ["!", .var itemName, ".is_null()"]), ").map(",
        .closure (.pair keyName itemName) (.of [inner, ".map(",
          .closure "parsed" (.of ["(", .var keyName, ".clone(), ", .var "parsed", ")"]), ")"]),
        ").collect::<Result<std::collections::BTreeMap<_, _>, runtime::Error>>()"]), ")"]
  | .unknown key => .error (.unknownShape key)
  | .endless key => .error (.endlessShape key)

/-- The value of a member in the object that a variable refers to. -/
def member (b : Blueprint) (owner : StructureShape) (m : Member) (object : String) :
    Except EmissionFault Expr := do
  let inner ← value b (b.value m.shape) "value" (b.memberFormat m) 0
  return .of ["runtime::json::field(", .var object, ", ", .quoted m.wireName, ").map(",
    .closure "value" (.of [inner, boxing b owner m]), ").transpose()?"]

end Clientwright.Response.JsonBody
