import Clientwright.Response.Text
import Clientwright.Source.Local

/-!
# Reading XML

A value is an expression that reads the element that a variable refers to. Lists and maps are read
from the children of an element, and flattened ones from the elements of their own name in the
element of their structure.
-/

namespace Clientwright.Response.XmlBody

/-- The scalar in an element. -/
def scalar (b : Blueprint) (key : String) (s : ScalarShape) (name : String)
    (format : TimestampFormat) : Expr :=
  if s.isEnum then .of ["runtime::xml::string(", .var name, ")", fromText b key]
  else
    match s.kind with
    | .string => .of ["runtime::xml::string(", .var name, ")"]
    | .integer => .of ["runtime::xml::number::<i32>(", .var name, ")"]
    | .long => .of ["runtime::xml::number::<i64>(", .var name, ")"]
    | .float => .of ["runtime::xml::number::<f32>(", .var name, ")"]
    | .double => .of ["runtime::xml::number::<f64>(", .var name, ")"]
    | .boolean => .of ["runtime::xml::boolean(", .var name, ")"]
    | .timestamp => .of ["runtime::xml::timestamp(", .var name, ", ", .timestamp format, ")"]
    | .blob => .of ["runtime::xml::blob(", .var name, ")"]
    | .document => .of ["runtime::xml::string(", .var name, ").map(serde_json::Value::String)"]

/-- The entry of a map in an element; `inner` reads the value. -/
def entry (m : MapShape) (name keyName itemName : String) (inner : Expr) : Expr :=
  .of ["runtime::xml::entry(", .var name, ", ", .quoted (m.key.locationName.getD "key"), ", ",
    .quoted (m.value.locationName.getD "value"), ").and_then(",
    .closure (.pair keyName itemName) (.of [inner, ".map(",
      .closure "parsed" (.of ["(", .var keyName, ", ", .var "parsed", ")"]), ")"]), ")"]

/-- The value in an element. -/
def value (b : Blueprint) (v : ValueShape) (name : String) (format : TimestampFormat)
    (depth : Nat) : Except EmissionFault Expr :=
  match v with
  | .structure key s =>
    .ok (.of [b.typeItem key, "::", .convert .fromXml s.name, "(", .var name, ")"])
  | .scalar key s => .ok (scalar b key s name format)
  | .list _ l item => do
    let itemName := localName "item" depth
    let inner ← value b item itemName (b.bodyFormat item) (depth + 1)
    return .of ["runtime::xml::children(", .var name, ", ",
      .quoted (l.member.locationName.getD "member"), ").into_iter().map(",
      .closure itemName inner, ").collect::<Result<Vec<_>, runtime::Error>>()"]
  | .map _ m _ values => do
    let entryName := localName "entry" depth
    let keyName := localName "key" depth
    let itemName := localName "item" depth
    let inner ← value b values itemName (b.bodyFormat values) (depth + 1)
    return .of ["runtime::xml::children(", .var name, ", ", .quoted "entry",
      ").into_iter().map(", .closure entryName (entry m entryName keyName itemName inner),
      ").collect::<Result<std::collections::BTreeMap<_, _>, runtime::Error>>()"]
  | .unknown key => .error (.unknownShape key)
  | .endless key => .error (.endlessShape key)

/-- The value of a member in the element that a variable refers to. -/
def member (b : Blueprint) (owner : StructureShape) (m : Member) (node : String) :
    Except EmissionFault Expr := do
  let v := b.value m.shape
  let format := b.memberFormat m
  if m.xmlAttribute then
    let inner ← textOf b v "value" format
    return .of ["runtime::xml::attribute(", .var node, ", ", .quoted m.wireName, ").map(",
      .closure "value" inner, ").transpose()?"]
  let nested : Except EmissionFault Expr := do
    let inner ← value b v "value" format 0
    return .of ["runtime::xml::child(", .var node, ", ", .quoted m.wireName, ").map(",
      .closure "value" (.of [inner, boxing b owner m]), ").transpose()?"]
  match v with
  | .list _ l item =>
    if m.flattened || l.flattened then do
      let itemName := localName "item" 0
      let inner ← value b item itemName (b.bodyFormat item) 1
      return .of ["runtime::xml::flattened(", .var node, ", ",
        .quoted (l.member.locationName.getD m.wireName), ", ", .closure itemName inner, ")?"]
    else nested
  | .map _ t _ values =>
    if m.flattened || t.flattened then do
      let entryName := localName "entry" 0
      let keyName := localName "key" 0
      let itemName := localName "item" 0
      let inner ← value b values itemName (b.bodyFormat values) 1
      return .of ["runtime::xml::flattened(", .var node, ", ", .quoted m.wireName, ", ",
        .closure entryName (entry t entryName keyName itemName inner),
        ")?.map(|entries| entries.into_iter().collect())"]
    else nested
  | _ => nested

end Clientwright.Response.XmlBody
