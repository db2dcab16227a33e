import Clientwright.Blueprint.Timestamps
import Clientwright.Blueprint.Types
import Clientwright.Error
import Clientwright.Source.Code

/-!
# Values read from text

Headers and XML attributes hold scalars as text; a header may also hold a list of scalars. An
expression here evaluates to a result, since the text may not be what it should be.
-/

namespace Clientwright.Response

/-- Makes an enumerated text out of a text. -/
def fromText (b : Blueprint) (key : String) : Expr :=
  .of [".map(", b.typeItem key, "::from)"]

/-- The scalar in the text that a variable refers to. -/
def scalarFromText (b : Blueprint) (key : String) (s : ScalarShape) (name : String)
    (format : TimestampFormat) : Expr :=
  if s.isEnum then .of ["runtime::text::string(", .var name, ")", fromText b key]
  else
    match s.kind with
    | .string => .of ["runtime::text::string(", .var name, ")"]
    | .integer => .of ["runtime::text::number::<i32>(", .var name, ")"]
    | .long => .of ["runtime::text::number::<i64>(", .var name, ")"]
    | .float => .of ["runtime::text::number::<f32>(", .var name, ")"]
    | .double => .of ["runtime::text::number::<f64>(", .var name, ")"]
    | .boolean => .of ["runtime::text::boolean(", .var name, ")"]
    | .timestamp => .of ["runtime::text::timestamp(", .var name, ", ", .timestamp format, ")"]
    | .blob => .of ["runtime::text::blob(", .var name, ")"]
    | .document =>
      .of ["serde_json::from_str::<serde_json::Value>(", .var name,
        ").map_err(|e| runtime::Error::InvalidResponse(e.to_string()))"]

/-- The value in the text that a variable refers to, which has to be a scalar. -/
def textOf (b : Blueprint) (v : ValueShape) (name : String) (format : TimestampFormat) :
    Except EmissionFault Expr :=
  match v with
  | .scalar key s => .ok (scalarFromText b key s name format)
  | .unknown key => .error (.unknownShape key)
  | _ => .error (.notReadableFromText v.key)

/-- The value of the header that a variable refers to. -/
def headerOf (b : Blueprint) (v : ValueShape) (name : String) (format : TimestampFormat) :
    Except EmissionFault Expr :=
  match v with
  | .list _ _ item => do
    let item ← textOf b item "item" format
    return .of ["runtime::text::split(", .var name, ").map(", .closure "item" item,
      ").collect::<Result<Vec<_>, runtime::Error>>()"]
  | _ => textOf b v name format

/-- What a member adds to the value that was read for it. -/
def boxing (b : Blueprint) (owner : StructureShape) (m : Member) : Expr :=
  if b.isBoxed owner m then ".map(Box::new)" else .empty

end Clientwright.Response
