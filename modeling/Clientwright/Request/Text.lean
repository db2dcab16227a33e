import Clientwright.Blueprint.Timestamps
import Clientwright.Error
import Clientwright.Source.Code

/-!
# Values written as text

Headers, labels of a path, query parameters and the text of XML elements hold scalars as text. A
header may also hold a list of scalars, separated by commas.
-/

namespace Clientwright.Request

/-- The text of a scalar that a variable refers to. -/
def scalarText (kind : ScalarKind) (name : String) (format : TimestampFormat) : Expr :=
  match kind with
  | .timestamp =>
    .of ["runtime::format_timestamp(", .var name, ", ", .timestamp format, ")"]
  | .blob => .of ["runtime::base64_encode(", .var name, ")"]
  | _ => .of [.var name, ".to_string()"]

/-- The text of the value that a variable refers to, which has to be a scalar. -/
def textOf (v : ValueShape) (name : String) (format : TimestampFormat) :
    Except EmissionFault Expr :=
  match v with
  | .scalar _ s => .ok (scalarText s.kind name format)
  | .unknown key => .error (.unknownShape key)
  | _ => .error (.notWritableAsText v.key)

/-- The text of a header for the value that a variable refers to. -/
def headerOf (v : ValueShape) (name : String) (format : TimestampFormat) :
    Except EmissionFault Expr :=
  match v with
  | .list _ _ item => do
    let item ← textOf item "item" format
    return .of [.var name, ".iter().map(", .closure "item" item,
      ").collect::<Vec<_>>().join(\",\")"]
  | .scalar _ _ | .unknown _ => textOf v name format
  | _ => .error (.notBindableToHeader v.key)

end Clientwright.Request
