import Clientwright.Blueprint.Basic
import Clientwright.Source.Expr

/-!
# Types of values

The type that a value has in the generated code. A structure or an enumerated text has a type of
its own in the module for types, and every other value has a type of the language.
-/

namespace Clientwright

/-- The type of a value. -/
inductive ValueType where
  | scalar (kind : ScalarKind)
  /-- a type of the generated module for types -/
  | generated (name : String)
  | list (item : ValueType)
  | map (value : ValueType)
  | boxed (inner : ValueType)
  deriving DecidableEq, Repr

/-- The type of the language that holds a scalar of the kind. -/
def ScalarKind.typeText : ScalarKind → String
  | .string => "String"
  | .integer => "i32"
  | .long => "i64"
  | .float => "f32"
  | .double => "f64"
  | .boolean => "bool"
  | .timestamp => "chrono::DateTime<chrono::Utc>"
  | .blob => "Vec<u8>"
  | .document => "serde_json::Value"

namespace ValueType

/-- The type as code. -/
def expr : ValueType → Expr
  | .scalar kind => .plain kind.typeText
  | .generated name => .item .types name
  | .list item => .of ["Vec<", item.expr, ">"]
  | .map value => .of ["std::collections::BTreeMap<String, ", value.expr, ">"]
  | .boxed inner => .of ["Box<", inner.expr, ">"]

/-- The type as it is written. -/
def text (t : ValueType) : String := t.expr.text

end ValueType

namespace Blueprint

/-- The type of a generated shape. -/
def typeItem (b : Blueprint) (shape : String) : Expr := .item .types (b.typeName shape)

/-- The path of the type of a shape. -/
def typePath (b : Blueprint) (shape : String) : String := (b.typeItem shape).text

/-- The type of a value. -/
def typeOf (b : Blueprint) : ValueShape → Except EmissionFault ValueType
  | .structure key _ => .ok (.generated (b.typeName key))
  | .scalar key s => .ok (if s.isEnum then .generated (b.typeName key) else .scalar s.kind)
  | .list _ _ item => (b.typeOf item).map .list
  | .map _ _ _ value => (b.typeOf value).map .map
  | .unknown key => .error (.unknownShape key)
  | .endless key => .error (.endlessShape key)

/-- The type of the values of a shape. -/
def shapeType (b : Blueprint) (shape : String) : Except EmissionFault ValueType :=
  b.typeOf (b.value shape)

/-- The type of a member, without the option around it. -/
def memberType (b : Blueprint) (owner : StructureShape) (m : Member) :
    Except EmissionFault ValueType :=
  (b.shapeType m.shape).map fun t => if b.isBoxed owner m then .boxed t else t

end Blueprint

end Clientwright
