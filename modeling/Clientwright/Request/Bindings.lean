import Clientwright.Naming.Identifier
import Clientwright.Request.Text

/-!
# Members bound to headers and the query string

In the rest protocols a member may travel in a header, as a family of headers with names that begin
alike, or in the query string.
-/

namespace Clientwright.Request

/-- A statement for when a member is set; its value is then under the name `value`. -/
def whenSet (m : Member) (body : Code) : Code :=
  .ifSet "value" "self" (Naming.fieldIdent m.name) body

/-- A statement that adds a query parameter. -/
def queryParameter (key text : Expr) : Code :=
  .line (.of ["request.query_param(", key, ", ", text, ");"])

/-- A loop over the entries of the value. -/
def forEntries (body : Code) : Code :=
  .forEach (.pair "key" "item") (.of [.var "value", ".iter()"]) body

/-- A loop over the items of what a variable refers to. -/
def forItems (name : String) (body : Code) : Code :=
  .forEach "item" (.of [.var name, ".iter()"]) body

/-- The statements that send a value in the query string under a name. -/
def queryString (v : ValueShape) (name : String) (format : TimestampFormat) :
    Except EmissionFault Code :=
  let entryKey : Expr := .of [.var "key", ".clone()"]
  match v with
  | .list _ _ item => do
    let text ← textOf item "item" format
    return forItems "value" (queryParameter (.quoted name) text)
  | .map _ _ _ (.list _ _ item) => do
    let text ← textOf item "item" format
    return forEntries (forItems "item" (queryParameter entryKey text))
  | .map _ _ _ values => do
    let text ← textOf values "item" format
    return forEntries (queryParameter entryKey text)
  | v => do
    let text ← textOf v "value" format
    return queryParameter (.quoted name) text

/-- The statements that bind a member, if it is bound to a header or the query string. -/
def binding (b : Blueprint) (m : Member) : Except EmissionFault Code :=
  let v := b.value m.shape
  let format := b.memberFormat m
  match m.location with
  | .header => do
    let text ← headerOf v "value" format
    return whenSet m (.line (.of ["request.header(", .quoted m.wireName, ", ", text, ");"]))
  | .headers =>
    match v with
    | .map _ _ _ values => do
      let text ← textOf values "item" format
      return whenSet m <| forEntries <|
        .line (.of ["request.header(format!(\"\x7b\x7d\x7b\x7d\", ", .quoted m.wireName, ", ",
          .var "key", "), ", text, ");"])
    | .unknown key => .error (.unknownShape key)
    | _ => .ok .empty
  | .querystring => (queryString v m.wireName format).map (whenSet m)
  | .body | .uri | .statusCode => .ok .empty

/-- The statements that bind the members of an input. -/
def bindings (b : Blueprint) (input : StructureShape) : Except EmissionFault Code :=
  (input.members.mapM (binding b)).map Code.all

end Clientwright.Request
