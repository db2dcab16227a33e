import Clientwright.Naming.Identifier
import Clientwright.Request.Text
import Clientwright.Source.Local

/-!
# Writing XML

A value is written as an element; a list is an element around its items, a map one around its
entries, and a flattened list or map repeats the element itself instead. Some members are
attributes of the element of their structure.
-/

namespace Clientwright.Request.XmlBody

/-- How a value is written as an element. -/
structure Element where
  name : String
  flattened : Bool := false
  xmlNamespace : Option XmlNamespace := none

/-- A statement that appends a fixed text. -/
def push (text : String) : Code := .line (.of ["out.push_str(", .quoted text, ");"])

/-- The statements between an opening and a closing tag. -/
def tagged (name : String) (inner : Code) : Code :=
  Code.all [push ("<" ++ name ++ ">"), inner, push ("</" ++ name ++ ">")]

/-- The argument for the namespace of an element. -/
def namespaceArgument : Option XmlNamespace → Expr
  | some n => .of ["Some(", .quoted n.attribute, ")"]
  | none => "None"

/-- The statements that write the value of a variable as an element. -/
def value (b : Blueprint) (v : ValueShape) (name : String) (element : Element)
    (format : TimestampFormat) (depth : Nat) : Except EmissionFault Code :=
  match v with
  | .structure _ s =>
    .ok (.line (.of [.var name, ".", .convert .writeXml s.name, "(", .quoted element.name, ", ",
      namespaceArgument (element.xmlNamespace.or s.xmlNamespace), ", out)?;"]))
  | .scalar _ _ => do
    let text ← textOf v name format
    return .line (.of ["runtime::xml_element(out, ", .quoted element.name, ", &", text, ");"])
  | .list _ l item => do
    let itemName := localName "item" depth
    let flattened := element.flattened || l.flattened
    let itemElement := if flattened then element.name else l.member.locationName.getD "member"
    let inner ← value b item itemName { name := itemElement } (b.bodyFormat item) (depth + 1)
    let loop := Code.forEach itemName (.of [.var name, ".iter()"]) inner
    return if flattened then loop else tagged element.name loop
  | .map _ m _ values => do
    let keyName := localName "key" depth
    let itemName := localName "item" depth
    let flattened := element.flattened || m.flattened
    let entry := if flattened then element.name else "entry"
    let inner ← value b values itemName { name := m.value.locationName.getD "value" }
      (b.bodyFormat values) (depth + 1)
    let key := Code.line (.of ["runtime::xml_element(out, ",
      .quoted (m.key.locationName.getD "key"), ", ", .var keyName, ");"])
    let loop := Code.forEach (.pair keyName itemName) (.of [.var name, ".iter()"]) <|
      tagged entry (key ++ inner)
    return if flattened then loop else tagged element.name loop
  | .unknown key => .error (.unknownShape key)
  | .endless key => .error (.endlessShape key)

/-- The statement that writes a member as an attribute. -/
def attributeOf (b : Blueprint) (m : Member) : Except EmissionFault Code := do
  let text ← textOf (b.value m.shape) "value" (b.memberFormat m)
  return .ifSet "value" "self" (Naming.fieldIdent m.name) <|
    .line (.of ["runtime::xml_attribute(out, ", .quoted m.wireName, ", &", text, ");"])

/-- The statement that writes a member as an element. -/
def elementOf (b : Blueprint) (m : Member) : Except EmissionFault Code := do
  let inner ← value b (b.value m.shape) "value"
    { name := m.wireName, flattened := m.flattened, xmlNamespace := m.xmlNamespace }
    (b.memberFormat m) 0
  return .ifSet "value" "self" (Naming.fieldIdent m.name) inner

/-- The statements for the members that are attributes. -/
def attributes (b : Blueprint) (l : List Member) : Except EmissionFault Code :=
  ((l.filter (·.xmlAttribute)).mapM (attributeOf b)).map Code.all

/-- The statements for the members that are elements. -/
def elements (b : Blueprint) (l : List Member) : Except EmissionFault Code :=
  ((l.filter fun m => !m.xmlAttribute).mapM (elementOf b)).map Code.all

end Clientwright.Request.XmlBody
