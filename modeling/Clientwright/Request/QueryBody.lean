import Clientwright.Naming.Identifier
import Clientwright.Request.Text
import Clientwright.Source.Local

/-!
# Writing form parameters

The query protocols send a flat list of parameters. The key of a parameter spells the way to its
value: members by name, items of lists and entries of maps by number from one. The ec2 protocol
spells it differently: names begin with a capital, lists have no marker and an empty one is not
sent.
-/

namespace Clientwright.Request.QueryBody

/-- The part of a key that names a member. -/
def memberKey (b : Blueprint) (m : Member) : Except EmissionFault String :=
  if b.protocol = .ec2 then
    .ok (m.queryName.getD ((m.locationName.map Text.capitalized).getD m.name))
  else
    match b.value m.shape with
    | .unknown key => .error (.unknownShape key)
    | .list _ l _ =>
      .ok (((if m.flattened || l.flattened then l.member.locationName else none)).getD m.wireName)
    | _ => .ok m.wireName

/-- The pattern of the keys of a list: the key of the list and a number. -/
def listPattern (b : Blueprint) (l : ListShape) (flattened : Bool) : String :=
  if b.protocol = .ec2 || flattened || l.flattened then "\x7b\x7d.\x7b\x7d"
  else "\x7b\x7d." ++ l.member.locationName.getD "member" ++ ".\x7b\x7d"

/-- The pattern of the keys of a map: the key of the map and a number. -/
def mapPattern (m : MapShape) (flattened : Bool) : String :=
  if flattened || m.flattened then "\x7b\x7d.\x7b\x7d" else "\x7b\x7d.entry.\x7b\x7d"

/-- A key that is made from a pattern, the key around it and a number from zero. -/
def numberedKey (pattern around index : String) : Expr :=
  .of ["format!(", .quoted pattern, ", ", .var around, ", ", .var index, " + 1)"]

/-- A key that is made from the key around it and a name. -/
def namedKey (around : Expr) (name : String) : Expr :=
  .of ["runtime::query_key(", around, ", ", .quoted name, ")"]

/-- The statements that send the value of a variable under a key. -/
def value (b : Blueprint) (v : ValueShape) (name : String) (key : Expr) (flattened : Bool)
    (format : TimestampFormat) (depth : Nat) : Except EmissionFault Code :=
  match v with
  | .structure _ s =>
    .ok (.line (.of [.var name, ".", .convert .toQuery s.name, "(&", key, ", params)?;"]))
  | .scalar _ _ => do
    let text ← textOf v name format
    return .line (.of ["params.push((", key, ", ", text, "));"])
  | .list _ l item => do
    let around := localName "prefix" depth
    let index := localName "index" depth
    let itemName := localName "item" depth
    let inner ← value b item itemName
      (numberedKey (listPattern b l flattened) around index) false (b.bodyFormat item) (depth + 1)
    return Code.all [
      .bind around key,
      .when (b.protocol ≠ .ec2) <|
        .braces (.of ["if ", .var name, ".is_empty()"]) <|
          .line (.of ["params.push((", .var around, ".clone(), String::new()));"]),
      .forEach (.pair index itemName) (.of [.var name, ".iter().enumerate()"]) inner]
  | .map _ m _ values => do
    let around := localName "prefix" depth
    let entry := localName "entry" depth
    let index := localName "index" depth
    let keyName := localName "key" depth
    let itemName := localName "item" depth
    let entryKey := Expr.of ["&", .var entry]
    let inner ← value b values itemName
      (namedKey entryKey (m.value.locationName.getD "value")) false (b.bodyFormat values)
      (depth + 1)
    return Code.all [
      .bind around key,
      .forEach (.pair index (.pair keyName itemName)) (.of [.var name, ".iter().enumerate()"]) <|
        Code.all [
          .bind entry (numberedKey (mapPattern m flattened) around index),
          .line (.of ["params.push((", namedKey entryKey (m.key.locationName.getD "key"), ", ",
            .var keyName, ".clone()));"]),
          inner]]
  | .unknown key => .error (.unknownShape key)
  | .endless key => .error (.endlessShape key)

/-- The statement that sends a member; `around` is the key of its structure. -/
def member (b : Blueprint) (around : String) (m : Member) : Except EmissionFault Code := do
  let key := namedKey around (← memberKey b m)
  let inner ← value b (b.value m.shape) "value" key m.flattened (b.memberFormat m) 0
  return .ifSet "value" "self" (Naming.fieldIdent m.name) inner

/-- The statements that send some members. -/
def members (b : Blueprint) (around : String) (l : List Member) : Except EmissionFault Code :=
  (l.mapM (member b around)).map Code.all

end Clientwright.Request.QueryBody
