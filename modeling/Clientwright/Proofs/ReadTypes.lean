import Clientwright.Proofs.ExprTypes
import Clientwright.Proofs.Layouts
import Clientwright.Response.Message

/-!
# Types of what is read

The code for a value follows the value's shape: a list is read item by item and a map
entry by entry, and each of the two has the code for its items inside it. The types of
the code follow the shape in the same way, so what holds of the code for an item is
enough to say what holds of the code for the list.

An expression is a run of words to the machine, and the phrases that the code is put
together from are typed one at a time. Such a phrase is typed below any frames that are
open, with any words to come, so that it can stand inside another one.

`Reads` is what is handed on from shape to shape: the shape has a type, and whatever the
name may be bound to, as long as it passes for what the expression was written for, the
expression makes a value of the type or the error of the support code.
-/

namespace Clientwright

open Outcome Service Typing

namespace Expr

variable {types : GeneratedTypes} {vars : Variables} {x y z path name : String} {e : Expr}
  {p q r t : Ty}

/-! ## Phrases -/

/-- The words around variables and closures: signs, methods, and the functions whose
calls hold more than a variable. -/
@[simp]
theorem read?_phrases :
    (Token.read? "(" = some [.open] ∧ Token.read? ")" = some [.close] ∧
    Token.read? ", " = some [.comma] ∧ Token.read? "!" = some [.negation] ∧
    Token.read? "::" = some [.member] ∧ Token.read? "::from)" = some [.fromText, .close] ∧
    Token.read? ";" = some [.stop]) ∧
    (Token.read? ".map(" = some [.access .map, .open] ∧
    Token.read? ").map(" = some [.close, .access .map, .open] ∧
    Token.read? ").and_then(" = some [.close, .access .andThen, .open] ∧
    Token.read? ".iter().map(" = some [.access .iter, .open, .close, .access .map, .open] ∧
    Token.read? ".iter().filter(" =
      some [.access .iter, .open, .close, .access .filter, .open] ∧
    Token.read? ").into_iter().map(" =
      some [.close, .access .intoIter, .open, .close, .access .map, .open] ∧
    Token.read? ".is_null()" = some [.access .isNull, .open, .close] ∧
    Token.read? ".clone(), " = some [.access .clone, .open, .close, .comma] ∧
    Token.read? ").transpose()?" =
      some [.close, .access .transpose, .open, .close, .question] ∧
    Token.read? ".map(Box::new)" = some [.access .map, .open, .function .box, .close]) ∧
    (Token.read? "serde_json::from_str::<serde_json::Value>(" =
      some [.function (.declared [.ref .str] (.result (.scalar .document) .failure)), .open] ∧
    Token.read? ").map_err(|e| runtime::Error::InvalidResponse(e.to_string()))" =
      some [.close, .access .mapErr, .open, .closure (.var "e"),
        .function (.declared [.scalar .string] .error), .open, .name "e", .access .toString,
        .open, .close, .close, .close] ∧
    Token.read? "runtime::text::split(" =
      some [.function (.declared [.ref .str] (.iterator (.ref .str))), .open] ∧
    Token.read? "runtime::json::array(" =
      some [.function (.declared [.ref (.scalar .document)]
        (.result (.ref (.list (.scalar .document))) .error)), .open] ∧
    Token.read? "runtime::json::object(" =
      some [.function (.declared [.ref (.scalar .document)]
        (.result (.ref .object) .error)), .open] ∧
    Token.read? "runtime::json::field(" =
      some [.function (.declared [.ref .object, .ref .str]
        (.option (.ref (.scalar .document)))), .open] ∧
    Token.read? "runtime::xml::children(" =
      some [.function (.declared [.node, .ref .str] (.list .node)), .open] ∧
    Token.read? "runtime::xml::child(" =
      some [.function (.declared [.node, .ref .str] (.option .node)), .open] ∧
    Token.read? "runtime::xml::attribute(" =
      some [.function (.declared [.node, .ref .str] (.option (.ref .str))), .open] ∧
    Token.read? "runtime::xml::entry(" =
      some [.function (.declared [.node, .ref .str, .ref .str]
        (.result (.pair (.scalar .string) .node) .error)), .open] ∧
    Token.read? ").map(serde_json::Value::String)" =
      some [.close, .access .map, .open,
        .function (.declared [.scalar .string] (.scalar .document)), .close] ∧
    Token.read? "runtime::xml::string(" =
      some [.function (.declared [.node] (.result (.scalar .string) .error)), .open] ∧
    Token.read? "runtime::xml::flattened(" = some [.function .repeated, .open]) := by
  and_intros <;> exact (Token.read?_ofList _).trans rfl

@[simp]
theorem read?_collections :
    Token.read? ").collect::<Result<Vec<_>, runtime::Error>>()" =
      some [.close, .access (.collectResult .list), .open, .close] ∧
    Token.read? ").collect::<Result<std::collections::BTreeMap<_, _>, runtime::Error>>()" =
      some [.close, .access (.collectResult .map), .open, .close] := by
  and_intros <;> exact (Token.read?_ofList _).trans rfl

/-! ## Calls -/

/-- The path of a function that takes one value, and an open bracket. -/
def Opens (path : String) (parameter result : Ty) : Prop :=
  Token.read? path = some [.function (.declared [parameter] result), .open]

/-- The same with a format behind the value. -/
def OpensFormatted (path : String) (parameter result : Ty) : Prop :=
  Token.read? path = some [.function (.declared [parameter, .format] result), .open]

theorem typed_call (hpath : Opens path p r) (hx : vars.lookup x = some q)
    (hq : q.passesAs p = true) : (of [.plain path, .var x, ")"]).Typed types vars r := by
  intro operators inClosure frames
  rw [Opens] at hpath
  simp [hpath, hx, hq]

theorem typed_formatted {format : TimestampFormat} (hpath : OpensFormatted path p r)
    (hx : vars.lookup x = some q) (hq : q.passesAs p = true) :
    (of [.plain path, .var x, ", ", .timestamp format, ")"]).Typed types vars r := by
  intro operators inClosure frames
  rw [OpensFormatted] at hpath
  simp [hpath, hx, hq]

/-- A text that becomes an enumerated one. -/
theorem typed_enumerated (hpath : Opens path p (.result (.scalar .string) .error))
    (hx : vars.lookup x = some q) (hq : q.passesAs p = true)
    (hname : name ∈ types.enums) :
    (of [.plain path, .var x, ")", of [".map(", .item .types name, "::from)"]]).Typed types vars
      (.result (.generated name) .error) := by
  intro operators inClosure frames
  rw [Opens] at hpath
  simp [hpath, hx, hq, hname]

theorem typed_fromJson (hx : vars.lookup x = some q)
    (hq : q.passesAs (.ref (.scalar .document)) = true) (hname : name ∈ types.structures)
    {owner : String} :
    (of [.item .types name, "::", .convert .fromJson owner, "(", .var x, ")"]).Typed types vars
      (.result (.generated name) .error) := by
  intro operators inClosure frames
  simp [hx, hq, hname]

theorem typed_fromXml (hx : vars.lookup x = some q) (hq : q.passesAs .node = true)
    (hname : name ∈ types.structures) {owner : String} :
    (of [.item .types name, "::", .convert .fromXml owner, "(", .var x, ")"]).Typed types vars
      (.result (.generated name) .error) := by
  intro operators inClosure frames
  simp [hx, hq, hname]

theorem typed_parsed (hx : vars.lookup x = some q) (hq : q.passesAs (.ref .str) = true) :
    (of ["serde_json::from_str::<serde_json::Value>(", .var x,
      ").map_err(|e| runtime::Error::InvalidResponse(e.to_string()))"]).Typed types vars
      (.result (.scalar .document) .error) := by
  intro operators inClosure frames
  simp [hx, hq]

theorem typed_xmlDocument (hx : vars.lookup x = some q) (hq : q.passesAs .node = true) :
    (of ["runtime::xml::string(", .var x, ").map(serde_json::Value::String)"]).Typed types vars
      (.result (.scalar .document) .error) := by
  intro operators inClosure frames
  simp [hx, hq]

/-! ## Loops -/

/-- A header that holds several texts. -/
theorem typed_split (hx : vars.lookup x = some q) (hq : q.passesAs (.ref .str) = true)
    (he : ∀ vars, vars.lookup y = some (.ref .str) → e.Typed types vars (.result t .error)) :
    (of ["runtime::text::split(", .var x, ").map(", .closure y e,
      ").collect::<Result<Vec<_>, runtime::Error>>()"]).Typed types vars
      (.result (.list t) .error) := by
  have hbody := he ((y, .ref .str) :: vars) List.lookup_cons_self
  intro operators inClosure frames
  simp only [Typed] at hbody
  simp [hx, hq, hbody]

theorem typed_array (hx : vars.lookup x = some q)
    (hq : q.passesAs (.ref (.scalar .document)) = true)
    (he : ∀ vars, vars.lookup z = some (.ref (.scalar .document)) →
      e.Typed types vars (.result t .error)) :
    (of ["runtime::json::array(", .var x, ").and_then(",
      .closure y (of [.var y, ".iter().map(", .closure z e,
        ").collect::<Result<Vec<_>, runtime::Error>>()"]), ")"]).Typed types vars
      (.result (.list t) .error) := by
  have hbody := he ((z, .ref (.scalar .document)) ::
    (y, .ref (.list (.scalar .document))) :: vars) List.lookup_cons_self
  intro operators inClosure frames
  simp only [Typed] at hbody
  simp [hx, hq, hbody]

/-- An entry is a pair of the key and what is made of the value. -/
theorem typed_entries {key : String} (hx : vars.lookup x = some q)
    (hq : q.passesAs (.ref (.scalar .document)) = true)
    (hkey : key ≠ z) (hparsed : key ≠ "parsed")
    (he : ∀ vars, vars.lookup z = some (.ref (.scalar .document)) →
      e.Typed types vars (.result t .error)) :
    (of ["runtime::json::object(", .var x, ").and_then(",
      .closure y (of [.var y, ".iter().filter(",
        .closure (.pair .any z) (of ["!", .var z, ".is_null()"]), ").map(",
        .closure (.pair key z) (of [e, ".map(",
          .closure "parsed" (of ["(", .var key, ".clone(), ", .var "parsed", ")"]), ")"]),
        ").collect::<Result<std::collections::BTreeMap<_, _>, runtime::Error>>()"]),
      ")"]).Typed types vars (.result (.map t) .error) := by
  have hz : ∀ vars : Variables, List.lookup z ((key, .ref (.scalar .string)) ::
      (z, .ref (.scalar .document)) :: vars) = some (.ref (.scalar .document)) := by
    intro vars
    rw [List.lookup_cons, beq_false_of_ne hkey.symm, List.lookup_cons_self]
  have hbody := he ((key, .ref (.scalar .string)) :: (z, .ref (.scalar .document)) ::
    (y, .ref .object) :: vars) (hz _)
  intro operators inClosure frames
  simp only [Typed] at hbody
  simp [hx, hq, hbody, List.lookup_cons, beq_false_of_ne hparsed]

/-- The entry of a map in an element. -/
theorem typed_entry {key first second : String} (hx : vars.lookup x = some q)
    (hq : q.passesAs .node = true) (hkey : key ≠ z) (hparsed : key ≠ "parsed")
    (he : ∀ vars, vars.lookup z = some .node → e.Typed types vars (.result t .error)) :
    (of ["runtime::xml::entry(", .var x, ", ", .quoted first, ", ", .quoted second,
      ").and_then(", .closure (.pair key z) (of [e, ".map(",
        .closure "parsed" (of ["(", .var key, ", ", .var "parsed", ")"]), ")"]), ")"]).Typed
      types vars (.result (.pair (.scalar .string) t) .error) := by
  have hz : List.lookup z ((key, .scalar .string) :: (z, .node) :: vars) = some .node := by
    rw [List.lookup_cons, beq_false_of_ne hkey.symm, List.lookup_cons_self]
  have hbody := he _ hz
  intro operators inClosure frames
  simp only [Typed] at hbody
  simp [hx, hq, hbody, List.lookup_cons, beq_false_of_ne hparsed]

/-- What is made of each of the children of a name. -/
theorem typed_children {element : String} {result : Ty} {collect : String} {c : Container}
    (hcollect : Token.read? collect = some [.close, .access (.collectResult c), .open, .close])
    (hresult : c.of? t = some result) (hx : vars.lookup x = some q)
    (hq : q.passesAs .node = true)
    (he : ∀ vars, vars.lookup y = some .node → e.Typed types vars (.result t .error)) :
    (of ["runtime::xml::children(", .var x, ", ", .quoted element, ").into_iter().map(",
      .closure y e, .plain collect]).Typed types vars (.result result .error) := by
  have hbody := he ((y, .node) :: vars) List.lookup_cons_self
  intro operators inClosure frames
  simp only [Typed] at hbody
  simp [hx, hq, hbody, hcollect, hresult]

end Expr

/-! ## Values -/

/-- The types that are generated for a service. -/
def Blueprint.generatedTypes (b : Blueprint) : GeneratedTypes where
  enums := (b.service.shapes.entries.filter (·.2.isEnum)).map (b.typeName ·.1)
  structures := (b.service.shapes.entries.filter (·.2.isStructure)).map (b.typeName ·.1)

/-- What the value holds are shapes of the service. -/
def ValueShape.Known (b : Blueprint) (v : ValueShape) : Prop :=
  ∀ k shape, (k, shape) ∈ v.leaves → b.service.shape? k = some shape

namespace Response

variable {b : Blueprint} {v : ValueShape} {m : Member} {t : StructureShape} {o : Operation}
  {name : String} {format : TimestampFormat} {s : ScalarShape} {k : String}

theorem mem_enums (hk : b.service.shape? k = some (.scalar s)) (h : s.isEnum = true) :
    b.typeName k ∈ b.generatedTypes.enums :=
  List.mem_map.mpr ⟨_, List.mem_filter.mpr ⟨Table.get?_eq_some_iff.mp hk, h⟩, rfl⟩

theorem mem_structures (hk : b.service.shape? k = some (.structure t)) :
    b.typeName k ∈ b.generatedTypes.structures :=
  List.mem_map.mpr ⟨_, List.mem_filter.mpr ⟨Table.get?_eq_some_iff.mp hk, rfl⟩, rfl⟩

/-- The expression reads the value out of a variable of the type. -/
def Reads (b : Blueprint) (v : ValueShape) (x : String) (source : Ty) (e : Expr) : Prop :=
  ∃ type, b.typeOf v = .ok type ∧
    ∀ vars q, vars.lookup x = some q → q.passesAs source = true →
      e.Typed b.generatedTypes vars (.result type.ty .error)

theorem scalarFromText_reads (hk : b.service.shape? k = some (.scalar s)) :
    Reads b (.scalar k s) name (.ref .str) (scalarFromText b k s name format) := by
  refine ⟨_, rfl, fun vars q hx hq => ?_⟩
  rw [scalarFromText]
  split
  next henum =>
    exact Expr.typed_enumerated ((Token.read?_ofList _).trans rfl) hx hq (mem_enums hk henum)
  next =>
    cases s.kind with
    | timestamp => exact Expr.typed_formatted ((Token.read?_ofList _).trans rfl) hx hq
    | document => exact Expr.typed_parsed hx hq
    | string | integer | long | float | double | boolean | blob =>
        exact Expr.typed_call ((Token.read?_ofList _).trans rfl) hx hq

theorem JsonBody.scalar_reads (hk : b.service.shape? k = some (.scalar s)) :
    Reads b (.scalar k s) name (.ref (.scalar .document))
      (JsonBody.scalar b k s name format) := by
  refine ⟨_, rfl, fun vars q hx hq => ?_⟩
  rw [JsonBody.scalar]
  split
  next henum =>
    exact Expr.typed_enumerated ((Token.read?_ofList _).trans rfl) hx hq (mem_enums hk henum)
  next =>
    cases s.kind with
    | timestamp => exact Expr.typed_formatted ((Token.read?_ofList _).trans rfl) hx hq
    | string | integer | long | float | double | boolean | blob | document =>
        exact Expr.typed_call ((Token.read?_ofList _).trans rfl) hx hq

/-! ## JSON -/

theorem JsonBody.value_reads {depth : Nat} (hv : v.Known b) :
    Yields (Reads b v name (.ref (.scalar .document))) (JsonBody.value b v name format depth) := by
  induction v generalizing name format depth with
  | «structure» k t =>
      have hname := mem_structures (hv k _ List.mem_cons_self)
      rw [JsonBody.value]
      exact meets_ok ⟨_, rfl, fun vars q hx hq => Expr.typed_fromJson hx hq hname⟩
  | scalar k s =>
      rw [JsonBody.value]
      exact meets_ok (JsonBody.scalar_reads (hv k _ List.mem_cons_self))
  | list k l item ih =>
      rw [JsonBody.value]
      refine meets_bind (ih hv) fun inner hinner => meets_pure ?_
      obtain ⟨type, htype, hinner⟩ := hinner
      refine ⟨_, by rw [Blueprint.typeOf, htype]; rfl, fun vars q hx hq => ?_⟩
      exact Expr.typed_array hx hq fun vars hvars => hinner vars _ hvars (by simp)
  | map k m keys values _ ih =>
      rw [JsonBody.value]
      refine meets_bind (ih fun n u h => hv n u (List.mem_append_right _ h)) fun inner hinner =>
        meets_pure ?_
      obtain ⟨type, htype, hinner⟩ := hinner
      refine ⟨_, by rw [Blueprint.typeOf, htype]; rfl, fun vars q hx hq => ?_⟩
      exact Expr.typed_entries hx hq localName_key_ne_item localName_key_ne_parsed
        fun vars hvars => hinner vars _ hvars (by simp)
  | unknown k | endless k => exact meets_error trivial

/-! ## XML -/

theorem XmlBody.scalar_reads (hk : b.service.shape? k = some (.scalar s)) :
    Reads b (.scalar k s) name .node (XmlBody.scalar b k s name format) := by
  refine ⟨_, rfl, fun vars q hx hq => ?_⟩
  rw [XmlBody.scalar]
  split
  next henum =>
    exact Expr.typed_enumerated ((Token.read?_ofList _).trans rfl) hx hq (mem_enums hk henum)
  next =>
    cases s.kind with
    | timestamp => exact Expr.typed_formatted ((Token.read?_ofList _).trans rfl) hx hq
    | document => exact Expr.typed_xmlDocument hx hq
    | string | integer | long | float | double | boolean | blob =>
        exact Expr.typed_call ((Token.read?_ofList _).trans rfl) hx hq

theorem XmlBody.value_reads {depth : Nat} (hv : v.Known b) :
    Yields (Reads b v name .node) (XmlBody.value b v name format depth) := by
  induction v generalizing name format depth with
  | «structure» k t =>
      have hname := mem_structures (hv k _ List.mem_cons_self)
      rw [XmlBody.value]
      exact meets_ok ⟨_, rfl, fun vars q hx hq => Expr.typed_fromXml hx hq hname⟩
  | scalar k s =>
      rw [XmlBody.value]
      exact meets_ok (XmlBody.scalar_reads (hv k _ List.mem_cons_self))
  | list k l item ih =>
      rw [XmlBody.value]
      refine meets_bind (ih hv) fun inner hinner => meets_pure ?_
      obtain ⟨type, htype, hinner⟩ := hinner
      refine ⟨_, by rw [Blueprint.typeOf, htype]; rfl, fun vars q hx hq => ?_⟩
      exact Expr.typed_children Expr.read?_collections.1 rfl hx hq fun vars hvars =>
        hinner vars _ hvars (by simp)
  | map k m keys values _ ih =>
      rw [XmlBody.value]
      refine meets_bind (ih fun n u h => hv n u (List.mem_append_right _ h)) fun inner hinner =>
        meets_pure ?_
      obtain ⟨type, htype, hinner⟩ := hinner
      refine ⟨_, by rw [Blueprint.typeOf, htype]; rfl, fun vars q hx hq => ?_⟩
      refine Expr.typed_children (t := .pair (.scalar .string) type.ty) Expr.read?_collections.2
        rfl hx hq fun vars hvars => ?_
      exact Expr.typed_entry hvars (by simp) localName_key_ne_item localName_key_ne_parsed
        fun vars hvars => hinner vars _ hvars (by simp)
  | unknown k | endless k => exact meets_error trivial

end Response

end Clientwright
