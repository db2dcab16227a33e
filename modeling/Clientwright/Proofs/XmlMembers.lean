import Clientwright.Proofs.XmlLayouts

/-!
# Which XML is read as it is written

A member is an attribute or an element, and what is below an element has a layout
for the walk that writes it and one for the walk that reads it. The member is
read as it is written if these are the same.

They are not always. The flag of a list or map counts for the walk that writes
wherever the shape is used. The walk that reads heeds it at members only: there
a wrapper is expected around what is held by another list or map. And where the
items of a flattened list have a name of their own, they are looked up under it
and written under the one of the member. `ReadsBack` is what is left when these
are set aside, and the theorem is that it is exactly what reads back.
-/

namespace Clientwright

open Relation Outcome

/-! ## Members -/

theorem XmlLayout.Written.ne_attribute {layout : XmlLayout} {x : String} {c : Code}
    {pieces : List Expr} (h : layout.Written x c) :
    c ≠ .line (.of ("runtime::xml_attribute(out, " :: pieces)) := by
  intro hc
  cases h with
  | text h => simp [h] at hc
  | «structure» h => simp [h] at hc
  | list _ h => exact XmlLayout.enclosed_forEach_ne_line (h.symm.trans hc)
  | map _ _ h => exact XmlLayout.enclosed_forEach_ne_line (h.symm.trans hc)

theorem Code.ifSet_inj {name receiver ident : String} {body body' : Code}
    (h : Code.ifSet name receiver ident body = Code.ifSet name receiver ident body') :
    body = body' := by
  rw [Code.ifSet, Code.ifSet, Code.block.injEq] at h
  exact h.2.2.1

namespace XmlField

variable {b : Blueprint} {field : XmlField} {ident node name y z k : String} {inner e : Expr}

theorem written_attr_iff {text : XmlText} :
    field.Written ident (.ifSet "value" "self" ident (.line (.of
      ["runtime::xml_attribute(out, ", .quoted name, ", &", text.written "value", ");"]))) ↔
        field = .attr name text := by
  refine ⟨fun h => ?_, fun h => h ▸ .attr rfl⟩
  cases h with
  | attr h =>
      have hline := Code.ifSet_inj h
      simp only [Code.line.injEq, Expr.of_cons_eq_of_cons, Expr.quoted.injEq] at hline
      rw [hline.2.1, XmlText.written_inj hline.2.2.2.1]
  | element hlayout h => exact absurd (Code.ifSet_inj h).symm hlayout.ne_attribute

theorem written_element_iff {layout : XmlLayout} {inner : Code}
    (h : layout.Written "value" inner) :
    field.Written ident (.ifSet "value" "self" ident inner) ↔
      ∃ layout', field = .element layout' ∧ layout'.Written "value" inner := by
  constructor
  · intro hfield
    cases hfield with
    | attr h' => exact absurd (Code.ifSet_inj h') h.ne_attribute
    | element hlayout h' =>
        obtain rfl := Code.ifSet_inj h'
        exact ⟨_, rfl, hlayout⟩
  · rintro ⟨layout', rfl, hlayout⟩
    exact .element hlayout rfl

theorem read_attr_iff :
    field.Read b node (.of ["runtime::xml::attribute(", .var node, ", ", .quoted name,
      ").map(", .closure (.var "value") inner, ").transpose()?"]) ↔
        ∃ text, field = .attr name text ∧ text.Read .ofAttribute "value" inner := by
  constructor
  · intro h
    cases h with
    | attr htext h =>
        simp only [Expr.of_cons_eq_of_cons, Expr.quoted.injEq, Expr.closure.injEq] at h
        obtain ⟨-, -, -, rfl, -, ⟨-, rfl⟩, -⟩ := h
        exact ⟨_, rfl, htext⟩
    | child _ _ h => simp at h
    | items _ _ h => simp at h
    | entries _ _ _ h => simp at h
  · rintro ⟨text, rfl, htext⟩
    exact .attr htext rfl

theorem read_child_iff {box : Expr} :
    field.Read b node (.of ["runtime::xml::child(", .var node, ", ", .quoted name, ").map(",
      .closure (.var "value") (.of [inner, box]), ").transpose()?"]) ↔
        ∃ layout, field = .element layout ∧ layout.Read b "value" inner ∧
          layout.name? = some name := by
  constructor
  · intro h
    cases h with
    | attr _ h => simp at h
    | child hname hlayout h =>
        simp only [Expr.of_cons_eq_of_cons, Expr.quoted.injEq, Expr.closure.injEq] at h
        obtain ⟨-, -, -, rfl, -, ⟨-, rfl, -⟩, -⟩ := h
        exact ⟨_, rfl, hlayout, hname⟩
    | items _ _ h => simp at h
    | entries _ _ _ h => simp at h
  · rintro ⟨layout, rfl, hlayout, hname⟩
    exact .child hname hlayout rfl

theorem read_items_iff :
    field.Read b node (.of ["runtime::xml::flattened(", .var node, ", ", .quoted name, ", ",
      .closure (.var y) inner, ")?"]) ↔
        ∃ item, field = .element (.list none item) ∧ item.Read b y inner ∧
          item.name? = some name := by
  constructor
  · intro h
    cases h with
    | attr _ h => simp at h
    | child _ _ h => simp at h
    | items hname hitem h =>
        simp only [Expr.of_cons_eq_of_cons, Expr.quoted.injEq, Expr.closure.injEq,
          Pattern.var.injEq] at h
        obtain ⟨-, -, -, rfl, -, ⟨rfl, rfl⟩, -⟩ := h
        exact ⟨_, rfl, hitem, hname⟩
    | entries _ _ _ h => simp at h
  · rintro ⟨item, rfl, hitem, hname⟩
    exact .items hname hitem rfl

theorem read_entries_iff {entry key parsed : String} (hk : k ≠ y ∧ k ≠ parsed) :
    field.Read b node (.of ["runtime::xml::flattened(", .var node, ", ", .quoted entry, ", ",
      .closure (.var z) (XmlLayout.entryRead z key name k y parsed inner),
      ")?.map(|entries| entries.into_iter().collect())"]) ↔
        ∃ value, field = .element (.map none entry key value) ∧ value.Read b y inner ∧
          value.name? = some name := by
  constructor
  · intro h
    cases h with
    | attr _ h => simp at h
    | child _ _ h => simp at h
    | items _ _ h => simp at h
    | entries _ hname hvalue h =>
        simp only [Expr.of_cons_eq_of_cons, Expr.quoted.injEq, Expr.closure.injEq] at h
        obtain ⟨-, -, -, rfl, -, ⟨-, hentry⟩, -⟩ := h
        obtain ⟨rfl, rfl, rfl, rfl⟩ := XmlLayout.entryRead_inj hentry
        exact ⟨_, rfl, hvalue, hname⟩
  · rintro ⟨value, rfl, hvalue, hname⟩
    exact .entries hk hname hvalue rfl

end XmlField

namespace Blueprint

/-- The text of a member that is an attribute. -/
def attributeText (b : Blueprint) (m : Member) : XmlText :=
  match b.value m.shape with
  | .scalar _ t => .of t.kind (b.memberFormat m)
  -- There is no code for an attribute of any other shape.
  | _ => .plain

/-- The field that a member is written as. -/
def writtenField (b : Blueprint) (m : Member) : XmlField :=
  if m.xmlAttribute then .attr m.wireName (b.attributeText m)
  else .element (b.writtenLayout m.wireName m.flattened (b.memberFormat m) (b.value m.shape))

/-- The layout in which a member with a value of the shape is read. -/
def readMember (b : Blueprint) (m : Member) (v : ValueShape) : XmlLayout :=
  match v with
  | .list _ l item =>
    if m.flattened || l.flattened then
      .list none (b.readLayout (l.member.locationName.getD m.wireName) (b.bodyFormat item) item)
    else b.readLayout m.wireName (b.memberFormat m) v
  | .map _ t _ values =>
    if m.flattened || t.flattened then
      .map none m.wireName (t.key.locationName.getD "key")
        (b.readLayout (t.value.locationName.getD "value") (b.bodyFormat values) values)
    else b.readLayout m.wireName (b.memberFormat m) v
  | _ => b.readLayout m.wireName (b.memberFormat m) v

/-- The field that a member is read from. -/
def readField (b : Blueprint) (m : Member) : XmlField :=
  if m.xmlAttribute then .attr m.wireName (b.attributeText m)
  else .element (b.readMember m (b.value m.shape))

end Blueprint

/-- The statement that writes a member, as an attribute or as an element. -/
def Request.XmlBody.memberOf (b : Blueprint) (m : Member) : Except EmissionFault Code :=
  if m.xmlAttribute then attributeOf b m else elementOf b m

namespace Blueprint

variable {b : Blueprint} {m : Member} {t : StructureShape} {field : XmlField} {c : Code}
  {node : String} {e : Expr}

theorem attributeText_of_scalar {k : String} {s : ScalarShape}
    (h : b.value m.shape = .scalar k s) :
    b.attributeText m = .of s.kind (b.memberFormat m) := by
  rw [attributeText, h]

theorem written_memberOf_iff (h : Request.XmlBody.memberOf b m = .ok c) :
    field.Written (Naming.fieldIdent m.name) c ↔ field = b.writtenField m := by
  rw [Request.XmlBody.memberOf] at h
  rw [writtenField]
  split at h
  next hattr =>
    rw [if_pos hattr]
    obtain ⟨text, htext, h⟩ := bind_eq_ok.mp h
    obtain rfl := pure_eq_ok.mp h
    cases hv : b.value m.shape with
    | scalar k s =>
        rw [hv] at htext
        obtain rfl := Except.ok.inj htext
        rw [Request.scalarText_eq, attributeText_of_scalar hv]
        exact XmlField.written_attr_iff
    | _ => rw [hv] at htext; cases htext
  next hattr =>
    rw [if_neg hattr]
    obtain ⟨inner, hinner, h⟩ := bind_eq_ok.mp h
    obtain rfl := pure_eq_ok.mp h
    have hwritten : ∀ layout : XmlLayout, layout.Written "value" inner ↔ layout =
        b.writtenLayout m.wireName m.flattened (b.memberFormat m) (b.value m.shape) :=
      fun _ => Request.XmlBody.written_value_iff hinner
    rw [XmlField.written_element_iff ((hwritten _).mpr rfl)]
    constructor
    · rintro ⟨layout, rfl, hlayout⟩
      rw [(hwritten layout).mp hlayout]
    · rintro rfl
      exact ⟨_, rfl, (hwritten _).mpr rfl⟩

/-- The element of a member is read from its only child of the name. -/
theorem read_child_of_value {v : ValueShape} {box : Expr} {name : String}
    {format : TimestampFormat} {inner : Expr} (hnamed : v.Named)
    (hinner : Response.XmlBody.value b v "value" format 0 = .ok inner) :
    field.Read b node (.of ["runtime::xml::child(", .var node, ", ", .quoted name, ").map(",
      .closure (.var "value") (.of [inner, box]), ").transpose()?"]) ↔
        field = .element (b.readLayout name format v) := by
  rw [XmlField.read_child_iff]
  simp only [Response.XmlBody.read_value_iff hnamed hinner]
  constructor
  · rintro ⟨layout, rfl, rfl⟩
    rfl
  · intro h
    exact ⟨_, h, rfl⟩

/-- The items of a flattened list are read from all children of a name. -/
theorem read_items_of_value {item : ValueShape} {name y : String}
    {format : TimestampFormat} {inner : Expr} (hnamed : item.Named)
    (hinner : Response.XmlBody.value b item y format 1 = .ok inner) :
    field.Read b node (.of ["runtime::xml::flattened(", .var node, ", ", .quoted name, ", ",
      .closure (.var y) inner, ")?"]) ↔
        field = .element (.list none (b.readLayout name format item)) := by
  rw [XmlField.read_items_iff]
  simp only [Response.XmlBody.read_value_iff hnamed hinner]
  constructor
  · rintro ⟨layout, rfl, rfl⟩
    rfl
  · intro h
    exact ⟨_, h, rfl⟩

/-- And so are the entries of a flattened map. -/
theorem read_entries_of_value {values : ValueShape} {entry key name z k y parsed : String}
    {format : TimestampFormat} {inner : Expr} (hk : k ≠ y ∧ k ≠ parsed)
    (hnamed : values.Named)
    (hinner : Response.XmlBody.value b values y format 1 = .ok inner) :
    field.Read b node (.of ["runtime::xml::flattened(", .var node, ", ", .quoted entry, ", ",
      .closure (.var z) (XmlLayout.entryRead z key name k y parsed inner),
      ")?.map(|entries| entries.into_iter().collect())"]) ↔
        field = .element (.map none entry key (b.readLayout name format values)) := by
  rw [XmlField.read_entries_iff hk]
  simp only [Response.XmlBody.read_value_iff hnamed hinner]
  constructor
  · rintro ⟨layout, rfl, rfl⟩
    rfl
  · intro h
    exact ⟨_, h, rfl⟩

theorem read_member_iff (hnamed : (b.value m.shape).Named)
    (h : Response.XmlBody.member b t m node = .ok e) :
    field.Read b node e ↔ field = b.readField m := by
  rw [Response.XmlBody.member] at h
  rw [readField]
  split at h
  next hattr =>
    rw [if_pos hattr]
    obtain ⟨inner, hinner, h⟩ := bind_eq_ok.mp h
    obtain rfl := pure_eq_ok.mp h
    cases hv : b.value m.shape with
    | scalar k s =>
        rw [hv] at hinner
        obtain rfl := Except.ok.inj hinner
        have htext : (XmlText.of s.kind (b.memberFormat m)).Read .ofAttribute "value"
            (Response.scalarFromText b k s "value" (b.memberFormat m)) :=
          XmlText.read_scalarFromText
        rw [XmlField.read_attr_iff, attributeText_of_scalar hv]
        constructor
        · rintro ⟨text, rfl, htext'⟩
          rw [htext.unique TextReaders.apart_ofAttribute htext']
        · rintro rfl
          exact ⟨_, rfl, htext⟩
    | _ => rw [hv] at hinner; cases hinner
  next hattr =>
    rw [if_neg hattr]
    generalize b.value m.shape = v at h hnamed ⊢
    -- A flattened list or map is read from the children of a name; whatever else
    -- there is, is read from one child.
    cases v with
    | list k l item =>
        rw [readMember]
        simp only at h
        split at h
        next hflat =>
          rw [if_pos hflat]
          obtain ⟨inner, hinner, h⟩ := bind_eq_ok.mp h
          obtain rfl := pure_eq_ok.mp h
          exact read_items_of_value hnamed hinner
        next hflat =>
          rw [if_neg hflat]
          obtain ⟨inner, hinner, h⟩ := bind_eq_ok.mp h
          obtain rfl := pure_eq_ok.mp h
          exact read_child_of_value hnamed hinner
    | map k s keys values =>
        have hvalues : values.Named := hnamed.values
        rw [readMember]
        simp only at h
        split at h
        next hflat =>
          rw [if_pos hflat]
          obtain ⟨inner, hinner, h⟩ := bind_eq_ok.mp h
          obtain rfl := pure_eq_ok.mp h
          exact read_entries_of_value ⟨localName_key_ne_item, localName_key_ne_parsed⟩
            hvalues hinner
        next hflat =>
          rw [if_neg hflat]
          obtain ⟨inner, hinner, h⟩ := bind_eq_ok.mp h
          obtain rfl := pure_eq_ok.mp h
          exact read_child_of_value hnamed hinner
    | _ =>
        obtain ⟨inner, hinner, h⟩ := bind_eq_ok.mp h
        obtain rfl := pure_eq_ok.mp h
        exact read_child_of_value hnamed hinner

end Blueprint

/-! ## Where the layouts are the same -/

/-- No list or map that the value holds is flattened by its shape. -/
def ValueShape.Unflattened : ValueShape → Prop
  | .list _ l item => l.flattened = false ∧ item.Unflattened
  | .map _ m _ values => m.flattened = false ∧ values.Unflattened
  | .structure _ _ | .scalar _ _ | .unknown _ | .endless _ => True

namespace Blueprint

variable {b : Blueprint} {m : Member} {name : String} {format : TimestampFormat}

/-- A flag takes the wrapper away, and no layout that is read below a member is
without. -/
theorem writtenLayout_eq_iff {v : ValueShape} {name' : String} :
    b.writtenLayout name false format v = b.readLayout name' format v ↔
      v.Unflattened ∧ name' = name := by
  induction v generalizing name name' format with
  | list k l item ih =>
      rw [writtenLayout, readLayout, ValueShape.Unflattened]
      cases l.flattened with
      | true => simp
      | false => simp [ih, eq_comm, and_comm]
  | map k m keys values _ ih =>
      rw [writtenLayout, readLayout, ValueShape.Unflattened]
      cases m.flattened with
      | true => simp
      | false => simp [ih, eq_comm, and_comm]
  | _ => simp [writtenLayout, readLayout, ValueShape.Unflattened, eq_comm]

/-- The member is an attribute, or nothing below it is flattened, and if it is a
flattened list itself then its items have the name of the member. -/
def ReadsBack (b : Blueprint) (m : Member) : Prop :=
  m.xmlAttribute = true ∨
    match b.value m.shape with
    | .list _ l item => item.Unflattened ∧
      (m.flattened = true ∨ l.flattened = true →
        l.member.locationName.getD m.wireName = m.wireName)
    | .map _ _ _ values => values.Unflattened
    | _ => True

theorem writtenField_eq_iff : b.writtenField m = b.readField m ↔ b.ReadsBack m := by
  rw [writtenField, readField, ReadsBack]
  split
  next hattr => simp [hattr]
  next hattr =>
    rw [or_iff_right hattr, XmlField.element.injEq]
    cases b.value m.shape with
    | list k l item =>
        rw [writtenLayout, readMember]
        by_cases hflat : (m.flattened || l.flattened) = true
        · have hor : m.flattened = true ∨ l.flattened = true := Bool.or_eq_true _ _ ▸ hflat
          simp only [hflat, if_true, XmlLayout.list.injEq, true_and, writtenLayout_eq_iff,
            hor, true_imp_iff]
        · have hor : ¬ (m.flattened = true ∨ l.flattened = true) := Bool.or_eq_true _ _ ▸ hflat
          simp only [hflat, readLayout, XmlLayout.list.injEq, true_and,
            writtenLayout_eq_iff, hor, false_imp_iff, and_true, if_false, Bool.false_eq_true]
    | map k s keys values =>
        rw [writtenLayout, readMember]
        by_cases hflat : (m.flattened || s.flattened) = true
        · simp only [hflat, if_true, XmlLayout.map.injEq, true_and, writtenLayout_eq_iff,
            and_true]
        · simp only [hflat, readLayout, XmlLayout.map.injEq, true_and, writtenLayout_eq_iff,
            and_true, if_false, Bool.false_eq_true]
    | _ => simp [writtenLayout, readMember, readLayout]

end Blueprint

/-! ## Where there is code -/

/-- The unfolding did not stop where code has to go on. -/
def ValueShape.Complete : ValueShape → Prop
  | .list _ _ item => item.Complete
  | .map _ _ _ values => values.Complete
  | .structure _ _ | .scalar _ _ => True
  | .unknown _ | .endless _ => False

theorem Request.XmlBody.value_succeeds {b : Blueprint} {v : ValueShape} {x : String}
    {element : Element} {format : TimestampFormat} {depth : Nat} :
    Succeeds (value b v x element format depth) ↔ v.Complete := by
  induction v generalizing x element format depth with
  | «structure» k t => exact iff_true_intro ⟨_, rfl⟩
  | scalar k t => exact iff_true_intro ⟨_, rfl⟩
  | list k l item ih =>
      rw [value, ValueShape.Complete, ← ih]
      exact succeeds_bind_pure
  | map k m keys values _ ih =>
      rw [value, ValueShape.Complete, ← ih]
      exact succeeds_bind_pure
  | unknown k => exact iff_false_intro (not_succeeds_error _)
  | endless k => exact iff_false_intro (not_succeeds_error _)

theorem Response.XmlBody.value_succeeds {b : Blueprint} {v : ValueShape} {x : String}
    {format : TimestampFormat} {depth : Nat} :
    Succeeds (value b v x format depth) ↔ v.Complete := by
  induction v generalizing x format depth with
  | «structure» k t => exact iff_true_intro ⟨_, rfl⟩
  | scalar k t => exact iff_true_intro ⟨_, rfl⟩
  | list k l item ih =>
      rw [value, ValueShape.Complete, ← ih]
      exact succeeds_bind_pure
  | map k m keys values _ ih =>
      rw [value, ValueShape.Complete, ← ih]
      exact succeeds_bind_pure
  | unknown k => exact iff_false_intro (not_succeeds_error _)
  | endless k => exact iff_false_intro (not_succeeds_error _)

namespace Blueprint

variable {b : Blueprint} {m : Member} {t : StructureShape} {node : String}

/-- The member is an attribute with a text, or an element that is complete. -/
def Emits (b : Blueprint) (m : Member) : Prop :=
  if m.xmlAttribute then ∃ k s, b.value m.shape = .scalar k s else (b.value m.shape).Complete

theorem memberOf_succeeds : Succeeds (Request.XmlBody.memberOf b m) ↔ b.Emits m := by
  rw [Request.XmlBody.memberOf, Emits]
  split
  next hattr =>
    rw [Request.XmlBody.attributeOf, succeeds_bind_pure]
    cases b.value m.shape with
    | scalar k s => exact iff_of_true ⟨_, rfl⟩ ⟨k, s, rfl⟩
    | _ => exact iff_of_false (not_succeeds_error _) (by simp)
  next hattr =>
    rw [Request.XmlBody.elementOf, succeeds_bind_pure]
    exact Request.XmlBody.value_succeeds

theorem member_succeeds : Succeeds (Response.XmlBody.member b t m node) ↔ b.Emits m := by
  rw [Response.XmlBody.member, Emits]
  split
  next hattr =>
    rw [succeeds_bind_pure]
    cases b.value m.shape with
    | scalar k s => exact iff_of_true ⟨_, rfl⟩ ⟨k, s, rfl⟩
    | _ => exact iff_of_false (not_succeeds_error _) (by simp)
  next hattr =>
    cases b.value m.shape with
    | list k l item =>
        simp only
        split <;> rw [succeeds_bind_pure] <;>
          exact Response.XmlBody.value_succeeds
    | map k s keys values =>
        simp only
        split <;> rw [succeeds_bind_pure] <;>
          exact Response.XmlBody.value_succeeds
    | _ =>
        simp only
        rw [succeeds_bind_pure]
        exact Response.XmlBody.value_succeeds

/-- Code for a member has a layout in common exactly if the member reads back. -/
theorem exists_field_iff (hs : b.service.Closed) {c : Code} {e : Expr}
    (hc : Request.XmlBody.memberOf b m = .ok c)
    (he : Response.XmlBody.member b t m node = .ok e) :
    (∃ field : XmlField, field.Written (Naming.fieldIdent m.name) c ∧ field.Read b node e) ↔
      b.ReadsBack m := by
  rw [← writtenField_eq_iff]
  constructor
  · rintro ⟨field, hwritten, hread⟩
    rw [← (written_memberOf_iff hc).mp hwritten]
    exact (read_member_iff (named_value hs m.shape) he).mp hread
  · intro heq
    refine ⟨b.writtenField m, (written_memberOf_iff hc).mpr rfl, ?_⟩
    exact (read_member_iff (named_value hs m.shape) he).mpr heq

/-- Whatever documents a service comes from, there is code that writes a member
as XML where there is code that reads it, and what the one writes is what the
other reads exactly for the members that read back. -/
theorem reads_back_iff {src : Sources} {s : Service} {selection : List String}
    (h : src.toService.result = .ok s) (hb : Blueprint.of s selection = .ok b)
    (t : StructureShape) (m : Member) (node : String) :
    (Succeeds (Request.XmlBody.memberOf b m) ↔
      Succeeds (Response.XmlBody.member b t m node)) ∧
    ∀ c e, Request.XmlBody.memberOf b m = .ok c →
      Response.XmlBody.member b t m node = .ok e →
        ((∃ field : XmlField, field.Written (Naming.fieldIdent m.name) c ∧
          field.Read b node e) ↔ b.ReadsBack m) := by
  obtain ⟨hready, -⟩ := ready_of_of h hb
  exact ⟨memberOf_succeeds.trans member_succeeds.symm,
    fun _ _ hc he => exists_field_iff hready.closed hc he⟩

end Blueprint

/-! ## An example

A parcel is sent and comes back as it was sent. Its labels are a flattened map,
and they are read from the elements in which they were written. Its tags are a
flattened list, and their shape calls each of them a tag: they are written as
elements called after the member and looked up as tags. -/

/-- The definition of the parcels. -/
def Definition.parcels : Definition where
  version := none
  metadata :=
    { apiVersion := "1", endpointPrefix := "parcels",
      protocol := some "rest-xml", protocols := [], serviceId := none,
      serviceAbbreviation := none, serviceFullName := none, jsonVersion := none,
      targetPrefix := none, xmlNamespace := none, signingName := none,
      signatureVersion := none }
  operations :=
    [("Ship",
      { name := none, http := { method := "POST", requestUri := "/parcels" },
        input := some ⟨"Shipment", none⟩, output := some ⟨"Shipment", none⟩,
        errors := [], documentation := none, deprecated := false })]
  shapes :=
    [("Shipment", { ShapeEntry.bare "structure" with
        members := [("Parcel", MemberEntry.bare "Parcel")] }),
      ("Parcel", { ShapeEntry.bare "structure" with
        members := [("Tags", MemberEntry.bare "Tags"), ("Labels", MemberEntry.bare "Labels")] }),
      ("Tags", { ShapeEntry.bare "list" with
        member := some ⟨"Text", some "Tag"⟩, flattened := true }),
      ("Labels", { ShapeEntry.bare "map" with
        key := some ⟨"Text", none⟩, value := some ⟨"Text", none⟩, flattened := true }),
      ("Text", ShapeEntry.bare "string")]
  documentation := none

/-- The documents of the parcels. -/
def Sources.parcels : Sources where
  definition := Definition.parcels
  givenName := none
  paginators := none
  waiters := none

/-- The tags of a parcel. -/
def Member.tags : Member where
  name := "Tags"
  shape := "Tags"
  required := false
  location := .body
  locationName := none
  queryName := none
  streaming := false
  idempotencyToken := false
  flattened := true
  xmlAttribute := false
  xmlNamespace := none
  timestampFormat := none
  documentation := none
  deprecated := false

/-- The labels of a parcel. -/
def Member.labels : Member :=
  { Member.tags with name := "Labels", shape := "Labels" }

theorem Sources.shapes_parcels : (Sources.parcels.toService.result.map fun s =>
    (s.metadata.protocol, (s.structure? "Parcel").map (·.members))) =
      .ok (.restXml, some [.tags, .labels]) := by cbv

theorem Sources.values_parcels : (Sources.parcels.toService.result.map fun s =>
    (s.value "Tags", s.value "Labels")) =
      .ok (.list "Tags" ⟨"Tags", ⟨"Text", some "Tag"⟩, true, none⟩
          (.scalar "Text" ⟨"Text", .string, [], none, false, false, none⟩),
        .map "Labels" ⟨"Labels", ⟨"Text", none⟩, ⟨"Text", none⟩, true, none⟩
          (.scalar "Text" ⟨"Text", .string, [], none, false, false, none⟩)
          (.scalar "Text" ⟨"Text", .string, [], none, false, false, none⟩)) := by cbv

theorem Sources.usage_parcels :
    (Sources.parcels.toService.result.map fun s => Usage.analyze s []) =
      .ok (.ok ⟨["Ship"], ["Parcel"], ["Parcel"], []⟩) := by cbv

/-- A parcel that is both written and read, with its two members. -/
structure Blueprint.ShipsParcels (b : Blueprint) (t : StructureShape) : Prop where
  documents : Sources.parcels.toService.result = .ok b.service
  blueprint : Blueprint.of b.service [] = .ok b
  protocol : b.protocol = .restXml
  parcel : b.service.shape? "Parcel" = some (.structure t)
  members : t.members = [.tags, .labels]
  written : "Parcel" ∈ b.usage.serialized
  read : "Parcel" ∈ b.usage.parsed

namespace Blueprint

theorem exists_parcel : ∃ (b : Blueprint) (t : StructureShape), b.ShipsParcels t := by
  obtain ⟨s, hs, hshapes⟩ := map_eq_ok.mp Sources.shapes_parcels
  obtain ⟨s', hs', husage⟩ := map_eq_ok.mp Sources.usage_parcels
  obtain rfl : s = s' := Except.ok.inj (hs.symm.trans hs')
  rw [Prod.mk.injEq, Option.map_eq_some_iff] at hshapes
  obtain ⟨hprotocol, t, ht, hmembers⟩ := hshapes
  refine ⟨⟨s, ⟨["Ship"], ["Parcel"], ["Parcel"], []⟩, TypeNames.assign s, s.boxedMembers⟩, t,
    hs, bind_eq_ok.mpr ⟨_, husage, rfl⟩, hprotocol, Service.structure?_eq_some_iff.mp ht,
    hmembers, ?_, ?_⟩
  · exact List.mem_singleton_self _
  · exact List.mem_singleton_self _

theorem ShipsParcels.values {b : Blueprint} {t : StructureShape} (h : b.ShipsParcels t) :
    b.Emits .tags ∧ ¬ b.ReadsBack .tags ∧ b.Emits .labels ∧ b.ReadsBack .labels := by
  have hvalues := Sources.values_parcels
  rw [h.documents] at hvalues
  obtain ⟨htags, hlabels⟩ := Prod.mk.inj (Except.ok.inj hvalues)
  have htags : b.value Member.tags.shape = _ := htags
  have hlabels : b.value Member.labels.shape = _ := hlabels
  rw [Emits, ReadsBack, Emits, ReadsBack, htags, hlabels]
  refine ⟨trivial, ?_, trivial, .inr trivial⟩
  rintro (hattr | ⟨-, hname⟩)
  · cases hattr
  · exact absurd (hname (.inl rfl)) (by decide)

/-- The tags of a parcel are not read as they are written. -/
theorem tags_lost : ∃ (b : Blueprint) (t : StructureShape) (c : Code) (e : Expr),
  b.ShipsParcels t ∧
    Request.XmlBody.memberOf b .tags = .ok c ∧
      Response.XmlBody.member b t .tags "node" = .ok e ∧
        ¬ ∃ field : XmlField, field.Written (Naming.fieldIdent "Tags") c ∧
          field.Read b "node" e := by
  obtain ⟨b, t, hships⟩ := exists_parcel
  obtain ⟨hemits, hlost, -, -⟩ := hships.values
  obtain ⟨c, hc⟩ := memberOf_succeeds.mpr hemits
  obtain ⟨e, he⟩ := member_succeeds.mpr hemits
  obtain ⟨hready, -⟩ := ready_of_of hships.documents hships.blueprint
  exact ⟨b, t, c, e, hships, hc, he,
    fun hfield => hlost ((exists_field_iff hready.closed hc he).mp hfield)⟩

/-- Its labels are. -/
theorem labels_kept : ∃ (b : Blueprint) (t : StructureShape) (c : Code) (e : Expr),
  b.ShipsParcels t ∧
    Request.XmlBody.memberOf b .labels = .ok c ∧
      Response.XmlBody.member b t .labels "node" = .ok e ∧
        ∃ field : XmlField, field.Written (Naming.fieldIdent "Labels") c ∧
          field.Read b "node" e := by
  obtain ⟨b, t, hships⟩ := exists_parcel
  obtain ⟨-, -, hemits, hkept⟩ := hships.values
  obtain ⟨hcode, hiff⟩ :=
    reads_back_iff hships.documents hships.blueprint t .labels "node"
  obtain ⟨c, hc⟩ := memberOf_succeeds.mpr hemits
  obtain ⟨e, he⟩ := hcode.mp ⟨c, hc⟩
  exact ⟨b, t, c, e, hships, hc, he, (hiff c e hc he).mpr hkept⟩

end Blueprint

end Clientwright
