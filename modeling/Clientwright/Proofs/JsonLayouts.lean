import Clientwright.Crate.Structures
import Clientwright.Proofs.Layouts

/-!
# JSON is read as it is written

A layout is what a value looks like as JSON, with nothing left of how code gets
there: arrays, objects with one kind of content, structures by name, and scalars
with the format of their timestamps. `LaidOut` reads it off the shapes of the
service, without regard to either emitter.

`Written` and `Read` say what code there may be for a layout. They leave open
what does not show in a message: names of variables, the type that a text is
turned into, boxes. Nothing else is open, so code that reads can be read for one
layout only (`Read.unique`), and a format or a nesting that differs in one place
would leave no layout for both.

The emitters are two walks over the unfolded value with the same steps, and each
step of theirs is a rule of these relations. The work is to carry the format
along: a member has a rule of its own, and below a list or map the rule for what
is held takes over again.
-/

namespace Clientwright

open Relation Outcome

/-! ## Layouts -/

/-- What a scalar looks like. -/
inductive WireScalar where
  | enumerated
  | string
  | integer
  | long
  | float
  | double
  | boolean
  | timestamp (format : TimestampFormat)
  | blob
  | document
  deriving DecidableEq, Repr

/-- What a scalar of the shape looks like where the format is in force. -/
def WireScalar.of (t : ScalarShape) (format : TimestampFormat) : WireScalar :=
  if t.isEnum then .enumerated
  else
    match t.kind with
    | .string => .string
    | .integer => .integer
    | .long => .long
    | .float => .float
    | .double => .double
    | .boolean => .boolean
    | .timestamp => .timestamp format
    | .blob => .blob
    | .document => .document

/-- What a value looks like. -/
inductive JsonLayout where
  | scalar (kind : WireScalar)
  | array (item : JsonLayout)
  | object (value : JsonLayout)
  | structure (name : String)
  deriving DecidableEq, Repr

/-- What a member adds to the object of its structure. -/
structure JsonField where
  /-- the field that holds the value -/
  ident : String
  key : String
  layout : JsonLayout
  deriving DecidableEq, Repr

namespace Service

variable {s : Service} {format : TimestampFormat} {k : String} {layout layout' : JsonLayout}

/-- Values of the shape look like this where the format is in force. -/
inductive LaidOut (s : Service) : TimestampFormat → String → JsonLayout → Prop where
  | structure {format k t} (h : s.shape? k = some (.structure t)) :
      s.LaidOut format k (.structure k)
  | scalar {format k t} (h : s.shape? k = some (.scalar t)) :
      s.LaidOut format k (.scalar (.of t format))
  | list {format k l item} (h : s.shape? k = some (.list l))
      (hitem : s.LaidOut (s.heldFormat l.member.shape) l.member.shape item) :
      s.LaidOut format k (.array item)
  | map {format k m value} (h : s.shape? k = some (.map m))
      (hvalue : s.LaidOut (s.heldFormat m.value.shape) m.value.shape value) :
      s.LaidOut format k (.object value)

/-- The member looks like this in its structure. -/
structure FieldLaidOut (s : Service) (m : Member) (f : JsonField) : Prop where
  ident : f.ident = Naming.fieldIdent m.name
  key : f.key = m.wireName
  layout : s.LaidOut (s.memberFormat m) m.shape f.layout

theorem LaidOut.unique (h : s.LaidOut format k layout) (h' : s.LaidOut format k layout') :
    layout = layout' := by
  induction h generalizing layout' with
  | «structure» h =>
      cases h' with
      | «structure» => rfl
      | scalar h' => cases h.symm.trans h'
      | list h' => cases h.symm.trans h'
      | map h' => cases h.symm.trans h'
  | scalar h =>
      cases h' with
      | «structure» h' => cases h.symm.trans h'
      | scalar h' => cases h.symm.trans h'; rfl
      | list h' => cases h.symm.trans h'
      | map h' => cases h.symm.trans h'
  | list h _ ih =>
      cases h' with
      | «structure» h' => cases h.symm.trans h'
      | scalar h' => cases h.symm.trans h'
      | list h' hitem' => cases h.symm.trans h'; rw [ih hitem']
      | map h' => cases h.symm.trans h'
  | map h _ ih =>
      cases h' with
      | «structure» h' => cases h.symm.trans h'
      | scalar h' => cases h.symm.trans h'
      | list h' => cases h.symm.trans h'
      | map h' hvalue' => cases h.symm.trans h'; rw [ih hvalue']

theorem FieldLaidOut.unique {m : Member} {f f' : JsonField} (h : s.FieldLaidOut m f)
    (h' : s.FieldLaidOut m f') : f = f' := by
  obtain ⟨ident, key, layout⟩ := f
  obtain ⟨ident', key', layout'⟩ := f'
  rw [JsonField.mk.injEq]
  exact ⟨h.ident.trans h'.ident.symm, h.key.trans h'.key.symm, h.layout.unique h'.layout⟩

end Service

/-! ## Code for layouts -/

namespace WireScalar

/-- The JSON of what the variable refers to. -/
def written (x : String) : WireScalar → Expr
  | enumerated => .of ["serde_json::Value::String(", .var x, ".as_str().to_string())"]
  | string => .of ["serde_json::Value::String(", .var x, ".clone())"]
  | integer | long | float | double => .of ["serde_json::Value::from(*", .var x, ")"]
  | boolean => .of ["serde_json::Value::Bool(*", .var x, ")"]
  | timestamp format =>
    .of ["runtime::json::timestamp_value(", .var x, ", ", .timestamp format, ")"]
  | blob => .of ["runtime::json::blob_value(", .var x, ")"]
  | document => .of [.var x, ".clone()"]

/-- The scalar that the variable refers to; an enumerated text is made into the
type. -/
def read (type : Expr) (x : String) : WireScalar → Expr
  | enumerated =>
    .of ["runtime::json::string(", .var x, ")", .of [".map(", type, "::from)"]]
  | string => .of ["runtime::json::string(", .var x, ")"]
  | integer => .of ["runtime::json::integer(", .var x, ")"]
  | long => .of ["runtime::json::long(", .var x, ")"]
  | float => .of ["runtime::json::float(", .var x, ")"]
  | double => .of ["runtime::json::double(", .var x, ")"]
  | boolean => .of ["runtime::json::boolean(", .var x, ")"]
  | timestamp format =>
    .of ["runtime::json::timestamp(", .var x, ", ", .timestamp format, ")"]
  | blob => .of ["runtime::json::blob(", .var x, ")"]
  | document => .of ["runtime::json::document(", .var x, ")"]

theorem read_inj {type type' : Expr} {x x' : String} {kind kind' : WireScalar}
    (h : kind.read type x = kind'.read type' x') : kind = kind' := by
  cases kind <;> cases kind' <;> simp_all [read]

end WireScalar

namespace JsonLayout

/-- The expression builds a value of the layout from what the variable refers
to. -/
inductive Written : JsonLayout → String → Expr → Prop where
  | scalar {kind x} : Written (.scalar kind) x (kind.written x)
  | array {item x y inner} (hitem : Written item y inner) :
      Written (.array item) x (.of ["serde_json::Value::Array(", .var x, ".iter().map(",
        .closure (.var y) (.of ["Ok(", inner, ")"]),
        ").collect::<Result<Vec<_>, runtime::Error>>()?)"])
  | object {value x key y inner} (hkey : key ≠ y) (hvalue : Written value y inner) :
      Written (.object value) x (.of ["serde_json::Value::Object(", .var x, ".iter().map(",
        .closure (.pair (.var key) (.var y))
          (.of ["Ok((", .var key, ".clone(), ", inner, "))"]),
        ").collect::<Result<serde_json::Map<_, _>, runtime::Error>>()?)"])
  | structure {name x} :
      Written (.structure name) x (.of [.var x, ".", .convert .toJson name, "()?"])

/-- The expression reads a value of the layout from what the variable refers
to. -/
inductive Read (b : Blueprint) : JsonLayout → String → Expr → Prop where
  | scalar {kind type x e} (h : e = kind.read type x) : Read b (.scalar kind) x e
  | array {item x e xs y inner} (hitem : Read b item y inner)
      (h : e = .of ["runtime::json::array(", .var x, ").and_then(",
        .closure (.var xs) (.of [.var xs, ".iter().map(", .closure (.var y) inner,
          ").collect::<Result<Vec<_>, runtime::Error>>()"]), ")"]) :
      Read b (.array item) x e
  | object {value x e xs key y parsed inner} (hkey : key ≠ y ∧ key ≠ parsed)
      (hvalue : Read b value y inner)
      (h : e = .of ["runtime::json::object(", .var x, ").and_then(",
        .closure (.var xs) (.of [.var xs, ".iter().filter(",
          .closure (.pair .any (.var y)) (.of ["!", .var y, ".is_null()"]), ").map(",
          .closure (.pair (.var key) (.var y)) (.of [inner, ".map(",
            .closure (.var parsed)
              (.of ["(", .var key, ".clone(), ", .var parsed, ")"]), ")"]),
          ").collect::<Result<std::collections::BTreeMap<_, _>, runtime::Error>>()"]), ")"]) :
      Read b (.object value) x e
  | structure {name x e}
      (h : e = .of [b.typeItem name, "::", .convert .fromJson name, "(", .var x, ")"]) :
      Read b (.structure name) x e

end JsonLayout

namespace JsonField

theorem exists_of (ident key : String) (layout : JsonLayout) :
    ∃ f : JsonField, f.ident = ident ∧ f.key = key ∧ f.layout = layout :=
  ⟨⟨ident, key, layout⟩, rfl, rfl, rfl⟩

/-- The statement puts the field into the object under its key. -/
def Written (f : JsonField) (c : Code) : Prop :=
  ∃ inner, f.layout.Written "value" inner ∧
    c = .ifSet "value" "self" f.ident
      (.line (.of ["object.insert(", .quoted f.key, ".to_string(), ", inner, ");"]))

/-- The expression looks the field up in the object under its key. -/
def Read (b : Blueprint) (object : String) (f : JsonField) (e : Expr) : Prop :=
  ∃ inner, ∃ box ∈ [Expr.empty, Expr.plain ".map(Box::new)"],
    f.layout.Read b "value" inner ∧
      e = .of ["runtime::json::field(", .var object, ", ", .quoted f.key, ").map(",
        .closure "value" (.of [inner, box]), ").transpose()?"]

/-- The statements build an object of the fields. -/
def WrittenAll (fields : List JsonField) (c : Code) : Prop :=
  fields = [] ∧ c = .text "let object = serde_json::Map::new();" ∨
    fields ≠ [] ∧ ∃ statements, List.Forall₂ Written fields statements ∧
      c = .text "let mut object = serde_json::Map::new();" ++ Code.all statements

/-- The block takes an object apart into the fields. -/
def ReadAll (b : Blueprint) (fields : List JsonField) (c : Code) : Prop :=
  fields = [] ∧ c = .texts ["runtime::json::object(value)?;", "Ok(Self::default())"] ∨
    fields ≠ [] ∧ ∃ entries, List.Forall₂ (fun f entry => ∃ e, Read b "object" f e ∧
        entry = .line (.of [.field f.ident, ": ", e, ","])) fields entries ∧
      c = .bind "object" "runtime::json::object(value)?" ++ Crate.readValue entries

end JsonField

/-! ## Code that reads is for one layout only -/

theorem WireScalar.read_ne {type p : Expr} {x : String} {kind : WireScalar}
    {pieces : List Expr} (h : p = .plain "runtime::json::array(" ∨
      p = .plain "runtime::json::object(" ∨ ∃ area name, p = .item area name) :
    kind.read type x ≠ .of (p :: pieces) := by
  rcases h with rfl | rfl | ⟨area, name, rfl⟩ <;> cases kind <;> simp [read]

/-- The first piece of an expression tells which rule it is from, and then each
piece with some meaning is the same on both sides. -/
theorem JsonLayout.Read.unique {b : Blueprint} {layout layout' : JsonLayout}
    {x x' : String} {e : Expr} (h : layout.Read b x e) (h' : layout'.Read b x' e) :
    layout = layout' := by
  induction h generalizing layout' x' with
  | scalar h =>
      subst h
      cases h' with
      | scalar h' => rw [WireScalar.read_inj h']
      | array _ h' => exact absurd h' (WireScalar.read_ne (.inl rfl))
      | object _ _ h' => exact absurd h' (WireScalar.read_ne (.inr (.inl rfl)))
      | «structure» h' =>
          exact absurd h' (WireScalar.read_ne (.inr (.inr ⟨_, _, rfl⟩)))
  | array _ h ih =>
      subst h
      cases h' with
      | scalar h' => exact absurd h'.symm (WireScalar.read_ne (.inl rfl))
      | array hitem' h' =>
          simp only [Expr.of_cons_eq_of_cons, Expr.closure.injEq] at h'
          obtain ⟨-, -, -, ⟨-, -, -, ⟨-, rfl⟩, -⟩, -⟩ := h'
          rw [ih hitem']
      | object _ _ h' => simp at h'
      | «structure» h' => simp [Blueprint.typeItem] at h'
  | object _ _ h ih =>
      subst h
      cases h' with
      | scalar h' => exact absurd h'.symm (WireScalar.read_ne (.inr (.inl rfl)))
      | array _ h' => simp at h'
      | object _ hvalue' h' =>
          simp only [Expr.of_cons_eq_of_cons, Expr.closure.injEq] at h'
          obtain ⟨-, -, -, ⟨-, -, -, -, -, ⟨-, rfl, -⟩, -⟩, -⟩ := h'
          rw [ih hvalue']
      | «structure» h' => simp [Blueprint.typeItem] at h'
  | «structure» h =>
      subst h
      cases h' with
      | scalar h' =>
          exact absurd h'.symm (WireScalar.read_ne (.inr (.inr ⟨_, _, rfl⟩)))
      | array _ h' => simp [Blueprint.typeItem] at h'
      | object _ _ h' => simp [Blueprint.typeItem] at h'
      | «structure» h' =>
          simp only [Expr.of_cons_eq_of_cons, Expr.convert.injEq] at h'
          rw [h'.2.2.1.2]

/-! ## What the emitters produce -/

namespace Request.JsonBody

theorem scalar_eq {t : ScalarShape} {x : String} {format : TimestampFormat} :
    scalar t x format = (WireScalar.of t format).written x := by
  rw [scalar, WireScalar.of]
  cases t.isEnum with
  | true => rfl
  | false => cases t.kind <;> rfl

end Request.JsonBody

namespace Response.JsonBody

theorem scalar_eq {b : Blueprint} {key : String} {t : ScalarShape} {x : String}
    {format : TimestampFormat} :
    scalar b key t x format = (WireScalar.of t format).read (b.typeItem key) x := by
  rw [scalar, WireScalar.of]
  cases t.isEnum with
  | true => rfl
  | false => cases t.kind <;> rfl

end Response.JsonBody

namespace Blueprint

variable {b : Blueprint} {available : List String} {k n x : String}
  {format : TimestampFormat} {depth : Nat}

/-- The shape has a layout, and both walks over its unfolded value are code for
this layout. -/
def RendersJson (b : Blueprint) (v : ValueShape) (k : String) (format : TimestampFormat) :
    Prop :=
  ∃ layout, b.service.LaidOut format k layout ∧ ∀ x depth, ∃ written read,
    Request.JsonBody.value b v x format depth = .ok written ∧ layout.Written x written ∧
      Response.JsonBody.value b v x format depth = .ok read ∧ layout.Read b x read

theorem renders_valueWithin (hs : b.service.Closed) (available : List String) (k : String)
    (hk : ∃ shape, b.service.shape? k = some shape) (hguard : b.service.GuardedFrom k)
    (hspent : b.service.Spent available k) (format : TimestampFormat) :
    b.RendersJson (b.service.valueWithin available k) k format := by
  fun_induction Service.valueWithin b.service available k generalizing format with
  | case1 available k hnone =>
      obtain ⟨shape, hshape⟩ := hk
      cases hnone.symm.trans hshape
  | case2 available k t hshape =>
      have hname : t.name = k := hs.named hshape
      refine ⟨_, .structure hshape, fun x depth => ⟨_, _, rfl, ?_, rfl, ?_⟩⟩
      · rw [hname]
        exact .structure
      · exact .structure (by rw [hname])
  | case3 available k t hshape =>
      refine ⟨_, .scalar hshape, fun x depth => ⟨_, _, rfl, ?_, rfl, ?_⟩⟩
      · rw [Request.JsonBody.scalar_eq]
        exact .scalar
      · exact .scalar Response.JsonBody.scalar_eq
  | case4 available k l hshape hmem ih =>
      have hitem : b.service.Holds k l.member.shape := .item hshape
      obtain ⟨item, hlayout, hcode⟩ := ih (hs.resolved (.held hitem)) (hguard.held hitem)
        (hspent.erase hitem) (b.service.heldFormat l.member.shape)
      refine ⟨.array item, .list hshape hlayout, fun x depth => ?_⟩
      obtain ⟨w, r, hw, hwritten, hr, hread⟩ := hcode (localName "item" depth) (depth + 1)
      rw [← bodyFormat_valueWithin b (available.erase k)] at hw hr
      refine ⟨_, _, bind_eq_ok.mpr ⟨w, hw, rfl⟩, .array hwritten,
        bind_eq_ok.mpr ⟨r, hr, rfl⟩, .array hread rfl⟩
  | case5 available k l hshape hmem => exact absurd (hguard.mem_available hspent hk) hmem
  | case6 available k m hshape hmem ihkey ihvalue =>
      have hvalue : b.service.Holds k m.value.shape := .value hshape
      obtain ⟨value, hlayout, hcode⟩ := ihvalue (hs.resolved (.held hvalue))
        (hguard.held hvalue) (hspent.erase hvalue) (b.service.heldFormat m.value.shape)
      refine ⟨.object value, .map hshape hlayout, fun x depth => ?_⟩
      obtain ⟨w, r, hw, hwritten, hr, hread⟩ := hcode (localName "item" depth) (depth + 1)
      rw [← bodyFormat_valueWithin b (available.erase k)] at hw hr
      refine ⟨_, _, bind_eq_ok.mpr ⟨w, hw, rfl⟩, .object localName_key_ne_item hwritten,
        bind_eq_ok.mpr ⟨r, hr, rfl⟩,
        .object ⟨localName_key_ne_item, localName_key_ne_parsed⟩ hread rfl⟩
  | case7 available k m hshape hmem => exact absurd (hguard.mem_available hspent hk) hmem

/-- The field is the layout of the member, its statement writes it and its
expression reads it. -/
structure RendersField (b : Blueprint) (t : StructureShape) (m : Member) (f : JsonField) :
    Prop where
  laidOut : b.service.FieldLaidOut m f
  written : ∃ c, Request.JsonBody.member b m = .ok c ∧ f.Written c
  read : ∀ object, ∃ e, Response.JsonBody.member b t m object = .ok e ∧ f.Read b object e

/-- The fields are the layout of the structure, in the order of its members; its
method writes them and its function reads them. -/
structure RendersFields (b : Blueprint) (t : StructureShape) (fields : List JsonField) :
    Prop where
  laidOut : List.Forall₂ b.service.FieldLaidOut t.members fields
  written : ∃ head front object, Crate.writer b t = .ok (.braces head (Code.all
      [front, object, .text "Ok(serde_json::Value::Object(object))"])) ∧
    JsonField.WrittenAll fields object
  read : ∃ head body, Crate.reader b t = .ok (.braces head body) ∧
    JsonField.ReadAll b fields body

theorem renders_member (hs : b.service.Closed) {t : StructureShape} {m : Member}
    (hk : b.service.shape? k = some (.structure t)) (hm : m ∈ t.members)
    (hguard : b.service.GuardedFrom m.shape) : ∃ f, b.RendersField t m f := by
  have hrenders : b.RendersJson (b.value m.shape) m.shape (b.service.memberFormat m) :=
    renders_valueWithin hs _ m.shape (hs.resolved (.member hk hm)) hguard
      (Service.spent_keys _) _
  obtain ⟨layout, hlayout, hcode⟩ := hrenders
  obtain ⟨w, r, hw, hwritten, hr, hread⟩ := hcode "value" 0
  rw [← memberFormat_eq] at hw hr
  have hbox : Response.boxing b t m ∈ [Expr.empty, Expr.plain ".map(Box::new)"] := by
    rw [Response.boxing]
    split <;> simp
  obtain ⟨field, hident, hkey, rfl⟩ :=
    JsonField.exists_of (Naming.fieldIdent m.name) m.wireName layout
  refine ⟨field, ⟨hident, hkey, hlayout⟩, ?_, ?_⟩
  · rw [Request.JsonBody.member, hw]
    refine ⟨_, rfl, w, hwritten, ?_⟩
    rw [hident, hkey]
  · intro object
    rw [Response.JsonBody.member, hr]
    refine ⟨_, rfl, r, _, hbox, hread, ?_⟩
    rw [hkey]

theorem written_members {t : StructureShape} {l : List Member} {fields : List JsonField}
    (h : List.Forall₂ (b.RendersField t) l fields) :
    ∃ c, Request.JsonBody.members b l = .ok c ∧ JsonField.WrittenAll fields c := by
  obtain ⟨statements, hmembers, hwritten⟩ :=
    exists_forall₂_between h fun _ _ hm => hm.written
  cases h with
  | nil => exact ⟨_, rfl, .inl ⟨rfl, rfl⟩⟩
  | cons =>
      exact ⟨_, bind_eq_ok.mpr ⟨statements, mapM_eq_ok.mpr hmembers, rfl⟩,
        .inr ⟨List.cons_ne_nil _ _, statements, hwritten, rfl⟩⟩

theorem readAll_of_entries {t : StructureShape} {l : List Member} {fields : List JsonField}
    {entries : List Code} (h : List.Forall₂ (b.RendersField t) l fields)
    (hread : List.Forall₂ (fun f entry => ∃ e, f.Read b "object" e ∧
      entry = .line (.of [.field f.ident, ": ", e, ","])) fields entries) :
    JsonField.ReadAll b fields
      (if l.isEmpty then .texts ["runtime::json::object(value)?;", "Ok(Self::default())"]
        else .bind "object" "runtime::json::object(value)?" ++ Crate.readValue entries) := by
  cases h with
  | nil => exact .inl ⟨rfl, rfl⟩
  | cons => exact .inr ⟨List.cons_ne_nil _ _, entries, hread, rfl⟩

theorem renders_structure (hs : b.service.Closed) {t : StructureShape}
    (hjson : b.protocol = .json ∨ b.protocol = .restJson)
    (hk : b.service.shape? k = some (.structure t))
    (hguard : ∀ m ∈ t.members, b.service.GuardedFrom m.shape) :
    ∃ fields, b.RendersFields t fields := by
  obtain ⟨fields, hfields⟩ :=
    exists_forall₂ fun m hm => renders_member hs hk hm (hguard m hm)
  have hencoding : b.protocol.requestEncoding = .json ∧ b.protocol.responseEncoding = .json := by
    rcases hjson with hjson | hjson <;> rw [hjson] <;> exact ⟨rfl, rfl⟩
  refine ⟨fields, hfields.imp fun _ _ hm => hm.laidOut, ?_, ?_⟩
  · obtain ⟨object, hobject, hwritten⟩ := written_members hfields
    rw [Crate.writer, hencoding.1]
    exact ⟨_, _, object, bind_eq_ok.mpr ⟨object, hobject, rfl⟩, hwritten⟩
  · obtain ⟨entries, hentries, hread⟩ := exists_forall₂_between hfields
      (P := fun m entry => (Response.JsonBody.member b t m "object").map
        (Crate.fieldValue m) = .ok entry)
      (Q := fun f entry => ∃ e, f.Read b "object" e ∧
        entry = .line (.of [.field f.ident, ": ", e, ","]))
      fun m f hm => by
        obtain ⟨e, he, hread⟩ := hm.read "object"
        refine ⟨_, map_eq_ok.mpr ⟨e, he, rfl⟩, e, hread, ?_⟩
        rw [Crate.fieldValue, hm.laidOut.ident]
    rw [Crate.reader, hencoding.2]
    exact ⟨_, _, bind_eq_ok.mpr ⟨entries, mapM_eq_ok.mpr hentries, rfl⟩,
      readAll_of_entries hfields hread⟩

/-- One layout of each shape, and both emitters are code for it. -/
structure AgreesOnJson (b : Blueprint) : Prop where
  shapes : ∀ k format, (∃ shape, b.service.shape? k = some shape) →
    b.service.GuardedFrom k → b.RendersJson (b.value k) k format
  members : ∀ k t m, b.service.shape? k = some (.structure t) → m ∈ t.members →
    b.service.GuardedFrom m.shape → ∃ f, b.RendersField t m f
  structures : ∀ k t, b.service.shape? k = some (.structure t) →
    (∀ m ∈ t.members, b.service.GuardedFrom m.shape) → ∃ fields, b.RendersFields t fields
  /-- the shapes leave no choice for a layout -/
  laidOutOnce : ∀ format k layout layout', b.service.LaidOut format k layout →
    b.service.LaidOut format k layout' → layout = layout'
  /-- and neither does the code that reads it -/
  readOnce : ∀ (layout layout' : JsonLayout) x x' e, layout.Read b x e →
    layout'.Read b x' e → layout = layout'

/-- Whatever documents a service comes from, if it speaks JSON then every value
is read in the layout in which it is written. -/
theorem agrees_on_json {src : Sources} {s : Service} {selection : List String}
    (h : src.toService.result = .ok s) (hb : Blueprint.of s selection = .ok b)
    (hjson : s.metadata.protocol = .json ∨ s.metadata.protocol = .restJson) :
    b.AgreesOnJson := by
  obtain ⟨hready, rfl⟩ := ready_of_of h hb
  have hs := hready.closed
  exact
    { shapes := fun k format hk hguard =>
        renders_valueWithin hs _ k hk hguard (Service.spent_keys k) format
      members := fun _ _ _ hk hm hguard => renders_member hs hk hm hguard
      structures := fun _ _ hk hguard => renders_structure hs hjson hk hguard
      laidOutOnce := fun _ _ _ _ => Service.LaidOut.unique
      readOnce := fun _ _ _ _ _ => JsonLayout.Read.unique }

end Blueprint

/-! ## An example

The pages of a diary are kept by the day. What is written on a day is a list of
notes, and the times of each note are in a map; the map says nothing about their
format and neither does the member, so the format of their shape counts. -/

/-- The definition of the diary. -/
def Definition.diary : Definition where
  version := none
  metadata :=
    { apiVersion := "1", endpointPrefix := "diary",
      protocol := some "rest-json", protocols := [], serviceId := none,
      serviceAbbreviation := none, serviceFullName := none, jsonVersion := none,
      targetPrefix := none, xmlNamespace := none, signingName := none,
      signatureVersion := none }
  operations := []
  shapes :=
    [("Page", { ShapeEntry.bare "structure" with
        members := [("Day", { MemberEntry.bare "Time" with
            timestampFormat := some "rfc822" }),
          ("Notes", { MemberEntry.bare "Notes" with locationName := some "notes" })] }),
      ("Notes", { ShapeEntry.bare "list" with member := some ⟨"Times", none⟩ }),
      ("Times", { ShapeEntry.bare "map" with
        key := some ⟨"Text", none⟩, value := some ⟨"Time", none⟩ }),
      ("Text", ShapeEntry.bare "string"),
      ("Time", { ShapeEntry.bare "timestamp" with timestampFormat := some "iso8601" })]
  documentation := none

/-- The documents of the diary. -/
def Sources.diary : Sources where
  definition := Definition.diary
  givenName := none
  paginators := none
  waiters := none

/-- What holds another shape in the diary comes before it in this order. -/
def Definition.diaryRank (n : String) : Nat :=
  if n = "Notes" then 2 else if n = "Times" then 1 else 0

theorem Sources.guarded_diary {s : Service}
    (h : Sources.diary.toService.result = .ok s) : s.Guarded := by
  have hcheck : (Sources.diary.toService.result.map fun s => s.shapes.keys.all fun k =>
      (s.held k).all fun n => Definition.diaryRank n < Definition.diaryRank k) =
        .ok true := by decide
  rw [h] at hcheck
  have hall := List.all_eq_true.mp (Except.ok.inj hcheck)
  refine Service.guarded_of_rank Definition.diaryRank fun k n hn => ?_
  exact of_decide_eq_true (List.all_eq_true.mp (hall k hn.mem_keys) n (Service.holds_iff.mp hn))

namespace Blueprint

theorem agrees_on_diary : ∃ s b, Sources.diary.toService.result = .ok s ∧
    Blueprint.of s [] = .ok b ∧ s.metadata.protocol = .restJson ∧ s.Guarded ∧
      s.LaidOut .unixTimestamp "Notes" (.array (.object (.scalar (.timestamp .iso8601)))) ∧
        b.RendersJson (b.value "Notes") "Notes" .unixTimestamp ∧ b.AgreesOnJson := by
  have hshapes : (Sources.diary.toService.result.map fun s =>
      (s.metadata.protocol, s.shape? "Notes", s.shape? "Times", s.shape? "Time")) =
        .ok (.restJson, some (.list ⟨"Notes", ⟨"Times", none⟩, false, none⟩),
          some (.map ⟨"Times", ⟨"Text", none⟩, ⟨"Time", none⟩, false, none⟩),
          some (.scalar ⟨"Time", .timestamp, [], some .iso8601, false, false, none⟩)) := rfl
  obtain ⟨s, hs, hshapes⟩ := map_eq_ok.mp hshapes
  simp only [Prod.mk.injEq] at hshapes
  obtain ⟨hprotocol, hnotes, htimes, htime⟩ := hshapes
  have hknown : Usage.Known s [] := nofun
  obtain ⟨b, hb⟩ := exists_of_known hknown
  have hguarded := Sources.guarded_diary hs
  have hagrees := agrees_on_json hs hb (.inr hprotocol)
  obtain ⟨-, rfl⟩ := ready_of_of hs hb
  refine ⟨_, b, hs, hb, hprotocol, hguarded, .list hnotes (.map htimes ?_),
    hagrees.shapes _ _ ⟨_, hnotes⟩ (hguarded.guardedFrom _), hagrees⟩
  have hformat : b.service.heldFormat "Time" = .iso8601 := by
    rw [Service.heldFormat, Service.formatOf?, htime]
    rfl
  show b.service.LaidOut (b.service.heldFormat "Time") "Time" _
  rw [hformat]
  exact .scalar htime

end Blueprint

end Clientwright
