import Clientwright.Crate.Structures
import Clientwright.Proofs.Layouts

/-!
# Layouts of XML

In XML a value has a name, and whether a list is an element or just its items
depends on a flag of the shape or of the member that has the shape. A layout has
all of it: the element of each value, the wrapper that a list or map may have,
the names in an entry of a map, and the format of each timestamp.

`Written` and `Read` say what code there is for a layout, and both leave so
little open that code has one layout at most. So the walk that writes a value has
a layout, `writtenLayout`, and the walk that reads it has one, `readLayout`. The
theorems say of each walk that its code is code for that layout and for no other.
-/

namespace Clientwright

open Relation Outcome

/-! ## Layouts -/

/-- What a scalar looks like as text. -/
inductive XmlText where
  | plain
  | bytes
  | timestamp (format : TimestampFormat)
  deriving DecidableEq, Repr

/-- What a scalar of the kind looks like where the format is in force. -/
def XmlText.of (kind : ScalarKind) (format : TimestampFormat) : XmlText :=
  match kind with
  | .timestamp => .timestamp format
  | .blob => .bytes
  | _ => .plain

/-- What a value adds to the element that it is in. -/
inductive XmlLayout where
  | text (name : String) (text : XmlText)
  | structure (name owner : String)
  /-- its items one after the other, inside the wrapper if there is one -/
  | list (wrapper : Option String) (item : XmlLayout)
  /-- its entries, each an element with a key and a value -/
  | map (wrapper : Option String) (entry key : String) (value : XmlLayout)
  deriving DecidableEq, Repr

/-- The name of the one element that a value is, if it is one. -/
def XmlLayout.name? : XmlLayout → Option String
  | .text name _ | .structure name _ => some name
  | .list wrapper _ | .map wrapper _ _ _ => wrapper

/-- What a member adds to the element of its structure. -/
inductive XmlField where
  | attr (name : String) (text : XmlText)
  | element (layout : XmlLayout)
  deriving DecidableEq, Repr

/-! ## Code that writes -/

/-- The text of what the variable refers to. -/
def XmlText.written (x : String) : XmlText → Expr
  | plain => .of [.var x, ".to_string()"]
  | bytes => .of ["runtime::base64_encode(", .var x, ")"]
  | timestamp format =>
    .of ["runtime::format_timestamp(", .var x, ", ", .timestamp format, ")"]

/-- The loop, inside the wrapper if there is one. -/
def XmlLayout.enclosed (wrapper : Option String) (loop : Code) : Code :=
  match wrapper with
  | some name => Request.XmlBody.tagged name loop
  | none => loop

namespace XmlLayout

/-- The statements write what the variable refers to in the layout. -/
inductive Written : XmlLayout → String → Code → Prop where
  | text {name text x c}
      (h : c = .line (.of ["runtime::xml_element(out, ", .quoted name, ", &",
        text.written x, ");"])) :
      Written (.text name text) x c
  | structure {name owner x xmlns c}
      (h : c = .line (.of [.var x, ".", .convert .writeXml owner, "(", .quoted name, ", ",
        xmlns, ", out)?;"])) :
      Written (.structure name owner) x c
  | list {wrapper item x y inner c} (hitem : Written item y inner)
      (h : c = enclosed wrapper (.forEach (.var y) (.of [.var x, ".iter()"]) inner)) :
      Written (.list wrapper item) x c
  | map {wrapper entry key value x k y inner c} (hk : k ≠ y) (hvalue : Written value y inner)
      (h : c = enclosed wrapper (.forEach (.pair (.var k) (.var y)) (.of [.var x, ".iter()"])
        (Request.XmlBody.tagged entry
          (.line (.of ["runtime::xml_element(out, ", .quoted key, ", ", .var k, ");"]) ++
            inner)))) :
      Written (.map wrapper entry key value) x c

end XmlLayout

/-- The statement writes the member that is in the field. -/
inductive XmlField.Written (ident : String) : XmlField → Code → Prop where
  | attr {name text c}
      (h : c = .ifSet "value" "self" ident (.line (.of ["runtime::xml_attribute(out, ",
        .quoted name, ", &", text.written "value", ");"]))) :
      XmlField.Written ident (.attr name text) c
  | element {layout inner c} (hlayout : layout.Written "value" inner)
      (h : c = .ifSet "value" "self" ident inner) :
      XmlField.Written ident (.element layout) c

/-! ## Code that reads -/

/-- The functions that read scalars from some kind of place. -/
structure TextReaders where
  plain : List String
  bytes : String
  timestamp : String

/-- From the text of an element. -/
def TextReaders.ofElement : TextReaders where
  plain := ["runtime::xml::string(", "runtime::xml::number::<i32>(",
    "runtime::xml::number::<i64>(", "runtime::xml::number::<f32>(",
    "runtime::xml::number::<f64>(", "runtime::xml::boolean("]
  bytes := "runtime::xml::blob("
  timestamp := "runtime::xml::timestamp("

/-- From the text of an attribute. -/
def TextReaders.ofAttribute : TextReaders where
  plain := ["runtime::text::string(", "runtime::text::number::<i32>(",
    "runtime::text::number::<i64>(", "runtime::text::number::<f32>(",
    "runtime::text::number::<f64>(", "runtime::text::boolean(",
    "serde_json::from_str::<serde_json::Value>("]
  bytes := "runtime::text::blob("
  timestamp := "runtime::text::timestamp("

/-- The expression reads the text that the variable refers to. -/
def XmlText.Read (readers : TextReaders) (x : String) (e : Expr) : XmlText → Prop
  | plain => ∃ f ∈ readers.plain, ∃ rest, e = .of (.plain f :: .var x :: rest)
  | bytes => e = .of [.plain readers.bytes, .var x, ")"]
  | timestamp format =>
    e = .of [.plain readers.timestamp, .var x, ", ", .timestamp format, ")"]

namespace XmlLayout

/-- The expression reads the entry of a map that the variable refers to. -/
def entryRead (x key value k y parsed : String) (inner : Expr) : Expr :=
  .of ["runtime::xml::entry(", .var x, ", ", .quoted key, ", ", .quoted value,
    ").and_then(", .closure (.pair (.var k) (.var y)) (.of [inner, ".map(",
      .closure (.var parsed) (.of ["(", .var k, ", ", .var parsed, ")"]), ")"]), ")"]

/-- The expression reads a value of the layout from the element that the
variable refers to. -/
inductive Read (b : Blueprint) : XmlLayout → String → Expr → Prop where
  | text {name text x e} (h : text.Read .ofElement x e) : Read b (.text name text) x e
  | structure {name owner x e}
      (h : e = .of [b.typeItem owner, "::", .convert .fromXml owner, "(", .var x, ")"]) :
      Read b (.structure name owner) x e
  | list {wrapper item name x y inner e} (hname : item.name? = some name)
      (hitem : Read b item y inner)
      (h : e = .of ["runtime::xml::children(", .var x, ", ", .quoted name,
        ").into_iter().map(", .closure (.var y) inner,
        ").collect::<Result<Vec<_>, runtime::Error>>()"]) :
      Read b (.list (some wrapper) item) x e
  | map {wrapper entry key value name x z k y parsed inner e}
      (hk : k ≠ y ∧ k ≠ parsed) (hname : value.name? = some name)
      (hvalue : Read b value y inner)
      (h : e = .of ["runtime::xml::children(", .var x, ", ", .quoted entry,
        ").into_iter().map(", .closure (.var z) (entryRead z key name k y parsed inner),
        ").collect::<Result<std::collections::BTreeMap<_, _>, runtime::Error>>()"]) :
      Read b (.map (some wrapper) entry key value) x e

end XmlLayout

/-- The expression reads the member from the element of its structure. -/
inductive XmlField.Read (b : Blueprint) (node : String) : XmlField → Expr → Prop where
  | attr {name text inner e} (htext : text.Read .ofAttribute "value" inner)
      (h : e = .of ["runtime::xml::attribute(", .var node, ", ", .quoted name, ").map(",
        .closure (.var "value") inner, ").transpose()?"]) :
      XmlField.Read b node (.attr name text) e
  | child {layout name inner box e} (hname : layout.name? = some name)
      (hlayout : layout.Read b "value" inner)
      (h : e = .of ["runtime::xml::child(", .var node, ", ", .quoted name, ").map(",
        .closure (.var "value") (.of [inner, box]), ").transpose()?"]) :
      XmlField.Read b node (.element layout) e
  | items {item name y inner e} (hname : item.name? = some name)
      (hitem : item.Read b y inner)
      (h : e = .of ["runtime::xml::flattened(", .var node, ", ", .quoted name, ", ",
        .closure (.var y) inner, ")?"]) :
      XmlField.Read b node (.element (.list none item)) e
  | entries {entry key value name z k y parsed inner e} (hk : k ≠ y ∧ k ≠ parsed)
      (hname : value.name? = some name) (hvalue : value.Read b y inner)
      (h : e = .of ["runtime::xml::flattened(", .var node, ", ", .quoted entry, ", ",
        .closure (.var z) (XmlLayout.entryRead z key name k y parsed inner),
        ")?.map(|entries| entries.into_iter().collect())"]) :
      XmlField.Read b node (.element (.map none entry key value)) e

/-! ## The layouts of both walks -/

namespace Blueprint

/-- The layout in which a value is written under a name. -/
def writtenLayout (b : Blueprint) (name : String) (flattened : Bool)
    (format : TimestampFormat) : ValueShape → XmlLayout
  | .structure _ t => .structure name t.name
  | .scalar _ t => .text name (.of t.kind format)
  | .list _ l item =>
    let flat := flattened || l.flattened
    .list (if flat then none else some name)
      (b.writtenLayout (if flat then name else l.member.locationName.getD "member") false
        (b.bodyFormat item) item)
  | .map _ m _ values =>
    let flat := flattened || m.flattened
    .map (if flat then none else some name) (if flat then name else "entry")
      (m.key.locationName.getD "key")
      (b.writtenLayout (m.value.locationName.getD "value") false (b.bodyFormat values) values)
  -- There is no code for these.
  | .unknown _ | .endless _ => .text name .plain

/-- The layout in which a value is read under a name. -/
def readLayout (b : Blueprint) (name : String) (format : TimestampFormat) :
    ValueShape → XmlLayout
  | .structure _ t => .structure name t.name
  | .scalar _ t => .text name (.of t.kind format)
  | .list _ l item =>
    .list (some name)
      (b.readLayout (l.member.locationName.getD "member") (b.bodyFormat item) item)
  | .map _ m _ values =>
    .map (some name) "entry" (m.key.locationName.getD "key")
      (b.readLayout (m.value.locationName.getD "value") (b.bodyFormat values) values)
  | .unknown _ | .endless _ => .text name .plain

end Blueprint

/-! ## Code tells its layout -/

namespace Code

theorem forEach_inj {p p' : Pattern} {subject subject' : Expr} {body body' : Code}
    (h : forEach p subject body = forEach p' subject' body') :
    p.names = p'.names ∧ body = body' := by
  rw [forEach, forEach, block.injEq] at h
  exact ⟨h.2.1, h.2.2.1⟩

end Code

theorem Request.XmlBody.tagged_inj {name name' : String} {inner inner' : Code}
    (h : tagged name inner = tagged name' inner') : name = name' ∧ inner = inner' := by
  have hpieces : push ("<" ++ name ++ ">") = push ("<" ++ name' ++ ">") ∧ inner = inner' := by
    simp only [tagged, Code.all, List.foldr_cons, Code.seq.injEq] at h
    exact ⟨h.1, h.2.1⟩
  obtain ⟨hopen, hinner⟩ := hpieces
  rw [push, push, Code.line.injEq] at hopen
  simp only [Expr.of_cons_eq_of_cons, Expr.quoted.injEq, true_and, and_true] at hopen
  have hchars := congrArg String.toList hopen
  simp only [String.toList_append, List.append_cancel_right_eq, List.append_cancel_left_eq,
    String.toList_inj] at hchars
  exact ⟨hchars, hinner⟩

namespace XmlLayout

theorem enclosed_forEach_ne_line {wrapper : Option String} {p : Pattern} {subject e : Expr}
    {body : Code} : enclosed wrapper (.forEach p subject body) ≠ .line e := by
  cases wrapper with
  | none => exact nofun
  | some name => exact nofun

theorem enclosed_forEach_inj {wrapper wrapper' : Option String} {p p' : Pattern}
    {subject subject' : Expr} {body body' : Code}
    (h : enclosed wrapper (.forEach p subject body) =
      enclosed wrapper' (.forEach p' subject' body')) :
    wrapper = wrapper' ∧ p.names = p'.names ∧ body = body' := by
  cases wrapper with
  | none =>
      cases wrapper' with
      | none => exact ⟨rfl, Code.forEach_inj h⟩
      | some name' => cases h
  | some name =>
      cases wrapper' with
      | none => cases h
      | some name' =>
          obtain ⟨hname, hloop⟩ := Request.XmlBody.tagged_inj h
          exact ⟨congrArg some hname, Code.forEach_inj hloop⟩

end XmlLayout

/-! ## The walk that writes -/

theorem Request.scalarText_eq {kind : ScalarKind} {x : String} {format : TimestampFormat} :
    Request.scalarText kind x format = (XmlText.of kind format).written x := by
  cases kind <;> rfl

theorem XmlText.written_inj {x x' : String} {t t' : XmlText}
    (h : t.written x = t'.written x') : t = t' := by
  cases t <;> cases t' <;> simp_all [written]

namespace XmlLayout

variable {layout : XmlLayout} {x y k : String} {inner : Code} {wrapper : Option String}

theorem written_text_iff {name : String} {text : XmlText} :
    layout.Written x (.line (.of ["runtime::xml_element(out, ", .quoted name, ", &",
      text.written x, ");"])) ↔ layout = .text name text := by
  refine ⟨fun h => ?_, fun h => h ▸ .text rfl⟩
  cases h with
  | text h =>
      simp only [Code.line.injEq, Expr.of_cons_eq_of_cons, Expr.quoted.injEq] at h
      rw [h.2.1, XmlText.written_inj h.2.2.2.1]
  | «structure» h => simp at h
  | list _ h => exact absurd h.symm enclosed_forEach_ne_line
  | map _ _ h => exact absurd h.symm enclosed_forEach_ne_line

theorem written_structure_iff {name owner : String} {xmlns : Expr} :
    layout.Written x (.line (.of [.var x, ".", .convert .writeXml owner, "(", .quoted name,
      ", ", xmlns, ", out)?;"])) ↔ layout = .structure name owner := by
  refine ⟨fun h => ?_, fun h => h ▸ .structure rfl⟩
  cases h with
  | text h => simp at h
  | «structure» h =>
      simp only [Code.line.injEq, Expr.of_cons_eq_of_cons, Expr.quoted.injEq,
        Expr.convert.injEq] at h
      rw [h.2.2.1.2, h.2.2.2.2.1]
  | list _ h => exact absurd h.symm enclosed_forEach_ne_line
  | map _ _ h => exact absurd h.symm enclosed_forEach_ne_line

theorem written_list_iff :
    layout.Written x (enclosed wrapper
      (.forEach (.var y) (.of [.var x, ".iter()"]) inner)) ↔
        ∃ item, layout = .list wrapper item ∧ item.Written y inner := by
  constructor
  · intro h
    cases h with
    | text h => exact absurd h enclosed_forEach_ne_line
    | «structure» h => exact absurd h enclosed_forEach_ne_line
    | list hitem h =>
        obtain ⟨rfl, hnames, rfl⟩ := enclosed_forEach_inj h
        obtain rfl := List.head_eq_of_cons_eq hnames
        exact ⟨_, rfl, hitem⟩
    | map _ _ h =>
        obtain ⟨-, hnames, -⟩ := enclosed_forEach_inj h
        cases hnames
  · rintro ⟨item, rfl, hitem⟩
    exact .list hitem rfl

theorem written_map_iff {entry key : String} (hk : k ≠ y) :
    layout.Written x (enclosed wrapper
      (.forEach (.pair (.var k) (.var y)) (.of [.var x, ".iter()"])
        (Request.XmlBody.tagged entry
          (.line (.of ["runtime::xml_element(out, ", .quoted key, ", ", .var k, ");"]) ++
            inner)))) ↔
        ∃ value, layout = .map wrapper entry key value ∧ value.Written y inner := by
  constructor
  · intro h
    cases h with
    | text h => exact absurd h enclosed_forEach_ne_line
    | «structure» h => exact absurd h enclosed_forEach_ne_line
    | list _ h =>
        obtain ⟨-, hnames, -⟩ := enclosed_forEach_inj h
        cases hnames
    | map _ hvalue h =>
        obtain ⟨rfl, hnames, hbody⟩ := enclosed_forEach_inj h
        obtain ⟨rfl, hentry⟩ := Request.XmlBody.tagged_inj hbody
        obtain ⟨hkey, rfl⟩ := Code.seq.inj hentry
        simp only [Code.line.injEq, Expr.of_cons_eq_of_cons, Expr.quoted.injEq] at hkey
        obtain rfl := hkey.2.1
        obtain rfl := List.head_eq_of_cons_eq (List.tail_eq_of_cons_eq hnames)
        exact ⟨_, rfl, hvalue⟩
  · rintro ⟨value, rfl, hvalue⟩
    exact .map hk hvalue rfl

end XmlLayout

namespace Request.XmlBody

variable {b : Blueprint} {layout : XmlLayout}

/-- What a walk writes is in one layout. -/
theorem written_value_iff {v : ValueShape} {x : String} {element : Element}
    {format : TimestampFormat} {depth : Nat} {c : Code}
    (h : value b v x element format depth = .ok c) :
    layout.Written x c ↔ layout = b.writtenLayout element.name element.flattened format v := by
  induction v generalizing layout x element format depth c with
  | «structure» k t =>
      obtain rfl := Except.ok.inj h
      exact XmlLayout.written_structure_iff
  | scalar k t =>
      obtain rfl := Except.ok.inj h
      rw [scalarText_eq]
      exact XmlLayout.written_text_iff
  | list k l item ih =>
      obtain ⟨inner, hinner, h⟩ := bind_eq_ok.mp h
      have hc : c = XmlLayout.enclosed
          (if element.flattened || l.flattened then none else some element.name)
          (.forEach (.var (localName "item" depth)) (.of [.var x, ".iter()"]) inner) := by
        obtain rfl := pure_eq_ok.mp h
        split <;> rfl
      rw [hc, XmlLayout.written_list_iff, Blueprint.writtenLayout]
      constructor
      · rintro ⟨layout, rfl, hlayout⟩
        rw [(ih hinner).mp hlayout]
      · intro hlayout
        exact ⟨_, hlayout, (ih hinner).mpr rfl⟩
  | map k m keys values _ ih =>
      obtain ⟨inner, hinner, h⟩ := bind_eq_ok.mp h
      have hc : c = XmlLayout.enclosed
          (if element.flattened || m.flattened then none else some element.name)
          (.forEach (.pair (.var (localName "key" depth)) (.var (localName "item" depth)))
            (.of [.var x, ".iter()"])
            (tagged (if element.flattened || m.flattened then element.name else "entry")
              (.line (.of ["runtime::xml_element(out, ",
                .quoted (m.key.locationName.getD "key"), ", ",
                .var (localName "key" depth), ");"]) ++ inner))) := by
        obtain rfl := pure_eq_ok.mp h
        split <;> rfl
      rw [hc, XmlLayout.written_map_iff localName_key_ne_item, Blueprint.writtenLayout]
      constructor
      · rintro ⟨layout, rfl, hlayout⟩
        rw [(ih hinner).mp hlayout]
      · intro hlayout
        exact ⟨_, hlayout, (ih hinner).mpr rfl⟩
  | unknown k => cases h
  | endless k => cases h

end Request.XmlBody

/-! ## The walk that reads -/

/-- The functions for different texts have different names, and none of them is
one that reads a list or map. -/
structure TextReaders.Apart (readers : TextReaders) : Prop where
  bytes : readers.bytes ∉ readers.plain
  timestamp : readers.timestamp ∉ readers.plain
  both : readers.bytes ≠ readers.timestamp
  children : "runtime::xml::children(" ∉
    readers.bytes :: readers.timestamp :: readers.plain

theorem TextReaders.apart_ofElement : TextReaders.ofElement.Apart :=
  ⟨by decide, by decide, by decide, by decide⟩

theorem TextReaders.apart_ofAttribute : TextReaders.ofAttribute.Apart :=
  ⟨by decide, by decide, by decide, by decide⟩

namespace XmlText

variable {readers : TextReaders} {x x' : String} {e : Expr} {t t' : XmlText}

/-- The function that is called. -/
def call (readers : TextReaders) : XmlText → String → Prop
  | plain, f => f ∈ readers.plain
  | bytes, f => f = readers.bytes
  | timestamp _, f => f = readers.timestamp

theorem Read.exists_call (h : t.Read readers x e) :
    ∃ f rest, t.call readers f ∧ e = .of (.plain f :: .var x :: rest) := by
  cases t with
  | plain =>
      obtain ⟨f, hf, rest, rfl⟩ := h
      exact ⟨f, rest, hf, rfl⟩
  | bytes => exact ⟨_, _, rfl, h⟩
  | timestamp format => exact ⟨_, _, rfl, h⟩

theorem Read.unique (hreaders : readers.Apart) (h : t.Read readers x e)
    (h' : t'.Read readers x' e) : t = t' := by
  obtain ⟨f, rest, hf, he⟩ := h.exists_call
  obtain ⟨f', rest', hf', he'⟩ := h'.exists_call
  rw [he'] at he
  simp only [Expr.of_cons_eq_of_cons, Expr.plain.injEq] at he
  obtain rfl := he.1
  cases t <;> cases t' <;> simp only [call] at hf hf'
  case plain.plain | bytes.bytes => rfl
  case plain.bytes => exact absurd (hf' ▸ hf) hreaders.bytes
  case plain.timestamp => exact absurd (hf' ▸ hf) hreaders.timestamp
  case bytes.plain => exact absurd (hf ▸ hf') hreaders.bytes
  case bytes.timestamp => exact absurd (hf.symm.trans hf') hreaders.both
  case timestamp.plain => exact absurd (hf ▸ hf') hreaders.timestamp
  case timestamp.bytes => exact absurd (hf'.symm.trans hf) hreaders.both
  case timestamp.timestamp =>
    rw [Read] at h h'
    rw [h] at h'
    simp only [Expr.of_cons_eq_of_cons, Expr.timestamp.injEq] at h'
    rw [h'.2.2.2.1]

theorem Read.ne_children (hreaders : readers.Apart) {pieces : List Expr}
    (h : t.Read readers x e) : e ≠ .of (.plain "runtime::xml::children(" :: pieces) := by
  obtain ⟨f, rest, hf, rfl⟩ := h.exists_call
  intro he
  simp only [Expr.of_cons_eq_of_cons, Expr.plain.injEq] at he
  refine hreaders.children (he.1 ▸ ?_)
  cases t with
  | plain => exact List.mem_cons_of_mem _ (List.mem_cons_of_mem _ hf)
  | bytes => exact List.mem_cons.mpr (.inl hf)
  | timestamp format => exact List.mem_cons_of_mem _ (List.mem_cons.mpr (.inl hf))

theorem Read.ne_item {area : Area} {name : String} {pieces : List Expr}
    (h : t.Read readers x e) : e ≠ .of (.item area name :: pieces) := by
  obtain ⟨f, rest, -, rfl⟩ := h.exists_call
  simp

theorem read_scalar {b : Blueprint} {key : String} {s : ScalarShape}
    {format : TimestampFormat} : (XmlText.of s.kind format).Read .ofElement x
      (Response.XmlBody.scalar b key s x format) := by
  rw [Response.XmlBody.scalar]
  split
  next henum =>
    have hkind : s.kind = .string := (Service.isEnum_iff.mp henum).1
    rw [hkind]
    exact ⟨_, by decide, _, rfl⟩
  next =>
    cases s.kind with
    | timestamp => rfl
    | blob => rfl
    | _ => exact ⟨_, by decide, _, rfl⟩

theorem read_scalarFromText {b : Blueprint} {key : String} {s : ScalarShape}
    {format : TimestampFormat} : (XmlText.of s.kind format).Read .ofAttribute x
      (Response.scalarFromText b key s x format) := by
  rw [Response.scalarFromText]
  split
  next henum =>
    have hkind : s.kind = .string := (Service.isEnum_iff.mp henum).1
    rw [hkind]
    exact ⟨_, by decide, _, rfl⟩
  next =>
    cases s.kind with
    | timestamp => rfl
    | blob => rfl
    | _ => exact ⟨_, by decide, _, rfl⟩

end XmlText

namespace XmlLayout

variable {b : Blueprint} {layout : XmlLayout} {x y z k name : String} {inner e : Expr}

theorem read_text_iff {text : XmlText} (h : text.Read .ofElement x e) :
    layout.Read b x e ↔ ∃ name, layout = .text name text := by
  constructor
  · intro hlayout
    cases hlayout with
    | text h' => exact ⟨_, by rw [h.unique TextReaders.apart_ofElement h']⟩
    | «structure» h' => exact absurd h' h.ne_item
    | list _ _ h' => exact absurd h' (h.ne_children TextReaders.apart_ofElement)
    | map _ _ _ h' => exact absurd h' (h.ne_children TextReaders.apart_ofElement)
  · rintro ⟨name, rfl⟩
    exact .text h

theorem read_structure_iff {owner : String} :
    layout.Read b x (.of [b.typeItem owner, "::", .convert .fromXml owner, "(", .var x, ")"]) ↔
      ∃ name, layout = .structure name owner := by
  constructor
  · intro h
    cases h with
    | text h => exact absurd rfl h.ne_item
    | «structure» h =>
        simp only [Expr.of_cons_eq_of_cons, Expr.convert.injEq] at h
        exact ⟨_, by rw [h.2.2.1.2]⟩
    | list _ _ h => simp [Blueprint.typeItem] at h
    | map _ _ _ h => simp [Blueprint.typeItem] at h
  · rintro ⟨name, rfl⟩
    exact .structure rfl

theorem read_list_iff :
    layout.Read b x (.of ["runtime::xml::children(", .var x, ", ", .quoted name,
      ").into_iter().map(", .closure (.var y) inner,
      ").collect::<Result<Vec<_>, runtime::Error>>()"]) ↔
        ∃ wrapper item, layout = .list (some wrapper) item ∧ item.name? = some name ∧
          item.Read b y inner := by
  constructor
  · intro h
    cases h with
    | text h => exact absurd rfl (h.ne_children TextReaders.apart_ofElement)
    | «structure» h => simp [Blueprint.typeItem] at h
    | list hname hitem h =>
        simp only [Expr.of_cons_eq_of_cons, Expr.quoted.injEq, Expr.closure.injEq,
          Pattern.var.injEq] at h
        obtain ⟨-, -, -, rfl, -, ⟨rfl, rfl⟩, -⟩ := h
        exact ⟨_, _, rfl, hname, hitem⟩
    | map _ _ _ h => simp at h
  · rintro ⟨wrapper, item, rfl, hname, hitem⟩
    exact .list hname hitem rfl

theorem entryRead_inj {x' key key' value value' k' y' parsed parsed' : String} {inner' : Expr}
    (h : entryRead x key value k y parsed inner =
      entryRead x' key' value' k' y' parsed' inner') :
    key = key' ∧ value = value' ∧ y = y' ∧ inner = inner' := by
  simp only [entryRead, Expr.of_cons_eq_of_cons, Expr.quoted.injEq, Expr.closure.injEq,
    Pattern.pair.injEq, Pattern.var.injEq] at h
  obtain ⟨-, -, -, hkey, -, hvalue, -, ⟨⟨-, hy⟩, hinner, -⟩, -⟩ := h
  exact ⟨hkey, hvalue, hy, hinner⟩

theorem read_map_iff {entry key parsed : String} (hk : k ≠ y ∧ k ≠ parsed) :
    layout.Read b x (.of ["runtime::xml::children(", .var x, ", ", .quoted entry,
      ").into_iter().map(", .closure (.var z) (entryRead z key name k y parsed inner),
      ").collect::<Result<std::collections::BTreeMap<_, _>, runtime::Error>>()"]) ↔
        ∃ wrapper value, layout = .map (some wrapper) entry key value ∧
          value.name? = some name ∧ value.Read b y inner := by
  constructor
  · intro h
    cases h with
    | text h => exact absurd rfl (h.ne_children TextReaders.apart_ofElement)
    | «structure» h => simp [Blueprint.typeItem] at h
    | list _ _ h => simp at h
    | map _ hname hvalue h =>
        simp only [Expr.of_cons_eq_of_cons, Expr.quoted.injEq, Expr.closure.injEq] at h
        obtain ⟨-, -, -, rfl, -, ⟨-, hentry⟩, -⟩ := h
        obtain ⟨rfl, rfl, rfl, rfl⟩ := entryRead_inj hentry
        exact ⟨_, _, rfl, hname, hvalue⟩
  · rintro ⟨wrapper, value, rfl, hname, hvalue⟩
    exact .map hk hname hvalue rfl

end XmlLayout

namespace Response.XmlBody

variable {b : Blueprint} {layout : XmlLayout} {v : ValueShape} {x name : String}
  {format : TimestampFormat} {depth : Nat} {e : Expr}

/-- What a walk reads is in one layout, but for the name by which the element
was found. -/
theorem read_value_iff (hnamed : v.Named) (h : value b v x format depth = .ok e) :
    layout.Read b x e ∧ layout.name? = some name ↔ layout = b.readLayout name format v := by
  induction v generalizing layout x name format depth e with
  | «structure» k t =>
      obtain rfl := Except.ok.inj h
      have hname : t.name = k := hnamed k t (List.mem_singleton_self _)
      rw [hname, XmlLayout.read_structure_iff, Blueprint.readLayout, hname]
      constructor
      · rintro ⟨⟨name', rfl⟩, hfound⟩
        rw [Option.some.inj hfound]
      · rintro rfl
        exact ⟨⟨name, rfl⟩, rfl⟩
  | scalar k t =>
      obtain rfl := Except.ok.inj h
      rw [XmlLayout.read_text_iff XmlText.read_scalar, Blueprint.readLayout]
      constructor
      · rintro ⟨⟨name', rfl⟩, hfound⟩
        rw [Option.some.inj hfound]
      · rintro rfl
        exact ⟨⟨name, rfl⟩, rfl⟩
  | list k l item ih =>
      obtain ⟨inner, hinner, h⟩ := bind_eq_ok.mp h
      obtain rfl := pure_eq_ok.mp h
      rw [XmlLayout.read_list_iff, Blueprint.readLayout]
      constructor
      · rintro ⟨⟨wrapper, layout, rfl, hname, hlayout⟩, hfound⟩
        rw [Option.some.inj hfound, (ih hnamed hinner).mp ⟨hlayout, hname⟩]
      · rintro rfl
        obtain ⟨hlayout, hname⟩ := (ih hnamed hinner).mpr rfl
        exact ⟨⟨name, _, rfl, hname, hlayout⟩, rfl⟩
  | map k m keys values _ ih =>
      have hvalues : values.Named := hnamed.values
      obtain ⟨inner, hinner, h⟩ := bind_eq_ok.mp h
      obtain rfl := pure_eq_ok.mp h
      rw [Blueprint.readLayout]
      constructor
      · rintro ⟨hlayout, hfound⟩
        have hmap := XmlLayout.read_map_iff
          ⟨localName_key_ne_item, localName_key_ne_parsed⟩ |>.mp hlayout
        obtain ⟨wrapper, layout, rfl, hname, hlayout⟩ := hmap
        rw [Option.some.inj hfound, (ih hvalues hinner).mp ⟨hlayout, hname⟩]
      · rintro rfl
        obtain ⟨hlayout, hname⟩ := (ih hvalues hinner).mpr rfl
        exact ⟨.map ⟨localName_key_ne_item, localName_key_ne_parsed⟩ hname hlayout rfl, rfl⟩
  | unknown k => cases h
  | endless k => cases h

end Response.XmlBody

end Clientwright
