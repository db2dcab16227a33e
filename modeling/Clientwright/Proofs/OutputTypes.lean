import Clientwright.Proofs.Boxing
import Clientwright.Proofs.StatementTypes

/-!
# Types of outputs

The field of an output has the type that its member's shape is given, and the code that
fills the field is put together elsewhere, in one way for the body as a whole, in others
for its members, for headers and for the status. Here the two are brought together: what
is assigned has the type of the field, wherever it comes from.

There are two places that do not look at the shape as closely as they should. A body that
is one member as a whole is taken for a text if it is neither a structure nor a blob nor a
document, so a number is assigned a text. And the status is assigned to a member of any
shape. `Misread` names these members, and the assignments are wrong for them and for no
others.

Boxes come out right because a member is boxed only where its shape is a structure, which
is what the search for circles says of every service that was read from a text.
-/

namespace Clientwright

open Outcome Service Typing

/-! ## What is read -/

namespace Response

/-- A place where a member is read. -/
inductive Reading where
  /-- the member is the whole body -/
  | payload (m : Member)
  /-- a part of the body -/
  | body (m : Member)
  /-- headers, or the status -/
  | bound (m : Member)
  deriving DecidableEq, Repr

/-- The member that is read. -/
def Reading.member : Reading → Member
  | payload m | body m | bound m => m

/-- Is a member of the place read from headers or the status? -/
def isBound : Location → Bool
  | .header | .headers | .statusCode => true
  | .body | .uri | .querystring => false

/-- What the method reads, in order. -/
def readings (t : StructureShape) : List Reading :=
  (match t.payloadMember? with
    | some m => [.payload m]
    | none => t.bodyMembers.map .body) ++
  (t.members.filter fun m => isBound m.location).map .bound

/-- The readings that do not make what the member holds: the whole body is read as a
text for any scalar that is not a blob or a document, and the status as a number for
any member. -/
def Misread (b : Blueprint) : Reading → Prop
  | .payload m => ∃ s, b.service.shape? m.shape = some (.scalar s) ∧
      s.kind ∉ [.string, .blob, .document]
  | .body _ => False
  | .bound m => m.location = .statusCode ∧
      ¬ ∃ s, b.service.shape? m.shape = some (.scalar s) ∧ s.kind.holdsStatus = true

/-- The assignment is to the field of the member that is read, and what is assigned has
the type of the field unless the member is misread. -/
structure Matches (b : Blueprint) (t : StructureShape) (r : Reading) (a : Assignment) :
    Prop where
  field : a.field = Naming.fieldIdent r.member.name
  typed : ∃ type, b.memberType t r.member = .ok type ∧
    (a.type.fits (.option type.ty) = true ↔ ¬ Misread b r)

/-- What every statement of the method finds in scope. -/
structure Ready (vars : Variables) : Prop where
  output : vars.lookup "output" = some .owner
  response : vars.lookup "response" = some (.ref .response)

theorem Ready.cons {vars : Variables} {x : String} {type : Ty} (h : Ready vars)
    (hx : x ∉ ["output", "response"]) : Ready ((x, type) :: vars) := by
  have houtput : ("output" == x) = false := beq_false_of_ne fun h => hx (by simp [h])
  have hresponse : ("response" == x) = false := beq_false_of_ne fun h => hx (by simp [h])
  constructor
  · rw [List.lookup_cons, houtput, h.output]
  · rw [List.lookup_cons, hresponse, h.response]

/-- The code makes an assignment for each of the readings. -/
def Assigns (b : Blueprint) (t : StructureShape) (readings : List Reading) (c : Code) : Prop :=
  ∀ vars, Ready vars → ∃ l after,
    c.assignments? b.generatedTypes vars = some (l, after) ∧ Ready after ∧
      List.Forall₂ (Matches b t) readings l

variable {b : Blueprint} {t : StructureShape} {m : Member} {o : Operation} {v : ValueShape}

theorem assigns_empty : Assigns b t [] .empty := fun vars h => ⟨[], vars, rfl, h, .nil⟩

theorem assigns_seq {rs rs' : List Reading} {a c : Code} (ha : Assigns b t rs a)
    (hc : Assigns b t rs' c) : Assigns b t (rs ++ rs') (.seq a c) := by
  intro vars h
  obtain ⟨l, between, hl, hbetween, hforall⟩ := ha vars h
  obtain ⟨l', after, hl', hafter, hforall'⟩ := hc between hbetween
  exact ⟨l ++ l', after, Code.assignments?_seq hl hl', hafter, List.rel_append hforall hforall'⟩

/-! ## Types of members -/

/-- What the unfolded value says of the shape of a name. -/
def Unfolds (b : Blueprint) (k : String) : ValueShape → Prop
  | .structure key t => key = k ∧ b.service.shape? k = some (.structure t)
  | .scalar key s => key = k ∧ b.service.shape? k = some (.scalar s)
  | .list _ l _ => b.service.shape? k = some (.list l)
  | .map _ m _ _ => b.service.shape? k = some (.map m)
  | .unknown _ => b.service.shape? k = none
  | .endless _ => (∃ l, b.service.shape? k = some (.list l)) ∨
      ∃ m, b.service.shape? k = some (.map m)

theorem unfolds_value (b : Blueprint) (k : String) : Unfolds b k (b.value k) := by
  rw [Blueprint.value, Service.value, Service.valueWithin]
  cases hk : b.service.shape? k with
  | none => exact hk
  | some shape =>
      cases shape with
      | «structure» t => exact ⟨rfl, hk⟩
      | scalar s => exact ⟨rfl, hk⟩
      | list l =>
          dsimp only
          split
          · exact hk
          · exact .inl ⟨l, hk⟩
      | map m =>
          dsimp only
          split
          · exact hk
          · exact .inr ⟨m, hk⟩

theorem unfolds (h : b.value m.shape = v) : Unfolds b m.shape v := h ▸ unfolds_value b m.shape

theorem known_value (b : Blueprint) (k : String) : (b.value k).Known b :=
  fun _ _ h => (Service.mem_leaves_value_iff.mp h).2.1

/-- The members have types, and none of them is boxed that is not a structure. -/
structure Declared (b : Blueprint) (t : StructureShape) : Prop where
  types : ∀ m ∈ t.members, ∃ type, b.memberType t m = .ok type
  unboxed : ∀ m ∈ t.members, ¬ b.service.IsStructure m.shape → b.isBoxed t m = false

theorem memberType_of_typeOf {type : ValueType} (h : b.typeOf (b.value m.shape) = .ok type) :
    b.memberType t m = .ok (if b.isBoxed t m then .boxed type else type) := by
  rw [Blueprint.memberType, Blueprint.shapeType, h]
  rfl

theorem Declared.memberType {type : ValueType} (ht : Declared b t) (hm : m ∈ t.members)
    (hn : ¬ b.service.IsStructure m.shape) (h : b.typeOf (b.value m.shape) = .ok type) :
    b.memberType t m = .ok type := by
  rw [memberType_of_typeOf h, ht.unboxed m hm hn]
  rfl

theorem memberType_of_scalar {s : ScalarShape} (ht : Declared b t) (hm : m ∈ t.members)
    (hs : b.service.shape? m.shape = some (.scalar s)) :
    b.memberType t m =
      .ok (if s.isEnum then .generated (b.typeName m.shape) else .scalar s.kind) := by
  have hn : ¬ b.service.IsStructure m.shape := by
    rintro ⟨u, hu⟩
    cases hs.symm.trans hu
  refine ht.memberType hm hn ?_
  rw [Blueprint.value, Service.value, Service.valueWithin, hs]
  rfl

/-! ## The body as one member -/

theorem matches_of_typed {r : Reading} {type : ValueType} (h : b.memberType t r.member = .ok type)
    (hr : ¬ Misread b r) :
    Matches b t r ⟨Naming.fieldIdent r.member.name, .option type.ty⟩ where
  field := by dsimp only
  typed := ⟨type, h, by simp [hr]⟩

/-- What is collected of entries becomes the map that is wanted. -/
theorem matches_map {r : Reading} {type : ValueType}
    (h : b.memberType t r.member = .ok (.map type)) (hr : ¬ Misread b r) :
    Matches b t r ⟨Naming.fieldIdent r.member.name,
      .option (.collected (.pair (.scalar .string) type.ty))⟩ where
  field := by dsimp only
  typed := ⟨_, h, by simp [hr, Ty.fits, ValueType.ty]⟩

theorem assigns_assign {r : Reading} {e : Expr} (hr : r.member = m)
    (he : ∀ vars, Ready vars → ∃ given, e.Evaluates b.generatedTypes vars given ∧
      Matches b t r ⟨Naming.fieldIdent m.name, given⟩) : Assigns b t [r] (assign m e) := by
  subst hr
  intro vars h
  obtain ⟨given, hgiven, hmatches⟩ := he vars h
  exact ⟨_, vars, Expr.assignments?_assign h.output hgiven, h, .cons hmatches .nil⟩

/-- The whole body as a value that is there. -/
theorem assigns_some {e : Expr}
    (he : ∀ vars, Ready vars → ∃ given, e.Evaluates b.generatedTypes vars given ∧
      Matches b t (.payload m) ⟨Naming.fieldIdent m.name, .option given⟩) :
    Assigns b t [.payload m] (assign m (.of ["Some(", e, ")"])) := by
  refine assigns_assign rfl fun vars hvars => ?_
  obtain ⟨given, hgiven, hmatches⟩ := he vars hvars
  exact ⟨_, Expr.evaluates_some hgiven, hmatches⟩

/-- A text or a blob is what it is read as, and so is a document. -/
theorem fits_scalar (k k' : ScalarKind) :
    (Ty.option (.scalar k)).fits (.option (.scalar k')) = true ↔ k = k' := by
  simp [Ty.fits]

/-- Read as a text, a scalar has its type if it is one. -/
theorem matches_text {s : ScalarShape} (ht : Declared b t) (hm : m ∈ t.members)
    (hs : b.service.shape? m.shape = some (.scalar s)) (henum : s.isEnum = false)
    (hblob : s.kind ≠ .blob) (hdocument : s.kind ≠ .document) :
    Matches b t (.payload m) ⟨Naming.fieldIdent m.name, .option (.scalar .string)⟩ := by
  refine ⟨by dsimp only [Reading.member], .scalar s.kind, ?_, ?_⟩
  · rw [Reading.member, memberType_of_scalar ht hm hs, henum]
    rfl
  · have hmisread : Misread b (.payload m) ↔ s.kind ≠ .string := by
      simp [Misread, hs, hblob, hdocument]
    rw [ValueType.ty, fits_scalar, hmisread, not_not, eq_comm]

theorem payload_scalar_assigns {s : ScalarShape} (ht : Declared b t) (hm : m ∈ t.members)
    (hs : b.service.shape? m.shape = some (.scalar s)) :
    Assigns b t [.payload m] (
      match s.kind with
      | .blob => assign m (.of ["Some(", "response.body.clone()", ")"])
      | .document => assign m (.of ["Some(", "response.json()?", ")"])
      | _ =>
        if s.isEnum then
          assign m (.of ["Some(", .of [b.typeItem m.shape, "::from(response.text()?)"], ")"])
        else assign m (.of ["Some(", "response.text()?", ")"])) := by
  have htype := memberType_of_scalar ht hm hs
  have hread : ∀ type, b.memberType t m = .ok type → s.kind ∈ [.string, .blob, .document] →
      Matches b t (.payload m) ⟨Naming.fieldIdent m.name, .option type.ty⟩ := by
    intro type htype hkind
    refine matches_of_typed (r := .payload m) htype ?_
    rintro ⟨s', hs', hkind'⟩
    cases hs.symm.trans hs'
    exact hkind' hkind
  have hplain : s.kind ≠ .string → s.isEnum = false := by
    intro hkind
    simp [ScalarShape.isEnum, hkind]
  split
  next hkind =>
    rw [hplain (by simp [hkind]), hkind] at htype
    exact assigns_some fun vars hvars =>
      ⟨_, Expr.evaluates_responseBody hvars.response, hread _ htype (by simp [hkind])⟩
  next hkind =>
    rw [hplain (by simp [hkind]), hkind] at htype
    exact assigns_some fun vars hvars =>
      ⟨_, Expr.evaluates_responseJson hvars.response, hread _ htype (by simp [hkind])⟩
  next hblob hdocument =>
    split
    next henum =>
      rw [henum] at htype
      have hkind : s.kind = .string := by
        by_contra hkind
        exact absurd (hplain hkind) (by simp [henum])
      exact assigns_some fun vars hvars =>
        ⟨_, Expr.evaluates_fromText hvars.response (mem_enums hs henum),
          hread _ htype (by simp [hkind])⟩
    next henum =>
      exact assigns_some fun vars hvars =>
        ⟨_, Expr.evaluates_responseText hvars.response,
          matches_text ht hm hs (by simpa using henum) hblob hdocument⟩

/-- What is assigned while the document is in scope. -/
theorem assigns_withDocument {rs : List Reading} {inner : Code}
    (h : ∀ vars, Ready vars → vars.lookup "document" = some .tree → ∃ l inside,
      inner.assignments? b.generatedTypes vars = some (l, inside) ∧
        List.Forall₂ (Matches b t) rs l) : Assigns b t rs (withDocument inner) := by
  intro vars hvars
  have htext : Ready (("text", .scalar .string) :: vars) := hvars.cons (by decide)
  obtain ⟨l, inside, hl, hforall⟩ := h _ (htext.cons (by decide)) List.lookup_cons_self
  exact ⟨l, _, Code.assignments?_withDocument hvars.response hl, htext, hforall⟩

/-- A structure is read by its own function, and boxed where its field is. -/
theorem payload_assigns {c : Code} (ht : Declared b t) (hm : m ∈ t.members)
    (h : payload b t m = .ok c) : Assigns b t [.payload m] c := by
  rw [payload] at h
  split at h
  next k s hv =>
    obtain ⟨rfl, hs⟩ := unfolds hv
    obtain rfl := Except.ok.inj h
    exact payload_scalar_assigns ht hm hs
  next k u hv =>
    obtain ⟨rfl, hu⟩ := unfolds hv
    have htype := Blueprint.memberType_of_structure (t := t) hu
    have hboxed : ∀ vars (e : Expr),
        e.Evaluates b.generatedTypes vars (.generated (b.typeName m.shape)) → ∃ given,
          (if b.isBoxed t m then Expr.of ["Box::new(", e, ")"] else e).Evaluates
            b.generatedTypes vars given ∧
            Matches b t (.payload m) ⟨Naming.fieldIdent m.name, .option given⟩ := by
      intro vars e he
      have hmisread : ¬ Misread b (.payload m) := by
        rintro ⟨s, hs, -⟩
        cases hu.symm.trans hs
      split at htype
      next hbox =>
        rw [if_pos hbox]
        exact ⟨_, Expr.evaluates_box he, matches_of_typed (r := .payload m) htype hmisread⟩
      next hbox =>
        rw [if_neg hbox]
        exact ⟨_, he, matches_of_typed (r := .payload m) htype hmisread⟩
    split at h
    next =>
      obtain rfl := Except.ok.inj h
      exact assigns_some fun vars hvars =>
        hboxed _ _ (Expr.evaluates_fromJson hvars.response (mem_structures hu))
    next =>
      obtain rfl := Except.ok.inj h
      refine assigns_withDocument fun vars hvars hdocument => ?_
      obtain ⟨given, hgiven, hmatches⟩ :=
        hboxed _ _ (Expr.evaluates_fromXml hdocument (mem_structures hu))
      exact ⟨_, _, Expr.assignments?_assign hvars.output (Expr.evaluates_some hgiven),
        .cons hmatches .nil⟩
  next => cases h
  next => cases h
  next => cases h
  next => cases h

/-! ## Members of the body -/

/-- The value of a member that was read, with its box. -/
theorem boxing_reads {source : Ty} {e : Expr} (h : Reads b (b.value m.shape) "value" source e) :
    ∃ type, b.memberType t m = .ok type ∧ ∀ vars q, vars.lookup "value" = some q →
      q.passesAs source = true → (Expr.of [e, boxing b t m]).Typed b.generatedTypes vars
        (.result type.ty .error) := by
  obtain ⟨type, htype, he⟩ := h
  refine ⟨_, memberType_of_typeOf htype, fun vars q hx hq => ?_⟩
  rw [boxing]
  split
  · exact Expr.typed_boxed (he vars q hx hq)
  · intro operators inClosure frames
    have hvalue := he vars q hx hq operators inClosure frames
    simp [hvalue]

theorem not_misread_body : ¬ Misread b (.body m) := id

/-- An expression for a part of the body. -/
def GivesBody (b : Blueprint) (t : StructureShape) (vars : Variables) (m : Member) (e : Expr) :
    Prop :=
  ∃ given, e.Evaluates b.generatedTypes vars given ∧
    Matches b t (.body m) ⟨Naming.fieldIdent m.name, given⟩

theorem JsonBody.member_gives {object : String} {vars : Variables}
    (hobject : vars.lookup object = some (.ref .object)) :
    Yields (GivesBody b t vars m) (JsonBody.member b t m object) := by
  refine meets_bind (JsonBody.value_reads (known_value b m.shape)) fun inner hinner =>
    meets_pure ?_
  obtain ⟨type, htype, he⟩ := boxing_reads (t := t) hinner
  exact ⟨_, Expr.evaluates_found (q := .ref (.scalar .document)) (by simp) hobject fun vars hvars =>
      he vars _ hvars (by simp),
    matches_of_typed (r := .body m) htype not_misread_body⟩

theorem textOf_reads {name : String} {format : TimestampFormat} (hv : v.Known b) :
    Yields (fun e => (∃ k s, v = .scalar k s) ∧ Reads b v name (.ref .str) e)
      (textOf b v name format) := by
  cases v with
  | scalar k s =>
      exact meets_ok ⟨⟨k, s, rfl⟩, scalarFromText_reads (hv k _ List.mem_cons_self)⟩
  | «structure» _ _ | list _ _ _ | map _ _ _ _ | unknown _ | endless _ =>
      exact meets_error trivial

/-- What is read without a box is of a type that has none. -/
theorem Declared.exists_type (ht : Declared b t) (hm : m ∈ t.members)
    (hn : ∀ k u, b.value m.shape ≠ .structure k u) {type : ValueType}
    (h : b.typeOf (b.value m.shape) = .ok type) : b.memberType t m = .ok type := by
  refine ht.memberType hm ?_ h
  rintro ⟨u, hu⟩
  refine hn m.shape u ?_
  rw [Blueprint.value, Service.value, Service.valueWithin, hu]

theorem XmlBody.nested_gives {node : String} {vars : Variables} {format : TimestampFormat}
    (hnode : vars.lookup node = some .node) :
    Yields (GivesBody b t vars m) (do
      let inner ← XmlBody.value b (b.value m.shape) "value" format 0
      return .of ["runtime::xml::child(", .var node, ", ", .quoted m.wireName, ").map(",
        .closure "value" (.of [inner, boxing b t m]), ").transpose()?"]) := by
  refine meets_bind (XmlBody.value_reads (known_value b m.shape)) fun inner hinner =>
    meets_pure ?_
  obtain ⟨type, htype, he⟩ := boxing_reads (t := t) hinner
  exact ⟨_, Expr.evaluates_found (q := .node) (by simp) hnode fun vars hvars =>
      he vars _ hvars (by simp),
    matches_of_typed (r := .body m) htype not_misread_body⟩

theorem XmlBody.member_gives {node : String} {vars : Variables} (ht : Declared b t)
    (hm : m ∈ t.members) (hnode : vars.lookup node = some .node) :
    Yields (GivesBody b t vars m) (XmlBody.member b t m node) := by
  have hknown := known_value b m.shape
  rw [XmlBody.member]
  dsimp only
  split
  next =>
    refine meets_bind (textOf_reads hknown) fun inner hinner => meets_pure ?_
    obtain ⟨⟨k, s, hv⟩, type, htype, he⟩ := hinner
    have htype := ht.exists_type hm (by simp [hv]) htype
    exact ⟨_, Expr.evaluates_found (q := .ref .str) (by simp) hnode fun vars hvars =>
        he vars _ hvars (by simp),
      matches_of_typed (r := .body m) htype not_misread_body⟩
  next =>
    split
    next k l item hv =>
      split
      next =>
        rw [hv] at hknown
        refine meets_bind (XmlBody.value_reads (v := item) hknown) fun inner hinner =>
          meets_pure ?_
        obtain ⟨type, htype, he⟩ := hinner
        have htype : b.memberType t m = .ok (.list type) :=
          ht.exists_type hm (by simp [hv]) (by rw [hv, Blueprint.typeOf, htype]; rfl)
        exact ⟨_, Expr.evaluates_flattened hnode fun vars hvars => he vars _ hvars (by simp),
          matches_of_typed (r := .body m) htype not_misread_body⟩
      next => exact XmlBody.nested_gives hnode
    next k u keys values hv =>
      split
      next =>
        rw [hv] at hknown
        refine meets_bind (XmlBody.value_reads (v := values)
          fun n w h => hknown n w (List.mem_append_right _ h)) fun inner hinner => meets_pure ?_
        obtain ⟨type, htype, he⟩ := hinner
        have htype : b.memberType t m = .ok (.map type) :=
          ht.exists_type hm (by simp [hv]) (by rw [hv, Blueprint.typeOf, htype]; rfl)
        refine ⟨_, Expr.evaluates_flattenedMap hnode fun vars hvars =>
          Expr.typed_entry hvars (by simp) localName_key_ne_item localName_key_ne_parsed
            fun vars hvars => he vars _ hvars (by simp), ?_⟩
        exact matches_map (r := .body m) htype not_misread_body
      next => exact XmlBody.nested_gives hnode
    next => exact XmlBody.nested_gives hnode

theorem exists_assignments {f : Member → Except EmissionFault Expr} {vars : Variables}
    {l : List Member} {codes : List Code} (hvars : Ready vars)
    (h : (l.mapM fun m => (f m).map (assign m)) = .ok codes)
    (hf : ∀ m ∈ l, Yields (GivesBody b t vars m) (f m)) :
    ∃ as, (Code.all codes).assignments? b.generatedTypes vars = some (as, vars) ∧
      List.Forall₂ (Matches b t) (l.map .body) as := by
  have hcodes := mapM_eq_ok.mp h
  clear h
  induction hcodes with
  | nil => exact ⟨[], rfl, .nil⟩
  | cons hcode _ ih =>
      obtain ⟨e, he, rfl⟩ := map_eq_ok.mp hcode
      obtain ⟨given, hgiven, hmatches⟩ := (hf _ List.mem_cons_self).value he
      obtain ⟨as, has, hforall⟩ := ih fun m hm => hf m (List.mem_cons_of_mem _ hm)
      exact ⟨_, Code.assignments?_seq (Expr.assignments?_assign hvars.output hgiven) has,
        .cons hmatches hforall⟩

theorem mem_bodyMembers (hm : m ∈ t.bodyMembers) : m ∈ t.members := List.mem_of_mem_filter hm

theorem body_assigns {c : Code} (ht : Declared b t) (h : body b o t = .ok c) :
    Assigns b t (t.bodyMembers.map .body) c := by
  rw [body] at h
  dsimp only at h
  split at h
  next hempty =>
    obtain rfl := Except.ok.inj h
    rw [List.isEmpty_iff.mp hempty]
    exact assigns_empty
  next =>
    split at h
    next =>
      obtain ⟨codes, hcodes, h⟩ := bind_eq_ok.mp h
      obtain rfl := pure_eq_ok.mp h
      intro vars hvars
      have hbody : Ready (("body", .scalar .document) :: vars) := hvars.cons (by decide)
      have hobject : Ready (("object", .ref .object) :: ("body", .scalar .document) :: vars) :=
        hbody.cons (by decide)
      obtain ⟨as, has, hforall⟩ := exists_assignments hobject hcodes fun m _ =>
        JsonBody.member_gives List.lookup_cons_self
      refine ⟨as, _, ?_, hobject, hforall⟩
      have hlast : (Code.all [Code.all codes]).assignments? b.generatedTypes _ =
          some (as ++ [], _) := Code.assignments?_seq has rfl
      rw [List.append_nil] at hlast
      exact Code.assignments?_seq (Code.assignments?_json hvars.response)
        (Code.assignments?_seq (Code.assignments?_bind
          (Expr.evaluates_object List.lookup_cons_self)) hlast)
    next =>
      obtain ⟨codes, hcodes, h⟩ := bind_eq_ok.mp h
      obtain rfl := pure_eq_ok.mp h
      refine assigns_withDocument fun vars hvars hdocument => ?_
      have hnode : Ready (("node", .node) :: vars) := hvars.cons (by decide)
      obtain ⟨as, has, hforall⟩ := exists_assignments hnode hcodes fun m hm =>
        XmlBody.member_gives ht (mem_bodyMembers hm) List.lookup_cons_self
      refine ⟨as, _, Code.assignments?_seq (Code.assignments?_bind ?_) has, hforall⟩
      cases o.resultWrapper with
      | none => exact Expr.evaluates_root hdocument
      | some wrapper => exact Expr.evaluates_unwrapped hdocument

/-! ## Headers and the status -/

theorem headerOf_reads {name : String} {format : TimestampFormat} (hv : v.Known b) :
    Yields (fun e => (∀ k u, v ≠ .structure k u) ∧ Reads b v name (.ref .str) e)
      (headerOf b v name format) := by
  unfold headerOf
  split
  next k l item =>
    refine meets_bind (textOf_reads (v := item) hv) fun inner hinner => meets_pure ?_
    obtain ⟨-, type, htype, he⟩ := hinner
    refine ⟨?_, _, by rw [Blueprint.typeOf, htype]; rfl, fun vars q hx hq => ?_⟩
    · rintro k u ⟨⟩
    · exact Expr.typed_split hx hq fun vars hvars => he vars _ hvars (by simp)
  next =>
    refine meets_mono (textOf_reads hv) fun e he => ?_
    obtain ⟨⟨k, s, rfl⟩, he⟩ := he
    refine ⟨?_, he⟩
    rintro k u ⟨⟩

theorem not_misread_bound (h : m.location ≠ .statusCode) : ¬ Misread b (.bound m) :=
  fun hmisread => h hmisread.1

theorem fits_status (type : ValueType) :
    (Ty.option (.converted .status)).fits (.option type.ty) = true ↔
      ∃ kind, type = .scalar kind ∧ kind.holdsStatus = true := by
  cases type with
  | scalar kind =>
      have hbecomes : (Ty.option (.converted .status)).becomes (.option (.scalar kind)) =
        kind.holdsStatus := rfl
      simp [Ty.fits, ValueType.ty, hbecomes]
  | generated _ | list _ | map _ | boxed _ =>
      refine ⟨fun h => absurd (show false = true from h) Bool.false_ne_true, ?_⟩
      rintro ⟨kind, heq, -⟩
      cases heq

/-- Only a scalar has the type of one. -/
theorem exists_scalar_of_memberType {kind : ScalarKind}
    (h : b.memberType t m = .ok (.scalar kind)) :
    ∃ s, b.service.shape? m.shape = some (.scalar s) ∧ s.kind = kind := by
  obtain ⟨type, htype, h⟩ := map_eq_ok.mp h
  split at h
  next => cases h
  next =>
    subst h
    rw [Blueprint.shapeType] at htype
    have hv := unfolds_value b m.shape
    cases hvalue : b.value m.shape with
    | scalar k s =>
        rw [hvalue] at hv htype
        refine ⟨s, hv.2, ?_⟩
        rw [Blueprint.typeOf] at htype
        split at htype <;> simp_all
    | «structure» k u | unknown k | endless k =>
        rw [hvalue] at htype
        cases htype
    | list k l item | map k u keys item =>
        rw [hvalue, Blueprint.typeOf] at htype
        obtain ⟨_, -, h⟩ := map_eq_ok.mp htype
        cases h

/-- The status is what it is converted to if the type can hold it. -/
theorem matches_status (ht : Declared b t) (hm : m ∈ t.members)
    (hlocation : m.location = .statusCode) :
    Matches b t (.bound m) ⟨Naming.fieldIdent m.name, .option (.converted .status)⟩ where
  field := by dsimp only [Reading.member]
  typed := by
    obtain ⟨type, htype⟩ := ht.types m hm
    refine ⟨type, htype, ?_⟩
    rw [Misread, and_iff_right hlocation, not_not, fits_status]
    constructor
    · rintro ⟨kind, rfl, hkind⟩
      obtain ⟨s, hs, rfl⟩ := exists_scalar_of_memberType htype
      exact ⟨s, hs, hkind⟩
    · rintro ⟨s, hs, hkind⟩
      have henum : s.isEnum = false := by
        cases hkind' : s.kind <;> simp_all [ScalarShape.isEnum, ScalarKind.holdsStatus]
      have hscalar := memberType_of_scalar ht hm hs
      rw [henum] at hscalar
      exact ⟨s.kind, Except.ok.inj (htype.symm.trans hscalar), hkind⟩

theorem binding_assigns {c : Code} (ht : Declared b t) (hm : m ∈ t.members)
    (h : binding b t m = .ok c) :
    Assigns b t (if isBound m.location then [.bound m] else []) c := by
  have hknown := known_value b m.shape
  rw [binding] at h
  split at h
  next hlocation =>
    obtain ⟨inner, hinner, h⟩ := bind_eq_ok.mp h
    obtain rfl := pure_eq_ok.mp h
    obtain ⟨hn, type, htype, he⟩ := (headerOf_reads hknown).value hinner
    have htype := ht.exists_type hm hn htype
    rw [hlocation]
    refine assigns_assign rfl fun vars hvars =>
      ⟨_, Expr.evaluates_header hvars.response fun vars hvars => he vars _ hvars (by simp), ?_⟩
    exact matches_of_typed (r := .bound m) htype (not_misread_bound (by simp [hlocation]))
  next hlocation =>
    split at h
    next k u keys values hv =>
      obtain ⟨inner, hinner, h⟩ := bind_eq_ok.mp h
      obtain rfl := pure_eq_ok.mp h
      rw [hv] at hknown
      obtain ⟨-, type, htype, he⟩ :=
        (textOf_reads fun n w h => hknown n w (List.mem_append_right _ h)).value hinner
      have htype : b.memberType t m = .ok (.map type) :=
        ht.exists_type hm (by simp [hv]) (by rw [hv, Blueprint.typeOf, htype]; rfl)
      rw [hlocation]
      intro vars hvars
      have hprefixed : Ready (("prefixed", .map (.scalar .string)) :: vars) :=
        hvars.cons (by decide)
      refine ⟨_, _, Code.assignments?_seq (Code.assignments?_bind
        (Expr.evaluates_prefixed hvars.response)) (Code.assignments?_prefixed
          List.lookup_cons_self (Expr.assignments?_assign hprefixed.output
            (Expr.evaluates_headers List.lookup_cons_self fun vars hvars =>
              he vars _ hvars (by simp)))), hprefixed, .cons ?_ .nil⟩
      exact matches_map (r := .bound m) htype (not_misread_bound (by simp [hlocation]))
    next => cases h
    next => cases h
  next hlocation =>
    obtain rfl := Except.ok.inj h
    rw [hlocation]
    exact assigns_assign rfl fun vars hvars =>
      ⟨_, Expr.evaluates_responseStatus hvars.response, matches_status ht hm hlocation⟩
  all_goals
    next hlocation =>
      obtain rfl := Except.ok.inj h
      rw [hlocation]
      exact assigns_empty

theorem bindings_assigns {l : List Member} {codes : List Code} (ht : Declared b t)
    (hl : ∀ m ∈ l, m ∈ t.members) (h : l.mapM (binding b t) = .ok codes) :
    Assigns b t ((l.filter fun m => isBound m.location).map .bound) (Code.all codes) := by
  have hcodes := mapM_eq_ok.mp h
  clear h
  induction hcodes with
  | nil => exact assigns_empty
  | @cons m c l codes hcode _ ih =>
      have hrest := ih fun m hm => hl m (List.mem_cons_of_mem _ hm)
      have hfirst := binding_assigns ht (hl m List.mem_cons_self) hcode
      rw [List.filter_cons]
      split at hfirst
      next hbound =>
        rw [if_pos hbound]
        exact assigns_seq hfirst hrest
      next hbound =>
        rw [if_neg hbound]
        exact assigns_seq hfirst hrest

/-! ## The method -/

/-- The method with the name of its parameter. -/
def methodCode (parameter : String) (statements : Code) : Code :=
  .braces (.of ["pub(crate) fn from_response(", parameter,
    ": &runtime::Response) -> Result<Self, runtime::Error>"]) statements

/-- The statements of the method, of which the first and the last assign nothing. -/
theorem statements_assign {rs : List Reading} {read : Code} {codes : List Code}
    (ht : Declared b t) (hread : Assigns b t rs read)
    (hcodes : t.members.mapM (binding b t) = .ok codes) : ∃ l after,
    (Code.all [.text "let mut output = Self::default();", read, .all codes,
        .text "Ok(output)"]).assignments? b.generatedTypes [("response", .ref .response)] =
      some (l, after) ∧
      List.Forall₂ (Matches b t)
        (rs ++ (t.members.filter fun m => isBound m.location).map .bound) l := by
  have hready : Ready [("output", .owner), ("response", .ref .response)] := ⟨rfl, rfl⟩
  have hbound := bindings_assigns ht (fun _ hm => hm) hcodes
  obtain ⟨l, between, hl, hbetween, hforall⟩ := hread _ hready
  obtain ⟨l', after, hl', hafter, hforall'⟩ := hbound _ hbetween
  have hlast : (Code.all [.text "Ok(output)"]).assignments? b.generatedTypes after =
      some ([], after) := Code.assignments?_seq (Code.assignments?_ok hafter.output) rfl
  have hrest := Code.assignments?_seq hl (Code.assignments?_seq hl' hlast)
  rw [List.append_nil] at hrest
  exact ⟨_, _, Code.assignments?_seq (Code.assignments?_default _) hrest,
    List.rel_append hforall hforall'⟩

theorem method_assigns {c : Code} (ht : Declared b t) (h : method b o t = .ok c) :
    ∃ parameter statements l after, c = methodCode parameter statements ∧
      (parameter = "response" ∨ parameter = "_response") ∧
      statements.assignments? b.generatedTypes [(parameter, .ref .response)] = some (l, after) ∧
      List.Forall₂ (Matches b t) (readings t) l := by
  rw [method] at h
  dsimp only at h
  split at h
  next hempty =>
    obtain rfl := pure_eq_ok.mp h
    have hmembers : t.members = [] := List.isEmpty_iff.mp hempty
    have hnone : readings t = [] := by
      cases hpayload : t.payload <;>
        simp [readings, StructureShape.payloadMember?, StructureShape.member?,
          StructureShape.bodyMembers, hmembers, hpayload]
    refine ⟨_, _, [], _, rfl, .inr rfl, Code.assignments?_okDefault _, ?_⟩
    rw [hnone]
    exact .nil
  next =>
    split at h
    next m hm =>
      obtain ⟨read, hread, h⟩ := bind_eq_ok.mp h
      obtain ⟨bound, hbound, h⟩ := bind_eq_ok.mp h
      obtain rfl := pure_eq_ok.mp h
      obtain ⟨l, after, hl, hforall⟩ :=
        statements_assign ht (payload_assigns ht (Request.mem_of_payloadMember? hm) hread) hbound
      refine ⟨_, _, l, after, rfl, .inl rfl, hl, ?_⟩
      rw [readings, hm]
      exact hforall
    next hm =>
      obtain ⟨read, hread, h⟩ := bind_eq_ok.mp h
      obtain ⟨bound, hbound, h⟩ := bind_eq_ok.mp h
      obtain rfl := pure_eq_ok.mp h
      obtain ⟨l, after, hl, hforall⟩ := statements_assign ht (body_assigns ht hread) hbound
      refine ⟨_, _, l, after, rfl, .inl rfl, hl, ?_⟩
      rw [readings, hm]
      exact hforall

end Response

/-! ## The file -/

namespace Crate

variable {b : Blueprint} {t : StructureShape} {o : Operation} {types : GeneratedTypes}

/-- The opening line of the method is not one of a public function. -/
theorem public_ne_responseHead (s parameter : String) :
    "pub fn " ++ s ≠ Code.responseHead parameter := by
  intro h
  have hchars := congrArg (fun s => s.toList.take 4) h
  dsimp only [Code.responseHead] at hchars
  rw [String.toList_append, String.toList_append, String.toList_append, List.append_assoc,
    List.take_append_of_le_length (by decide), List.take_append_of_le_length (by decide)] at hchars
  exact absurd hchars (by decide)

theorem bodyOf?_implemented {name : String} {fields : List Field} {c : Code}
    (parameter : String) :
    (implemented name fields (some c)).bodyOf? (Code.responseHead parameter) =
      c.bodyOf? (Code.responseHead parameter) := by
  rw [implemented, Code.bodyOf?_pass (List.forall_mem_nil _), Code.bodyOf?_pass_braces,
    Code.bodyOf?_pass, Code.bodyOf?_pass (List.forall_mem_nil _), Code.bodyOf?_all_singleton]
  · rfl
  · intro x hx
    obtain ⟨_, hc, hx⟩ := Code.mem_blocks_all.mp hx
    obtain ⟨f, -, rfl⟩ := List.mem_map.mp hc
    obtain rfl : x = _ := List.mem_singleton.mp hx
    exact fun h => public_ne_responseHead _ parameter (String.append_assoc.symm.trans h)
  · exact public_ne_responseHead "new() -> Self \x7b" parameter

theorem bodyOf?_structCode {name : String} {fields : List Field} {methods : Option Code} :
    (structCode name fields methods).bodyOf? ("impl " ++ name ++ " \x7b") =
      some (implemented name fields methods) := by
  rw [structCode, Code.bodyOf?_pass (List.forall_mem_nil _), Code.bodyOf?_pass_braces,
    Code.bodyOf?_pass (List.forall_mem_nil _)]
  · exact Code.bodyOf?_braces (opening_text _ _)
  · rw [opening_text]
    intro h
    simpa using congrArg (·.toList.head?) h

theorem methodHead_text {parameter : String}
    (h : parameter = "response" ∨ parameter = "_response") :
    (Expr.of ["pub(crate) fn from_response(", .plain parameter,
        ": &runtime::Response) -> Result<Self, runtime::Error>"]).text ++ " \x7b" =
      Code.responseHead parameter := by
  rcases h with rfl | rfl <;> rfl

/-- The method is found by the name of its parameter. -/
theorem bodyOf?_methodCode {parameter : String} {statements : Code}
    (h : parameter = "response" ∨ parameter = "_response") :
    (Response.methodCode parameter statements).bodyOf? (Code.responseHead parameter) =
      some statements := by
  rw [← Code.bodyOf?_all_singleton]
  exact Code.bodyOf?_braces (methodHead_text h)

theorem bodyOf?_methodCode_unused {statements : Code} :
    (Response.methodCode "_response" statements).bodyOf? (Code.responseHead "response") =
      none := by
  rw [← Code.bodyOf?_all_singleton]
  refine Code.bodyOf?_pass_braces ?_
  rw [methodHead_text (.inr rfl)]
  decide

/-- The assignments of a response's method are the ones in the file. -/
theorem responseAssignments?_file {c : Code} {name title parameter : String}
    {fields : List Field} {statements : Code} {l : List Typing.Assignment} {after : Variables}
    (hc : c = Response.methodCode parameter statements)
    (hparameter : parameter = "response" ∨ parameter = "_response")
    (h : statements.assignments? types [(parameter, .ref .response)] = some (l, after)) :
    (Code.all [usingRuntime, .text title, structCode name fields c]).responseAssignments? types
      name = some l := by
  have himplementation : (Code.all [usingRuntime, .text title, structCode name fields
      (some c)]).bodyOf? ("impl " ++ name ++ " \x7b") = some (implemented name fields c) := by
    rw [Code.bodyOf?_pass (List.forall_mem_nil _), Code.bodyOf?_pass (List.forall_mem_nil _),
      Code.bodyOf?_all_singleton, bodyOf?_structCode]
  rw [Code.responseAssignments?, himplementation]
  subst hc
  rw [Option.bind_eq_bind, Option.bind_some]
  dsimp only
  rw [bodyOf?_implemented, bodyOf?_implemented]
  rcases hparameter with rfl | rfl
  · simp [bodyOf?_methodCode, h]
  · simp [bodyOf?_methodCode, bodyOf?_methodCode_unused, h]

/-- The fields of a structure have the types of its members. -/
theorem declared_of_fieldsOf {fields : List Field} (h : fieldsOf b t = .ok fields)
    (hboxes : b.BoxesCircles) {k : String} (hk : b.service.shape? k = some (.structure t)) :
    Response.Declared b t where
  types m hm := by
    obtain ⟨f, -, hf⟩ := exists_right_of_forall₂ (mapM_eq_ok.mp h) hm
    obtain ⟨type, htype, -⟩ := bind_eq_ok.mp hf
    exact ⟨_, by rw [Blueprint.memberType, htype]; rfl⟩
  unboxed m hm hn := (hboxes.unboxed k t m hk hm hn).1

/-- The file of an output makes an assignment for each reading. -/
theorem outputFile?_assigns {c : Code} (hboxes : b.BoxesCircles)
    (houtput : b.service.outputOf? o = some t) (h : outputFile? b o = .ok (some c)) :
    ∃ l, c.responseAssignments? b.generatedTypes (outputType o) = some l ∧
      List.Forall₂ (Response.Matches b t) (Response.readings t) l := by
  obtain ⟨k, -, hk⟩ := Option.bind_eq_some_iff.mp houtput
  have hk := Service.structure?_eq_some_iff.mp hk
  rw [outputFile?, houtput] at h
  obtain ⟨method, hmethod, h⟩ := bind_eq_ok.mp h
  obtain ⟨fields, hfields, h⟩ := bind_eq_ok.mp h
  obtain rfl := Option.some.inj (pure_eq_ok.mp h)
  obtain ⟨parameter, statements, l, after, hc, hparameter, hl, hforall⟩ :=
    Response.method_assigns (declared_of_fieldsOf hfields hboxes hk) hmethod
  exact ⟨l, responseAssignments?_file hc hparameter hl, hforall⟩

end Crate

/-- Whatever text a service was read from, the method that reads an output makes one
assignment for each member that it reads, and what it assigns has the type of the field,
but for the members that are misread. -/
theorem Sources.outputs_match {text : String} {src : Sources} {s : Service}
    {selection : List String} {b : Blueprint} {o : Operation} {t : StructureShape} {c : Code}
    (hread : Definition.ofText? text = some src.definition)
    (h : src.toService.result = .ok s) (hb : Blueprint.of s selection = .ok b)
    (houtput : s.outputOf? o = some t) (hcode : Crate.outputFile? b o = .ok (some c)) :
    ∃ l, c.responseAssignments? b.generatedTypes (Crate.outputType o) = some l ∧
      List.Forall₂ (Response.Matches b t) (Response.readings t) l := by
  obtain ⟨rfl, -⟩ := Blueprint.boxed_of hb
  exact Crate.outputFile?_assigns (Blueprint.boxes_circles hread h hb) houtput hcode

/-! ## An example

A gauge answers with nothing but its reading, and with a status. -/

/-- The text of a service with a gauge whose readings are of a type. -/
def gaugeText (type : String) : String :=
  "\x7b\"metadata\":\x7b\"apiVersion\":\"1\",\"endpointPrefix\":\"gauge\"," ++
  "\"protocol\":\"rest-json\"\x7d,\"operations\":\x7b\"ReadGauge\":\x7b" ++
  "\"http\":\x7b\"method\":\"GET\",\"requestUri\":\"/gauge\"\x7d," ++
  "\"output\":\x7b\"shape\":\"ReadGaugeOutput\"\x7d\x7d\x7d,\"shapes\":\x7b" ++
  "\"ReadGaugeOutput\":\x7b\"type\":\"structure\",\"payload\":\"Reading\",\"members\":\x7b" ++
  "\"Reading\":\x7b\"shape\":\"Reading\"\x7d,\"Code\":\x7b\"shape\":\"Code\"," ++
  "\"location\":\"statusCode\"\x7d\x7d\x7d,\"Reading\":\x7b\"type\":\"" ++ type ++
  "\"\x7d,\"Code\":\x7b\"type\":\"integer\"\x7d\x7d\x7d"

/-- The definition in the text. -/
def Definition.gauge (type : String) : Definition where
  version := none
  metadata :=
    { apiVersion := "1", endpointPrefix := "gauge",
      protocol := some "rest-json", protocols := [], serviceId := none,
      serviceAbbreviation := none, serviceFullName := none, jsonVersion := none,
      targetPrefix := none, xmlNamespace := none, signingName := none,
      signatureVersion := none }
  operations :=
    [("ReadGauge",
      { name := none, http := { method := "GET", requestUri := "/gauge" },
        input := none, output := some ⟨"ReadGaugeOutput", none⟩,
        errors := [], documentation := none, deprecated := false })]
  shapes :=
    [("ReadGaugeOutput", { ShapeEntry.bare "structure" with
        payload := some "Reading",
        members := [
          ("Reading", MemberEntry.bare "Reading"),
          ("Code", { MemberEntry.bare "Code" with location := some "statusCode" })] }),
      ("Reading", ShapeEntry.bare type),
      ("Code", ShapeEntry.bare "integer")]
  documentation := none

/-- The documents of the gauge. -/
def Sources.gauge (type : String) : Sources where
  definition := Definition.gauge type
  givenName := none
  paginators := none
  waiters := none

theorem Definition.ofText?_gauge :
    Definition.ofText? (gaugeText "string") = some (Definition.gauge "string") ∧
      Definition.ofText? (gaugeText "integer") = some (Definition.gauge "integer") := by
  -- The pieces of the texts are taken apart before they are read.
  unfold Definition.ofText? Json.ofText? gaugeText
  simp only [String.toList_append]
  decide +kernel

/-- The blueprint of the gauge. -/
def gaugeBlueprint (s : Service) : Blueprint :=
  ⟨s, ⟨["ReadGauge"], [], [], []⟩, TypeNames.assign s, s.boxedMembers⟩

/-- What is seen of the output: the assignments and the types of the members. -/
structure OutputTypes where
  assignments : Option (List Assignment)
  members : List (String × Except EmissionFault ValueType)
  deriving DecidableEq

/-- What is seen of an output and its file. -/
def OutputTypes.of (b : Blueprint) (o : Operation) (t : StructureShape) (c : Code) :
    OutputTypes where
  assignments := c.responseAssignments? b.generatedTypes (Crate.outputType o)
  members := t.members.map fun m => (m.name, b.memberType t m)

/-- The file of the gauge's output is written. -/
theorem exists_gauge (type : String) (types : OutputTypes)
    (husage : ((Sources.gauge type).toService.result.map fun s =>
      Usage.analyze s []) = .ok (.ok ⟨["ReadGauge"], [], [], []⟩))
    (houtput : ((Sources.gauge type).toService.result.map fun s =>
      (s.operation? "ReadGauge").bind fun o => (s.outputOf? o).map fun t =>
        (Crate.outputFile? (gaugeBlueprint s) o).map
          (·.map (OutputTypes.of (gaugeBlueprint s) o t))) =
      .ok (some (.ok (some types)))) :
    ∃ s b o t c, (Sources.gauge type).toService.result = .ok s ∧ Blueprint.of s [] = .ok b ∧
      s.outputOf? o = some t ∧ Crate.outputFile? b o = .ok (some c) ∧
        OutputTypes.of b o t c = types := by
  obtain ⟨s, hs, husage⟩ := map_eq_ok.mp husage
  rw [hs] at houtput
  obtain ⟨o, ho, houtput⟩ := Option.bind_eq_some_iff.mp (Except.ok.inj houtput)
  obtain ⟨t, ht, houtput⟩ := Option.map_eq_some_iff.mp houtput
  obtain ⟨found, hfound, hmap⟩ := map_eq_ok.mp houtput
  obtain ⟨c, rfl, htypes⟩ := Option.map_eq_some_iff.mp hmap
  have hb : Blueprint.of s [] = .ok (gaugeBlueprint s) := bind_eq_ok.mpr ⟨_, husage, rfl⟩
  exact ⟨s, gaugeBlueprint s, o, t, c, hs, hb, ht, hfound, htypes⟩

/-- What is seen of the gauge's output, for a reading that is a text and one that is a number. -/
theorem outputs_gauge : ∀ p ∈ [("string", ScalarKind.string), ("integer", ScalarKind.integer)],
    ((Sources.gauge p.1).toService.result.map fun s =>
      (s.operation? "ReadGauge").bind fun o => (s.outputOf? o).map fun t =>
        (Crate.outputFile? (gaugeBlueprint s) o).map
          (·.map (OutputTypes.of (gaugeBlueprint s) o t))) =
      .ok (some (.ok (some
        ⟨some [⟨"reading", .option (.scalar .string)⟩, ⟨"code", .option (.converted .status)⟩],
          [("Reading", .ok (.scalar p.2)), ("Code", .ok (.scalar .integer))]⟩))) := by
  decide +kernel

/-- A reading that is a text is assigned as one, and the status goes into a number. -/
theorem reading_matches : ∃ s b o t c l, (Sources.gauge "string").toService.result = .ok s ∧
    Blueprint.of s [] = .ok b ∧ s.outputOf? o = some t ∧
      Crate.outputFile? b o = .ok (some c) ∧
        c.responseAssignments? b.generatedTypes (Crate.outputType o) = some l ∧
          l = [⟨"reading", .option (.scalar .string)⟩, ⟨"code", .option (.converted .status)⟩] ∧
            List.Forall₂ (Response.Matches b t) (Response.readings t) l := by
  obtain ⟨s, b, o, t, c, hs, hb, ht, hc, htypes⟩ := exists_gauge "string"
    ⟨some [⟨"reading", .option (.scalar .string)⟩, ⟨"code", .option (.converted .status)⟩],
      [("Reading", .ok (.scalar .string)), ("Code", .ok (.scalar .integer))]⟩
    (by cbv) (outputs_gauge ("string", .string) (by simp))
  obtain ⟨l, hl, hforall⟩ :=
    Sources.outputs_match Definition.ofText?_gauge.1 hs hb ht hc
  have hassignments := congrArg OutputTypes.assignments htypes
  exact ⟨s, b, o, t, c, l, hs, hb, ht, hc, hl, Option.some.inj (hl.symm.trans hassignments),
    hforall⟩

/-- A reading that is a number is assigned as a text as well. -/
theorem reading_mistyped : ∃ s b o t c l, Definition.ofText? (gaugeText "integer") =
      some (Sources.gauge "integer").definition ∧
    (Sources.gauge "integer").toService.result = .ok s ∧ Blueprint.of s [] = .ok b ∧
      s.outputOf? o = some t ∧ Crate.outputFile? b o = .ok (some c) ∧
        c.responseAssignments? b.generatedTypes (Crate.outputType o) = some l ∧
          ∃ a ∈ l, ∃ m ∈ t.members, ∃ type, a.field = Naming.fieldIdent m.name ∧
            b.memberType t m = .ok type ∧ a.type.fits (.option type.ty) = false := by
  obtain ⟨s, b, o, t, c, hs, hb, ht, hc, htypes⟩ := exists_gauge "integer"
    ⟨some [⟨"reading", .option (.scalar .string)⟩, ⟨"code", .option (.converted .status)⟩],
      [("Reading", .ok (.scalar .integer)), ("Code", .ok (.scalar .integer))]⟩
    (by cbv) (outputs_gauge ("integer", .integer) (by simp))
  have hmembers : ("Reading", .ok (.scalar .integer)) ∈
      t.members.map fun m => (m.name, b.memberType t m) := by
    rw [show (t.members.map fun m => (m.name, b.memberType t m)) = _ from
      congrArg OutputTypes.members htypes]
    exact List.mem_cons_self
  obtain ⟨m, hm, heq⟩ := List.mem_map.mp hmembers
  obtain ⟨hname, htype⟩ := Prod.mk.inj heq
  refine ⟨s, b, o, t, c, _, Definition.ofText?_gauge.2, hs, hb, ht, hc,
    congrArg OutputTypes.assignments htypes, _, List.mem_cons_self, m, hm, _, ?_, htype, ?_⟩
  · rw [hname]
    decide
  · decide

end Clientwright
