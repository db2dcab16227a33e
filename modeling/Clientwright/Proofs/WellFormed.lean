import Clientwright.Definition.Conversion
import Clientwright.Definition.Reader
import Clientwright.Proofs.Closed
import Clientwright.Proofs.Outcomes
import Clientwright.Proofs.PathCuts
import Clientwright.Proofs.Tables
import Mathlib.Tactic.ByContra

/-!
# Which definitions are services

`toService` answers with the first fault it meets. What a definition has to be
so that there is none is said here without it: `WellFormed` goes through the
document part by part and asks of each part what its kind needs, with the known
names written out and references as membership among the shapes of the document.

The two agree, in both directions, which is the theorem at the end. A check that
is missing breaks one of them and a check too many the other. Shapes refer to
each other in circles and a document structure stops being a structure once it
is converted, so neither side follows references: a shape is well formed by its
own parts and by the names that exist, and only operations look at what a name
stands for.

An object of a document has each name once. The lists of a `Definition` do not
say so by themselves, hence `Distinct`, and `distinct_ofText?` is why nobody has
to check it.
-/

namespace Clientwright

open Outcome

namespace Definition

/-! ## What a definition has to be -/

/-- There is a shape of the name. -/
def Defines (d : Definition) (name : String) : Prop := ∃ s, (name, s) ∈ d.shapes

/-- There is a structure of the name, and its content is not any document. -/
def DefinesStructure (d : Definition) (name : String) : Prop :=
  ∃ s, (name, s) ∈ d.shapes ∧ s.type = "structure" ∧ s.document = false

/-- Shapes and operations have each name once. -/
structure Distinct (d : Definition) : Prop where
  shapes : (d.shapes.map (·.1)).Nodup
  operations : (d.operations.map (·.1)).Nodup

/-- The protocol that the service speaks: the one that is named, or the first
known one that is offered. -/
def MetadataEntry.Speaks (m : MetadataEntry) (p : Protocol) : Prop :=
  m.protocol = some p.name ∨
    m.protocol = none ∧ ∃ before after, m.protocols = before ++ p.name :: after ∧
      ∀ name ∈ before, ∀ q : Protocol, name ≠ q.name

/-- The metadata say how to speak to the service. -/
structure MetadataEntry.WellFormed (m : MetadataEntry) : Prop where
  protocol : (∃ p : Protocol, m.protocol = some p.name) ∨
    m.protocol = none ∧ ∃ p : Protocol, p.name ∈ m.protocols
  target : m.Speaks .json → ∃ target, m.targetPrefix = some target

/-- No format of timestamps is named, or a known one. -/
def KnownFormat (format : Option String) : Prop :=
  ∀ name, format = some name → name ∈ ["iso8601", "unixTimestamp", "rfc822"]

/-- No location is named, or a known one. -/
def KnownLocation (location : Option String) : Prop :=
  ∀ name, location = some name →
    name ∈ ["header", "headers", "querystring", "uri", "statusCode"]

/-- The types of shapes that are scalars. -/
def scalarTypes : List String :=
  ["string", "byte", "short", "integer", "long", "float", "double", "boolean",
    "timestamp", "blob"]

/-- A member has a shape that exists, and what it names is known. -/
structure MemberEntry.WellFormed (d : Definition) (m : MemberEntry) : Prop where
  shape : d.Defines m.shape
  location : KnownLocation m.location
  timestampFormat : KnownFormat m.timestampFormat

/-- A shape has the parts that its type needs. -/
inductive ShapeEntry.WellFormed (d : Definition) (s : ShapeEntry) : Prop where
  | document (type : s.type = "structure") (document : s.document = true)
  | record (type : s.type = "structure") (document : s.document = false)
      (required : ∀ name ∈ s.required, name ∈ s.members.map (·.1))
      (payload : ∀ name, s.payload = some name → name ∈ s.members.map (·.1))
      (members : ∀ m ∈ s.members, m.2.WellFormed d)
  | list (type : s.type = "list") {r : ShapeRef} (member : s.member = some r)
      (resolved : d.Defines r.shape)
  | map (type : s.type = "map") {k v : ShapeRef} (key : s.key = some k)
      (value : s.value = some v) (keyResolved : d.Defines k.shape)
      (valueResolved : d.Defines v.shape)
  | scalar (type : s.type ∈ scalarTypes)
      (timestampFormat : KnownFormat s.timestampFormat)

/-- A member of the input that stands in the URI goes by the placeholder's name. -/
def OperationEntry.Binds (d : Definition) (o : OperationEntry) (p : Placeholder) :
    Prop :=
  ∃ r s, o.input = some r ∧ (r.shape, s) ∈ d.shapes ∧
    ∃ m ∈ s.members, m.2.location = some "uri" ∧
      m.2.locationName.getD m.1 = p.name

/-- What an operation refers to exists, and its placeholders are bound. -/
structure OperationEntry.WellFormed (d : Definition) (o : OperationEntry) : Prop where
  input : ∀ r, o.input = some r → d.DefinesStructure r.shape
  output : ∀ r, o.output = some r → d.DefinesStructure r.shape
  errors : ∀ r ∈ o.errors, d.Defines r.shape
  placeholders : ∀ name, ∀ p ∈ (o.toOperation name).http.placeholders, o.Binds d p

/-- The placeholders are a matter of the path alone: it can be cut in one way only, and
they are what stands between the braces there. -/
theorem OperationEntry.forall_binds_iff (d : Definition) (o : OperationEntry) (name : String) :
    ∃ cut : Request.PathCut,
      (∀ other : Request.PathCut, other.Sound ∧ other.filled Request.PathCut.braced =
        (o.toOperation name).http.path.toList ↔ other = cut) ∧
      ((∀ p ∈ (o.toOperation name).http.placeholders, o.Binds d p) ↔
        ∀ place ∈ cut.places, o.Binds d (.ofInner place.2)) := by
  obtain ⟨cut, hunique, hplaceholders⟩ := Request.PathCut.exists_unique (o.toOperation name).http
  refine ⟨cut, hunique, ?_⟩
  rw [← hplaceholders, Request.PathCut.placeholders, List.forall_mem_map]

/-- The definition can be made into a service. -/
structure WellFormed (d : Definition) : Prop where
  metadata : d.metadata.WellFormed
  shapes : ∀ e ∈ d.shapes, e.2.WellFormed d
  operations : ∀ e ∈ d.operations, e.2.WellFormed d

/-! ## Definitions that were read -/

theorem nodup_of_withDefault {α : Type} {r : Json.Record} {name : String}
    {read : Json → Option α} {l : List (String × α)}
    (h : r.withDefault name (Json.entries? read) [] = some l) :
    (l.map (·.1)).Nodup := by
  rw [Json.Record.withDefault] at h
  split at h
  · obtain rfl := Option.some.inj h
    exact List.nodup_nil
  · rw [Json.entries?, Option.map_eq_some_iff] at h
    obtain ⟨members, -, rfl⟩ := h
    exact nodup_mergeEntries members

/-- A repeated name is merged when a document is read, so the definition has it
only once. -/
theorem distinct_ofText? {text : String} {d : Definition}
    (h : Definition.ofText? text = some d) : d.Distinct := by
  simp only [Definition.ofText?, Definition.ofJson?, Option.bind_eq_bind,
    Option.bind_eq_some_iff] at h
  obtain ⟨v, -, r, -, version, -, metadata, -, operations, hoperations,
    shapes, hshapes, documentation, -, h⟩ := h
  obtain rfl := Option.some.inj h
  exact ⟨nodup_of_withDefault hshapes, nodup_of_withDefault hoperations⟩

/-! ## Known names

Each of the three look-ups by name knows exactly the names that are written out
above. -/

theorem protocol_ofName?_iff {name : String} {p : Protocol} :
    Protocol.ofName? name = some p ↔ name = p.name := by
  constructor
  · intro h
    rw [Protocol.ofName?] at h
    have hp := List.find?_some h
    exact (eq_of_beq hp).symm
  · rintro rfl
    exact Protocol.ofName?_name p

theorem protocol_name_inj {p q : Protocol} : p.name = q.name ↔ p = q := by
  rw [← protocol_ofName?_iff, Protocol.ofName?_name, Option.some.injEq]

theorem protocol_ofName?_eq_none_iff {name : String} :
    Protocol.ofName? name = none ↔ ∀ p : Protocol, name ≠ p.name := by
  rw [Option.eq_none_iff_forall_ne_some]
  exact forall_congr' fun p => not_congr protocol_ofName?_iff

theorem timestampFormat?_succeeds {owner : String} {format : Option String} :
    Succeeds (timestampFormat? owner format) ↔ KnownFormat format := by
  cases format with
  | none => exact ⟨fun _ _ h => (nomatch h), fun _ => succeeds_ok _⟩
  | some name =>
      have hnames : name ∈ ["iso8601", "unixTimestamp", "rfc822"] ↔
          ∃ f, TimestampFormat.ofName? name = some f := by
        constructor
        · intro h
          simp only [List.mem_cons, List.not_mem_nil, or_false] at h
          rcases h with rfl | rfl | rfl
          · exact ⟨_, TimestampFormat.ofName?_name .iso8601⟩
          · exact ⟨_, TimestampFormat.ofName?_name .unixTimestamp⟩
          · exact ⟨_, TimestampFormat.ofName?_name .rfc822⟩
        · rintro ⟨f, hf⟩
          rw [TimestampFormat.ofName?] at hf
          have hname := List.find?_some hf
          obtain rfl := eq_of_beq hname
          cases f <;> simp [TimestampFormat.name]
      have hknown : KnownFormat (some name) ↔
          name ∈ ["iso8601", "unixTimestamp", "rfc822"] :=
        ⟨fun h => h name rfl, fun h n e => Option.some.inj e ▸ h⟩
      rw [hknown, hnames, timestampFormat?]
      cases TimestampFormat.ofName? name with
      | none =>
          exact ⟨fun h => absurd h (not_succeeds_error _),
            fun ⟨_, h⟩ => nomatch h⟩
      | some f => exact ⟨fun _ => ⟨f, rfl⟩, fun _ => succeeds_ok _⟩

theorem location_ofName?_isSome {location : Option String} :
    (∃ l, Location.ofName? location = some l) ↔ KnownLocation location := by
  constructor
  · rintro ⟨l, h⟩ name rfl
    unfold Location.ofName? at h
    split at h <;> simp_all
  · intro h
    cases location with
    | none => exact ⟨.body, rfl⟩
    | some name =>
        have hname := h name rfl
        simp only [List.mem_cons, List.not_mem_nil, or_false] at hname
        rcases hname with rfl | rfl | rfl | rfl | rfl <;> exact ⟨_, rfl⟩

theorem location_ofName?_uri_iff {location : Option String} :
    Location.ofName? location = some .uri ↔ location = some "uri" := by
  constructor
  · intro h
    unfold Location.ofName? at h
    split at h <;> simp_all
  · rintro rfl
    rfl

theorem scalarKind_ofTypeName?_isSome {type : String} :
    (∃ kind, ScalarKind.ofTypeName? type = some kind) ↔ type ∈ scalarTypes := by
  constructor
  · rintro ⟨kind, h⟩
    unfold ScalarKind.ofTypeName? at h
    split at h <;> simp_all [scalarTypes]
  · intro h
    simp only [scalarTypes, List.mem_cons, List.not_mem_nil, or_false] at h
    rcases h with rfl | rfl | rfl | rfl | rfl | rfl | rfl | rfl | rfl | rfl <;>
      exact ⟨_, rfl⟩

/-! ## Metadata -/

theorem find?_known_eq_some_iff {names : List String} {name : String} :
    names.find? (fun n => (Protocol.ofName? n).isSome) = some name ↔
      ∃ p : Protocol, name = p.name ∧ ∃ before after,
        names = before ++ p.name :: after ∧
          ∀ n ∈ before, ∀ q : Protocol, n ≠ q.name := by
  have hunknown : ∀ n, (!(Protocol.ofName? n).isSome) = true ↔
      ∀ q : Protocol, n ≠ q.name := by
    intro n
    rw [← protocol_ofName?_eq_none_iff]
    simp
  rw [List.find?_eq_some_iff_append, Option.isSome_iff_exists]
  constructor
  · rintro ⟨⟨p, hp⟩, before, after, hnames, hbefore⟩
    obtain rfl := protocol_ofName?_iff.mp hp
    exact ⟨p, rfl, before, after, hnames,
      fun n hn => (hunknown n).mp (hbefore n hn)⟩
  · rintro ⟨p, rfl, before, after, hnames, hbefore⟩
    exact ⟨⟨p, Protocol.ofName?_name p⟩, before, after, hnames,
      fun n hn => (hunknown n).mpr (hbefore n hn)⟩

theorem MetadataEntry.protocol?_eq_ok_iff {m : MetadataEntry} {p : Protocol} :
    m.protocol? = .ok p ↔ m.Speaks p := by
  rw [MetadataEntry.protocol?, MetadataEntry.Speaks]
  cases m.protocol with
  | some name =>
      simp only [Option.some_or, Option.some.injEq, reduceCtorEq, false_and,
        or_false, ← protocol_ofName?_iff]
      cases Protocol.ofName? name with
      | some q => simp
      | none => simp
  | none =>
      simp only [Option.none_or, reduceCtorEq, true_and, false_or]
      cases hfound : m.protocols.find? fun n => (Protocol.ofName? n).isSome with
      | some name =>
          obtain ⟨q, rfl, hq⟩ := find?_known_eq_some_iff.mp hfound
          simp only [Protocol.ofName?_name, Except.ok.injEq]
          constructor
          · rintro rfl
            exact hq
          · intro hp
            have h := find?_known_eq_some_iff.mpr ⟨p, rfl, hp⟩
            rw [hfound, Option.some.injEq] at h
            exact protocol_name_inj.mp h
      | none =>
          refine ⟨nofun, fun hp => ?_⟩
          have h := find?_known_eq_some_iff.mpr ⟨p, rfl, hp⟩
          rw [hfound] at h
          cases h

/-- Some protocol is spoken exactly if one is named that is known, or none is
named and a known one offered. -/
theorem MetadataEntry.exists_speaks_iff {m : MetadataEntry} :
    (∃ p, m.Speaks p) ↔ (∃ p : Protocol, m.protocol = some p.name) ∨
      m.protocol = none ∧ ∃ p : Protocol, p.name ∈ m.protocols := by
  constructor
  · rintro ⟨p, h | ⟨hm, before, after, hp, -⟩⟩
    · exact .inl ⟨p, h⟩
    · refine .inr ⟨hm, p, ?_⟩
      rw [hp]
      exact List.mem_append_right _ List.mem_cons_self
  · rintro (⟨p, h⟩ | ⟨hm, p, hp⟩)
    · exact ⟨p, .inl h⟩
    · have hsome : (m.protocols.find? fun n => (Protocol.ofName? n).isSome).isSome :=
        List.find?_isSome.mpr ⟨p.name, hp, by rw [Protocol.ofName?_name]; rfl⟩
      obtain ⟨name, hname⟩ := Option.isSome_iff_exists.mp hsome
      obtain ⟨q, -, hq⟩ := find?_known_eq_some_iff.mp hname
      exact ⟨q, .inr ⟨hm, hq⟩⟩

theorem MetadataEntry.convert_succeeds {m : MetadataEntry} :
    Succeeds m.convert ↔ m.WellFormed := by
  have hconvert : Succeeds m.convert ↔
      ∃ p, m.Speaks p ∧ ¬ (p = .json ∧ m.targetPrefix.isNone = true) := by
    rw [MetadataEntry.convert, succeeds_bind]
    refine exists_congr fun p => ?_
    rw [protocol?_eq_ok_iff]
    refine and_congr_right fun _ => ?_
    by_cases h : p = .json ∧ m.targetPrefix.isNone = true
    · rw [if_pos h]
      exact ⟨fun hs => absurd hs (by rintro ⟨_, h⟩; cases h),
        fun hn => absurd h hn⟩
    · rw [if_neg h]
      exact ⟨fun _ => h, fun _ => succeeds_ok _⟩
  rw [hconvert]
  constructor
  · rintro ⟨p, hp, hn⟩
    refine ⟨exists_speaks_iff.mp ⟨p, hp⟩, fun hjson => ?_⟩
    obtain rfl : p = .json :=
      Except.ok.inj ((protocol?_eq_ok_iff.mpr hp).symm.trans
        (protocol?_eq_ok_iff.mpr hjson))
    exact Option.ne_none_iff_exists'.mp fun h => hn ⟨rfl, by rw [h]; rfl⟩
  · rintro ⟨hprotocol, htarget⟩
    obtain ⟨p, hp⟩ := exists_speaks_iff.mpr hprotocol
    refine ⟨p, hp, ?_⟩
    rintro ⟨rfl, hnone⟩
    obtain ⟨target, h⟩ := htarget hp
    rw [h] at hnone
    cases hnone

/-! ## Members and shapes -/

theorem shape?_isSome_iff {d : Definition} {name : String} :
    (∃ s, d.shape? name = some s) ↔ d.Defines name := by
  rw [← Option.isSome_iff_exists, Definition.shape?, List.lookup_isSome_iff]
  simp [Defines]

theorem MemberEntry.convert_eq_ok {d : Definition} {owner : ShapeEntry}
    {ownerName : String} {e : String × MemberEntry} {m : Member}
    (h : MemberEntry.convert d owner ownerName e = .ok m) :
    e.2.WellFormed d ∧ m.name = e.1 ∧ m.shape = e.2.shape ∧
      Location.ofName? e.2.location = some m.location ∧
      m.locationName = e.2.locationName := by
  obtain ⟨name, entry⟩ := e
  simp only [MemberEntry.convert] at h
  split at h
  next target htarget =>
    split at h
    next location hlocation =>
      obtain ⟨format, hformat, h⟩ := bind_eq_ok.mp h
      obtain rfl := pure_eq_ok.mp h
      exact ⟨⟨shape?_isSome_iff.mp ⟨target, htarget⟩,
        location_ofName?_isSome.mp ⟨location, hlocation⟩,
        timestampFormat?_succeeds.mp ⟨format, hformat⟩⟩, rfl, rfl, hlocation, rfl⟩
    next => cases h
  next => cases h

theorem MemberEntry.convert_succeeds {d : Definition} {owner : ShapeEntry}
    {ownerName : String} {e : String × MemberEntry} :
    Succeeds (MemberEntry.convert d owner ownerName e) ↔ e.2.WellFormed d := by
  constructor
  · rintro ⟨m, h⟩
    exact (MemberEntry.convert_eq_ok h).1
  · rintro ⟨hshape, hlocation, hformat⟩
    obtain ⟨target, htarget⟩ := shape?_isSome_iff.mpr hshape
    obtain ⟨location, hlocation⟩ := location_ofName?_isSome.mpr hlocation
    unfold MemberEntry.convert
    simp only [htarget, hlocation]
    obtain ⟨format, hformat⟩ := timestampFormat?_succeeds.mpr hformat
    exact succeeds_bind.mpr ⟨format, hformat, succeeds_ok _⟩

theorem ShapeEntry.hasMember_iff {s : ShapeEntry} {name : String} :
    s.hasMember name = true ↔ name ∈ s.members.map (·.1) := by
  simp [ShapeEntry.hasMember, List.any_eq_true, List.mem_map]

/-- What a structure needs: the names it lists are members, and the members are
sound. -/
structure ShapeEntry.SoundStructure (d : Definition) (s : ShapeEntry) : Prop where
  required : ∀ name ∈ s.required, name ∈ s.members.map (·.1)
  payload : ∀ name, s.payload = some name → name ∈ s.members.map (·.1)
  members : ∀ m ∈ s.members, m.2.WellFormed d

theorem ShapeEntry.structure?_eq {d : Definition} {name : String} {s : ShapeEntry}
    (hrequired : ∀ r ∈ s.required, r ∈ s.members.map (·.1))
    (hpayload : ∀ p, s.payload = some p → p ∈ s.members.map (·.1)) :
    s.structure? d name =
      (s.members.mapM (MemberEntry.convert d s name)).map fun members => {
        name, members, payload := s.payload, exception := s.exception
        errorCode := s.error.bind (·.code), locationName := s.locationName
        xmlNamespace := s.xmlNamespace, union := s.union
        documentation := s.documentation, deprecated := s.deprecated } := by
  have hr : s.required.find? (fun r => !s.hasMember r) = none := by
    rw [List.find?_eq_none]
    intro r h
    rw [ShapeEntry.hasMember_iff.mpr (hrequired r h)]
    exact Bool.false_ne_true
  have hp : s.payload.filter (fun p => !s.hasMember p) = none := by
    rw [Option.filter_eq_none_iff]
    intro p h
    rw [ShapeEntry.hasMember_iff.mpr (hpayload p h)]
    exact Bool.false_ne_true
  rw [ShapeEntry.structure?, hr, hp]
  cases s.members.mapM (MemberEntry.convert d s name) with
  | ok members => rfl
  | error e => rfl

theorem ShapeEntry.structure?_eq_ok {d : Definition} {name : String}
    {s : ShapeEntry} {t : StructureShape} (h : s.structure? d name = .ok t) :
    s.SoundStructure d ∧ t.name = name ∧
      List.Forall₂ (fun e m => MemberEntry.convert d s name e = .ok m)
        s.members t.members := by
  have hrequired : ∀ r ∈ s.required, r ∈ s.members.map (·.1) := by
    intro r hr
    by_contra hn
    have hsome : (s.required.find? fun r => !s.hasMember r).isSome :=
      List.find?_isSome.mpr ⟨r, hr, by
        simpa [← ShapeEntry.hasMember_iff] using hn⟩
    obtain ⟨m, hm⟩ := Option.isSome_iff_exists.mp hsome
    rw [ShapeEntry.structure?, hm] at h
    cases h
  have hpayload : ∀ p, s.payload = some p → p ∈ s.members.map (·.1) := by
    intro p hp
    by_contra hn
    have hsome : s.payload.filter (fun p => !s.hasMember p) = some p := by
      rw [hp, Option.filter_some, if_pos]
      simpa [← ShapeEntry.hasMember_iff] using hn
    rw [ShapeEntry.structure?, hsome] at h
    split at h <;> cases h
  rw [ShapeEntry.structure?_eq hrequired hpayload] at h
  obtain ⟨members, hmembers, rfl⟩ := map_eq_ok.mp h
  refine ⟨⟨hrequired, hpayload, fun m hm => ?_⟩, rfl, mapM_eq_ok.mp hmembers⟩
  exact MemberEntry.convert_succeeds.mp (succeeds_mapM.mp ⟨members, hmembers⟩ m hm)

theorem ShapeEntry.structure?_succeeds {d : Definition} {name : String}
    {s : ShapeEntry} : Succeeds (s.structure? d name) ↔ s.SoundStructure d := by
  constructor
  · rintro ⟨t, h⟩
    exact (ShapeEntry.structure?_eq_ok h).1
  · rintro ⟨hrequired, hpayload, hmembers⟩
    rw [ShapeEntry.structure?_eq hrequired hpayload, succeeds_map, succeeds_mapM]
    exact fun m hm => MemberEntry.convert_succeeds.mpr (hmembers m hm)

theorem resolve_eq_ok {d : Definition} {owner : String} {r t : ShapeRef} :
    resolve d owner r = .ok t ↔ d.Defines r.shape ∧ r = t := by
  rw [resolve, ← shape?_isSome_iff, ← Option.isSome_iff_exists]
  cases (d.shape? r.shape).isSome with
  | true => simp
  | false => simp

theorem ShapeEntry.list?_eq_ok {d : Definition} {name : String} {s : ShapeEntry}
    {l : ListShape} (h : s.list? d name = .ok l) :
    s.member = some l.member ∧ d.Defines l.member.shape ∧ l.name = name := by
  unfold ShapeEntry.list? at h
  split at h
  next r hr =>
    obtain ⟨r', hr', h⟩ := bind_eq_ok.mp h
    obtain ⟨hd, rfl⟩ := resolve_eq_ok.mp hr'
    obtain rfl := pure_eq_ok.mp h
    exact ⟨hr, hd, rfl⟩
  next => cases h

theorem ShapeEntry.list?_succeeds {d : Definition} {name : String}
    {s : ShapeEntry} : Succeeds (s.list? d name) ↔
      ∃ r, s.member = some r ∧ d.Defines r.shape := by
  constructor
  · rintro ⟨l, h⟩
    obtain ⟨hr, hd, -⟩ := ShapeEntry.list?_eq_ok h
    exact ⟨_, hr, hd⟩
  · rintro ⟨r, hr, hd⟩
    rw [ShapeEntry.list?, hr]
    exact succeeds_bind.mpr ⟨r, resolve_eq_ok.mpr ⟨hd, rfl⟩, succeeds_ok _⟩

theorem ShapeEntry.map?_eq_ok {d : Definition} {name : String} {s : ShapeEntry}
    {m : MapShape} (h : s.map? d name = .ok m) :
    (s.key = some m.key ∧ s.value = some m.value) ∧
      (d.Defines m.key.shape ∧ d.Defines m.value.shape) ∧ m.name = name := by
  unfold ShapeEntry.map? at h
  split at h
  next key value hends =>
    obtain ⟨hkey, hvalue⟩ := Prod.mk.inj hends
    obtain ⟨k, hk, h⟩ := bind_eq_ok.mp h
    obtain ⟨hdk, rfl⟩ := resolve_eq_ok.mp hk
    obtain ⟨v, hv, h⟩ := bind_eq_ok.mp h
    obtain ⟨hdv, rfl⟩ := resolve_eq_ok.mp hv
    obtain rfl := pure_eq_ok.mp h
    exact ⟨⟨hkey, hvalue⟩, ⟨hdk, hdv⟩, rfl⟩
  next => cases h

theorem ShapeEntry.map?_succeeds {d : Definition} {name : String}
    {s : ShapeEntry} : Succeeds (s.map? d name) ↔
      ∃ k v, (s.key = some k ∧ s.value = some v) ∧
        d.Defines k.shape ∧ d.Defines v.shape := by
  constructor
  · rintro ⟨m, h⟩
    obtain ⟨hends, hd, -⟩ := ShapeEntry.map?_eq_ok h
    exact ⟨_, _, hends, hd⟩
  · rintro ⟨k, v, ⟨hk, hv⟩, hdk, hdv⟩
    rw [ShapeEntry.map?, hk, hv]
    exact succeeds_bind.mpr ⟨k, resolve_eq_ok.mpr ⟨hdk, rfl⟩,
      succeeds_bind.mpr ⟨v, resolve_eq_ok.mpr ⟨hdv, rfl⟩, succeeds_ok _⟩⟩

theorem ShapeEntry.scalar?_succeeds {name : String} {s : ShapeEntry}
    {kind : ScalarKind} :
    Succeeds (s.scalar? name kind) ↔ KnownFormat s.timestampFormat := by
  rw [ShapeEntry.scalar?, succeeds_bind, ← timestampFormat?_succeeds]
  exact exists_congr fun _ => and_iff_left (succeeds_ok _)

/-- Which conversion a shape gets, by its type. -/
theorem ShapeEntry.convert_cases (d : Definition) (name : String)
    (s : ShapeEntry) :
    (s.type = "structure" ∧ s.document = true ∧
      s.convert d name = .ok (.scalar (s.documentScalar name))) ∨
    (s.type = "structure" ∧ s.document = false ∧
      s.convert d name = (s.structure? d name).map .structure) ∨
    (s.type = "list" ∧ s.convert d name = (s.list? d name).map .list) ∨
    (s.type = "map" ∧ s.convert d name = (s.map? d name).map .map) ∨
    (∃ kind, ScalarKind.ofTypeName? s.type = some kind ∧
      s.convert d name = (s.scalar? name kind).map .scalar) ∨
    ((s.type ≠ "structure" ∧ s.type ≠ "list" ∧ s.type ≠ "map" ∧
        s.type ∉ scalarTypes) ∧
      s.convert d name = .error (.unknownType name s.type)) := by
  unfold ShapeEntry.convert
  split
  next htype =>
    cases hdoc : s.document with
    | true => exact .inl ⟨htype, rfl, rfl⟩
    | false => exact .inr (.inl ⟨htype, rfl, rfl⟩)
  next htype => exact .inr (.inr (.inl ⟨htype, rfl⟩))
  next htype => exact .inr (.inr (.inr (.inl ⟨htype, rfl⟩)))
  next hstructure hlist hmap =>
    cases hkind : ScalarKind.ofTypeName? s.type with
    | some kind => exact .inr (.inr (.inr (.inr (.inl ⟨kind, rfl, rfl⟩))))
    | none =>
        refine .inr (.inr (.inr (.inr (.inr ⟨⟨hstructure, hlist, hmap, ?_⟩, rfl⟩))))
        rw [← scalarKind_ofTypeName?_isSome, hkind]
        exact fun ⟨_, h⟩ => nomatch h

theorem ShapeEntry.wellFormed_structure_iff {d : Definition} {s : ShapeEntry}
    (htype : s.type = "structure") (hdoc : s.document = false) :
    s.WellFormed d ↔ s.SoundStructure d := by
  constructor
  · intro h
    cases h with
    | document _ h => rw [hdoc] at h; cases h
    | record _ _ hrequired hpayload hmembers =>
        exact ⟨hrequired, hpayload, hmembers⟩
    | list h | map h => rw [htype] at h; simp at h
    | scalar h => rw [htype] at h; simp [scalarTypes] at h
  · rintro ⟨hrequired, hpayload, hmembers⟩
    exact .record htype hdoc hrequired hpayload hmembers

theorem ShapeEntry.wellFormed_list_iff {d : Definition} {s : ShapeEntry}
    (htype : s.type = "list") :
    s.WellFormed d ↔ ∃ r, s.member = some r ∧ d.Defines r.shape := by
  constructor
  · intro h
    cases h with
    | list _ hr hd => exact ⟨_, hr, hd⟩
    | document h | record h | map h => rw [htype] at h; simp at h
    | scalar h => rw [htype] at h; simp [scalarTypes] at h
  · rintro ⟨r, hr, hd⟩
    exact .list htype hr hd

theorem ShapeEntry.wellFormed_map_iff {d : Definition} {s : ShapeEntry}
    (htype : s.type = "map") :
    s.WellFormed d ↔ ∃ k v, (s.key = some k ∧ s.value = some v) ∧
      d.Defines k.shape ∧ d.Defines v.shape := by
  constructor
  · intro h
    cases h with
    | map _ hk hv hdk hdv => exact ⟨_, _, ⟨hk, hv⟩, hdk, hdv⟩
    | document h | record h | list h => rw [htype] at h; simp at h
    | scalar h => rw [htype] at h; simp [scalarTypes] at h
  · rintro ⟨k, v, ⟨hk, hv⟩, hdk, hdv⟩
    exact .map htype hk hv hdk hdv

theorem ShapeEntry.wellFormed_scalar_iff {d : Definition} {s : ShapeEntry}
    (htype : s.type ∈ scalarTypes) :
    s.WellFormed d ↔ KnownFormat s.timestampFormat := by
  constructor
  · intro h
    cases h with
    | scalar _ hformat => exact hformat
    | document h | record h | list h | map h =>
        rw [h] at htype
        simp [scalarTypes] at htype
  · exact .scalar htype

/-- A shape is converted exactly if it is well formed. -/
theorem ShapeEntry.convert_succeeds {d : Definition} {name : String}
    {s : ShapeEntry} : Succeeds (s.convert d name) ↔ s.WellFormed d := by
  rcases s.convert_cases d name with ⟨htype, hdoc, h⟩ | ⟨htype, hdoc, h⟩ |
    ⟨htype, h⟩ | ⟨htype, h⟩ | ⟨kind, hkind, h⟩ | ⟨htype, h⟩ <;> rw [h]
  · exact ⟨fun _ => .document htype hdoc, fun _ => succeeds_ok _⟩
  · rw [succeeds_map, structure?_succeeds, wellFormed_structure_iff htype hdoc]
  · rw [succeeds_map, list?_succeeds, wellFormed_list_iff htype]
  · rw [succeeds_map, map?_succeeds, wellFormed_map_iff htype]
  · rw [succeeds_map, scalar?_succeeds,
      wellFormed_scalar_iff (scalarKind_ofTypeName?_isSome.mp ⟨kind, hkind⟩)]
  · refine ⟨fun h => absurd h (not_succeeds_error _), fun hw => ?_⟩
    obtain ⟨hstructure, hlist, hmap, hscalar⟩ := htype
    cases hw with
    | document h | record h => exact absurd h hstructure
    | list h => exact absurd h hlist
    | map h => exact absurd h hmap
    | scalar h => exact absurd h hscalar

/-- What comes of a shape: a shape of the same name that refers only to shapes
of the definition, with the members that the entry has if it is a structure. -/
structure ShapeEntry.Becomes (d : Definition) (name : String) (s : ShapeEntry)
    (shape : Shape) : Prop where
  named : shape.name = name
  record : ∀ t, shape = .structure t → s.structure? d name = .ok t
  list : ∀ l, shape = .list l → d.Defines l.member.shape
  map : ∀ m, shape = .map m → d.Defines m.key.shape ∧ d.Defines m.value.shape

theorem ShapeEntry.becomes_of_convert {d : Definition} {name : String}
    {s : ShapeEntry} {shape : Shape} (h : s.convert d name = .ok shape) :
    s.Becomes d name shape := by
  rcases s.convert_cases d name with ⟨_, _, hc⟩ | ⟨_, _, hc⟩ | ⟨_, hc⟩ | ⟨_, hc⟩ |
    ⟨kind, _, hc⟩ | ⟨_, hc⟩ <;> rw [hc] at h
  · cases h
    exact ⟨rfl, by simp, by simp, by simp⟩
  · obtain ⟨t, ht, rfl⟩ := map_eq_ok.mp h
    refine ⟨(structure?_eq_ok ht).2.1, ?_, by simp, by simp⟩
    rintro _ ⟨rfl⟩
    exact ht
  · obtain ⟨l, hl, rfl⟩ := map_eq_ok.mp h
    obtain ⟨-, hd, hname⟩ := list?_eq_ok hl
    refine ⟨hname, by simp, ?_, by simp⟩
    rintro _ ⟨rfl⟩
    exact hd
  · obtain ⟨m, hm, rfl⟩ := map_eq_ok.mp h
    obtain ⟨-, hd, hname⟩ := map?_eq_ok hm
    refine ⟨hname, by simp, by simp, ?_⟩
    rintro _ ⟨rfl⟩
    exact hd
  · obtain ⟨t, ht, rfl⟩ := map_eq_ok.mp h
    obtain ⟨format, -, ht⟩ := bind_eq_ok.mp ht
    obtain rfl := pure_eq_ok.mp ht
    exact ⟨rfl, by simp, by simp, by simp⟩
  · cases h

/-- A shape becomes a structure exactly if it is one that is not a document. -/
theorem ShapeEntry.isStructure_iff_of_convert {d : Definition} {name : String}
    {s : ShapeEntry} {shape : Shape} (h : s.convert d name = .ok shape) :
    (∃ t, shape = .structure t) ↔ s.type = "structure" ∧ s.document = false := by
  rcases s.convert_cases d name with ⟨_, hdoc, hc⟩ | ⟨htype, hdoc, hc⟩ |
    ⟨htype, hc⟩ | ⟨htype, hc⟩ | ⟨kind, hkind, hc⟩ | ⟨_, hc⟩ <;> rw [hc] at h
  · cases h
    exact ⟨by simp, fun h => by rw [hdoc] at h; cases h.2⟩
  · obtain ⟨t, -, rfl⟩ := map_eq_ok.mp h
    exact ⟨fun _ => ⟨htype, hdoc⟩, fun _ => ⟨t, rfl⟩⟩
  · obtain ⟨l, -, rfl⟩ := map_eq_ok.mp h
    exact ⟨by simp, fun h => by rw [htype] at h; simp at h⟩
  · obtain ⟨m, -, rfl⟩ := map_eq_ok.mp h
    exact ⟨by simp, fun h => by rw [htype] at h; simp at h⟩
  · obtain ⟨t, -, rfl⟩ := map_eq_ok.mp h
    exact ⟨by simp, fun h => by rw [h.1] at hkind; cases hkind⟩
  · cases h

/-! ## Operations -/

theorem operationStructure_eq_ok {shapes : Table Shape}
    {operation role shape : String} {t : StructureShape} :
    operationStructure shapes operation role shape = .ok t ↔
      shapes.get? shape = some (.structure t) := by
  unfold operationStructure
  split
  next t' h => rw [h]; simp
  next other hother h =>
    rw [h]
    exact ⟨nofun, fun e => absurd (Option.some.inj e) (hother t)⟩
  next h => rw [h]; simp

theorem mapM_operationStructure_eq_ok {shapes : Table Shape}
    {operation role : String} {shape : Option String} {t : Option StructureShape} :
    shape.mapM (operationStructure shapes operation role) = .ok t ↔
      (shape = none ∧ t = none) ∨
        ∃ n r, shape = some n ∧ t = some r ∧
          shapes.get? n = some (.structure r) := by
  cases shape with
  | none =>
      show (Except.ok none : Except DefinitionFault _) = .ok t ↔ _
      rw [Except.ok.injEq]
      simp [eq_comm]
  | some n =>
      show ((operationStructure shapes operation role n) >>= fun r => pure (some r))
        = .ok t ↔ _
      rw [bind_eq_ok]
      simp only [operationStructure_eq_ok, pure_eq_ok]
      constructor
      · rintro ⟨r, hr, rfl⟩
        exact .inr ⟨n, r, rfl, rfl, hr⟩
      · rintro (h | ⟨m, r, hm, rfl, hr⟩)
        · cases h.1
        · cases hm
          exact ⟨r, hr, rfl⟩

theorem isBound_iff {input : Option StructureShape} {p : Placeholder} :
    isBound input p = true ↔ ∃ t, input = some t ∧
      ∃ m ∈ t.members, m.location = .uri ∧ m.wireName = p.name := by
  cases input with
  | none => simp [isBound]
  | some t => simp [isBound, List.any_eq_true]

theorem checkOperation_succeeds {shapes : Table Shape} {o : Operation} :
    Succeeds (checkOperation shapes o) ↔ o.Fits shapes := by
  unfold checkOperation
  rw [succeeds_bind]
  constructor
  · rintro ⟨input, hinput, h⟩
    obtain ⟨output, houtput, h⟩ := succeeds_bind.mp h
    rw [mapM_operationStructure_eq_ok] at hinput houtput
    cases herror : o.errors.find? fun e => !shapes.contains e with
    | some e =>
        simp only [herror] at h
        obtain ⟨_, h, -⟩ := succeeds_bind.mp h
        cases h
    | none =>
        simp only [herror] at h
        cases hunbound : o.http.placeholders.find? fun p => !isBound input p with
        | some p =>
            simp only [hunbound] at h
            exact absurd h (not_succeeds_error _)
        | none =>
            rw [List.find?_eq_none] at herror hunbound
            refine ⟨fun n hn => ?_, fun n hn => ?_, fun n hn => ?_, fun p hp => ?_⟩
            · rcases hinput with ⟨h, -⟩ | ⟨m, r, h, -, hr⟩
              · rw [hn] at h; cases h
              · rw [hn] at h; cases h; exact ⟨r, hr⟩
            · rcases houtput with ⟨h, -⟩ | ⟨m, r, h, -, hr⟩
              · rw [hn] at h; cases h
              · rw [hn] at h; cases h; exact ⟨r, hr⟩
            · exact Table.contains_iff.mp (by simpa using herror n hn)
            · obtain ⟨t, ht, hm⟩ := isBound_iff.mp (by simpa using hunbound p hp)
              rcases hinput with ⟨-, h⟩ | ⟨n, r, hn, h, hr⟩
              · rw [ht] at h; cases h
              · rw [ht] at h; cases h; exact ⟨n, t, hn, hr, hm⟩
  · rintro ⟨hinput, houtput, herrors, hplaceholders⟩
    have hstructure : ∀ (shape : Option String) (role : String),
        (∀ n, shape = some n → ∃ t, shapes.get? n = some (.structure t)) →
        Succeeds (shape.mapM (operationStructure shapes o.name role)) := by
      intro shape role h
      cases shape with
      | none => exact succeeds_ok _
      | some n =>
          obtain ⟨t, ht⟩ := h n rfl
          exact ⟨some t, mapM_operationStructure_eq_ok.mpr
            (.inr ⟨n, t, rfl, rfl, ht⟩)⟩
    obtain ⟨input, hin⟩ := hstructure o.input "input" hinput
    obtain ⟨output, hout⟩ := hstructure o.output "output" houtput
    have herror : o.errors.find? (fun e => !shapes.contains e) = none := by
      rw [List.find?_eq_none]
      intro n hn
      rw [Table.contains_iff.mpr (herrors n hn)]
      exact Bool.false_ne_true
    have hunbound : o.http.placeholders.find? (fun p => !isBound input p) = none := by
      rw [List.find?_eq_none]
      intro p hp
      obtain ⟨n, t, hn, ht, hm⟩ := hplaceholders p hp
      have hsome : input = some t := by
        rcases mapM_operationStructure_eq_ok.mp hin with ⟨h, -⟩ | ⟨k, r, h, h', hr⟩
        · rw [hn] at h; cases h
        · rw [hn] at h
          cases h
          rw [h', Shape.structure.inj (Option.some.inj (hr.symm.trans ht))]
      rw [isBound_iff.mpr ⟨t, hsome, hm⟩]
      exact Bool.false_ne_true
    refine ⟨input, hin, succeeds_bind.mpr ⟨output, hout, ?_⟩⟩
    simp only [herror, hunbound]
    exact succeeds_ok _

/-! ## The table of shapes -/

/-- The table holds what the shapes of the definition were converted to. -/
def Converted (d : Definition) (shapes : Table Shape) : Prop :=
  ∃ entries, shapes = Table.ofList entries ∧
    List.Forall₂ (fun e r => r.1 = e.1 ∧ e.2.convert d e.1 = .ok r.2)
      d.shapes entries

namespace Converted

variable {d : Definition} {shapes : Table Shape}

theorem mem_keys (hc : d.Converted shapes) {n : String} :
    n ∈ shapes.keys ↔ d.Defines n := by
  obtain ⟨entries, rfl, hall⟩ := hc
  rw [Table.mem_keys_ofList, List.mem_map]
  constructor
  · rintro ⟨r, hr, rfl⟩
    obtain ⟨e, he, hname, -⟩ := exists_left_of_forall₂ hall hr
    exact ⟨e.2, hname ▸ he⟩
  · rintro ⟨t, ht⟩
    obtain ⟨r, hr, hname, -⟩ := exists_right_of_forall₂ hall ht
    exact ⟨r, hr, hname⟩

theorem exists_get?_iff (hc : d.Converted shapes) {n : String} :
    (∃ shape, shapes.get? n = some shape) ↔ d.Defines n := by
  rw [← Table.mem_keys_iff, hc.mem_keys]

/-- Whatever stands under a name was converted from an entry of that name. -/
theorem exists_entry (hc : d.Converted shapes) {n : String} {shape : Shape}
    (h : shapes.get? n = some shape) :
    ∃ e, (n, e) ∈ d.shapes ∧ e.convert d n = .ok shape := by
  obtain ⟨entries, rfl, hall⟩ := hc
  obtain ⟨⟨k, e⟩, he, hname, hconvert⟩ :=
    exists_left_of_forall₂ hall (Table.mem_of_get?_ofList h)
  obtain rfl : n = k := hname
  exact ⟨e, he, hconvert⟩

/-- With distinct names every entry has its shape. -/
theorem get?_of_mem (hc : d.Converted shapes) (hd : d.Distinct) {n : String}
    {e : ShapeEntry} (he : (n, e) ∈ d.shapes) :
    ∃ shape, shapes.get? n = some shape ∧ e.convert d n = .ok shape := by
  obtain ⟨entries, rfl, hall⟩ := hc
  have hnames : entries.map (·.1) = d.shapes.map (·.1) := by
    rw [← List.forall₂_eq_eq_eq, List.forall₂_map_left_iff, List.forall₂_map_right_iff]
    exact hall.flip.imp fun r e hr => hr.1
  obtain ⟨⟨k, shape⟩, hr, hname, hconvert⟩ := exists_right_of_forall₂ hall he
  obtain rfl : k = n := hname
  exact ⟨shape, (Table.get?_ofList_of_nodup (hnames ▸ hd.shapes)).mpr hr, hconvert⟩

/-- A name stands for a structure exactly if its entry is one that is not a
document. -/
theorem exists_structure_iff (hc : d.Converted shapes) (hd : d.Distinct)
    {n : String} :
    (∃ t, shapes.get? n = some (.structure t)) ↔ d.DefinesStructure n := by
  constructor
  · rintro ⟨t, ht⟩
    obtain ⟨e, he, hconvert⟩ := hc.exists_entry ht
    exact ⟨e, he, (ShapeEntry.isStructure_iff_of_convert hconvert).mp ⟨t, rfl⟩⟩
  · rintro ⟨e, he, htype⟩
    obtain ⟨shape, hshape, hconvert⟩ := hc.get?_of_mem hd he
    obtain ⟨t, rfl⟩ := (ShapeEntry.isStructure_iff_of_convert hconvert).mpr htype
    exact ⟨t, hshape⟩

/-- The members of a structure in the URI are those that the document puts
there, under the same wire names. -/
theorem exists_uriMember_iff {e : ShapeEntry} {n wire : String}
    {t : StructureShape} (h : e.convert d n = .ok (.structure t)) :
    (∃ m ∈ t.members, m.location = .uri ∧ m.wireName = wire) ↔
      ∃ m ∈ e.members, m.2.location = some "uri" ∧
        m.2.locationName.getD m.1 = wire := by
  have ht := (ShapeEntry.becomes_of_convert h).record t rfl
  obtain ⟨-, -, hmembers⟩ := ShapeEntry.structure?_eq_ok ht
  have hentry : ∀ {a : String × MemberEntry} {m : Member},
      MemberEntry.convert d e n a = .ok m →
        ((m.location = .uri ∧ m.wireName = wire) ↔
          a.2.location = some "uri" ∧ a.2.locationName.getD a.1 = wire) := by
    intro a m ha
    obtain ⟨-, hname, -, hlocation, hlocationName⟩ := MemberEntry.convert_eq_ok ha
    rw [← location_ofName?_uri_iff, hlocation, Option.some.injEq, Member.wireName,
      hlocationName, hname]
  constructor
  · rintro ⟨m, hm, h⟩
    obtain ⟨a, ha, hconvert⟩ := exists_left_of_forall₂ hmembers hm
    exact ⟨a, ha, (hentry hconvert).mp h⟩
  · rintro ⟨a, ha, h⟩
    obtain ⟨m, hm, hconvert⟩ := exists_right_of_forall₂ hmembers ha
    exact ⟨m, hm, (hentry hconvert).mpr h⟩

/-- An operation fits the table exactly if its entry is well formed. -/
theorem fits_iff (hc : d.Converted shapes) (hd : d.Distinct) {name : String}
    {o : OperationEntry} : (o.toOperation name).Fits shapes ↔ o.WellFormed d := by
  constructor
  · rintro ⟨hinput, houtput, herrors, hplaceholders⟩
    refine ⟨fun r hr => ?_, fun r hr => ?_, fun r hr => ?_, fun _ p hp => ?_⟩
    · refine (hc.exists_structure_iff hd).mp (hinput r.shape ?_)
      exact congrArg (Option.map fun r => r.shape) hr
    · refine (hc.exists_structure_iff hd).mp (houtput r.shape ?_)
      exact congrArg (Option.map fun r => r.shape) hr
    · exact hc.exists_get?_iff.mp (herrors r.shape (List.mem_map_of_mem hr))
    · obtain ⟨n, t, hn, ht, hm⟩ := hplaceholders p hp
      obtain ⟨r, hr, rfl⟩ := Option.map_eq_some_iff.mp hn
      obtain ⟨e, he, hconvert⟩ := hc.exists_entry ht
      exact ⟨r, e, hr, he, (exists_uriMember_iff hconvert).mp hm⟩
  · rintro ⟨hinput, houtput, herrors, hplaceholders⟩
    refine ⟨fun n hn => ?_, fun n hn => ?_, fun n hn => ?_, fun p hp => ?_⟩
    · obtain ⟨r, hr, rfl⟩ := Option.map_eq_some_iff.mp hn
      exact (hc.exists_structure_iff hd).mpr (hinput r hr)
    · obtain ⟨r, hr, rfl⟩ := Option.map_eq_some_iff.mp hn
      exact (hc.exists_structure_iff hd).mpr (houtput r hr)
    · obtain ⟨r, hr, rfl⟩ := List.mem_map.mp hn
      exact hc.exists_get?_iff.mpr (herrors r hr)
    · obtain ⟨r, e, hr, he, hm⟩ := hplaceholders name p hp
      obtain ⟨t, ht⟩ := (hc.exists_structure_iff hd).mpr (hinput r hr)
      -- The entry that binds the placeholder is the one that was converted,
      -- since the document has the name only once.
      obtain ⟨shape, hshape, hconvert⟩ := hc.get?_of_mem hd he
      obtain rfl : Shape.structure t = shape := Option.some.inj (ht.symm.trans hshape)
      have hinput : (o.toOperation name).input = some r.shape := by
        rw [OperationEntry.toOperation, hr]
        rfl
      exact ⟨r.shape, t, hinput, ht, (exists_uriMember_iff hconvert).mpr hm⟩

end Converted

/-! ## The whole definition -/

theorem OperationEntry.convert_eq_ok_iff {shapes : Table Shape} {name : String}
    {o : OperationEntry} {r : Operation} :
    o.convert shapes name = .ok r ↔ o.toOperation name = r ∧ r.Fits shapes := by
  rw [OperationEntry.convert, bind_eq_ok]
  constructor
  · rintro ⟨_, hcheck, h⟩
    obtain rfl := pure_eq_ok.mp h
    exact ⟨rfl, checkOperation_succeeds.mp ⟨_, hcheck⟩⟩
  · rintro ⟨rfl, hfits⟩
    obtain ⟨u, hu⟩ := checkOperation_succeeds.mpr hfits
    exact ⟨u, hu, rfl⟩

/-- What comes of a definition: each shape and each operation is what its entry
was converted to. -/
structure Becomes (d : Definition) (name : String) (s : Service) : Prop where
  named : s.name = name
  shapes : d.Converted s.shapes
  operations : s.operations =
    Table.ofList (d.operations.map fun e => (e.1, e.2.toOperation e.1))
  fits : ∀ e ∈ d.operations, (e.2.toOperation e.1).Fits s.shapes

theorem becomes_of_toService {d : Definition} {name : String} {s : Service}
    (h : d.toService name = .ok s) : d.metadata.WellFormed ∧ d.Becomes name s := by
  obtain ⟨metadata, hmetadata, h⟩ := bind_eq_ok.mp h
  obtain ⟨shapes, hshapes, h⟩ := bind_eq_ok.mp h
  obtain ⟨operations, hoperations, h⟩ := bind_eq_ok.mp h
  obtain rfl := pure_eq_ok.mp h
  rw [mapM_eq_ok] at hshapes hoperations
  have hoperation : List.Forall₂ (fun e r => (e.1, e.2.toOperation e.1) = r ∧
      r.2.Fits (Table.ofList shapes)) d.operations operations := by
    refine hoperations.imp fun e r hr => ?_
    obtain ⟨o, ho, rfl⟩ := map_eq_ok.mp hr
    obtain ⟨rfl, hfits⟩ := OperationEntry.convert_eq_ok_iff.mp ho
    exact ⟨rfl, hfits⟩
  refine ⟨MetadataEntry.convert_succeeds.mp ⟨metadata, hmetadata⟩, rfl,
    ⟨shapes, rfl, hshapes.imp fun e r hr => ?_⟩, ?_, fun e he => ?_⟩
  · obtain ⟨shape, hshape, rfl⟩ := map_eq_ok.mp hr
    exact ⟨rfl, hshape⟩
  · have hmap : d.operations.map (fun e => (e.1, e.2.toOperation e.1)) = operations := by
      rw [← List.forall₂_eq_eq_eq, List.forall₂_map_left_iff]
      exact hoperation.imp fun e r hr => hr.1
    rw [hmap]
  · obtain ⟨r, -, rfl, hfits⟩ := exists_right_of_forall₂ hoperation he
    exact hfits

namespace Becomes

variable {d : Definition} {name : String} {s : Service}

theorem operation?_of_mem (hs : d.Becomes name s) (hd : d.Distinct) {n : String}
    {o : OperationEntry} (ho : (n, o) ∈ d.operations) :
    s.operation? n = some (o.toOperation n) := by
  rw [Service.operation?, hs.operations, Table.get?_ofList_of_nodup]
  · exact List.mem_map_of_mem (f := fun e => (e.1, e.2.toOperation e.1)) ho
  · rw [List.map_map]
    exact hd.operations

theorem mem_operations_keys (hs : d.Becomes name s) {n : String} :
    n ∈ s.operations.keys ↔ n ∈ d.operations.map (·.1) := by
  rw [hs.operations, Table.mem_keys_ofList, List.map_map]
  rfl

/-- The service that a definition becomes is closed. -/
theorem closed (hs : d.Becomes name s) : s.Closed := by
  refine ⟨fun h => ?_, fun h => ?_, fun h => ?_⟩
  · obtain ⟨e, -, hconvert⟩ := hs.shapes.exists_entry h
    exact (ShapeEntry.becomes_of_convert hconvert).named
  · refine hs.shapes.exists_get?_iff.mpr ?_
    cases h with
    | @member t h m hm =>
        obtain ⟨e, -, hconvert⟩ := hs.shapes.exists_entry h
        have ht := (ShapeEntry.becomes_of_convert hconvert).record t rfl
        obtain ⟨-, -, hmembers⟩ := ShapeEntry.structure?_eq_ok ht
        obtain ⟨entry, -, hentry⟩ := exists_left_of_forall₂ hmembers hm
        obtain ⟨hsound, -, hshape, -⟩ := MemberEntry.convert_eq_ok hentry
        exact hshape ▸ hsound.shape
    | held h =>
        cases h with
        | item h =>
            obtain ⟨e, -, hconvert⟩ := hs.shapes.exists_entry h
            exact (ShapeEntry.becomes_of_convert hconvert).list _ rfl
        | key h =>
            obtain ⟨e, -, hconvert⟩ := hs.shapes.exists_entry h
            exact ((ShapeEntry.becomes_of_convert hconvert).map _ rfl).1
        | value h =>
            obtain ⟨e, -, hconvert⟩ := hs.shapes.exists_entry h
            exact ((ShapeEntry.becomes_of_convert hconvert).map _ rfl).2
  · rw [Service.operation?, hs.operations] at h
    obtain ⟨e, he, hr⟩ := List.mem_map.mp (Table.mem_of_get?_ofList h)
    cases hr
    exact hs.fits e he

end Becomes

/-- A well-formed definition is converted. -/
theorem toService_succeeds {d : Definition} (hd : d.Distinct) (h : d.WellFormed)
    (name : String) : Succeeds (d.toService name) := by
  obtain ⟨metadata, hmetadata⟩ := MetadataEntry.convert_succeeds.mpr h.metadata
  have hshapes : Succeeds (d.shapes.mapM fun e => (e.2.convert d e.1).map ((e.1, ·))) :=
    succeeds_mapM.mpr fun e he =>
      succeeds_map.mpr (ShapeEntry.convert_succeeds.mpr (h.shapes e he))
  obtain ⟨shapes, hshapes⟩ := hshapes
  have hconverted : d.Converted (Table.ofList shapes) := by
    refine ⟨shapes, rfl, (mapM_eq_ok.mp hshapes).imp fun e r hr => ?_⟩
    obtain ⟨shape, hshape, rfl⟩ := map_eq_ok.mp hr
    exact ⟨rfl, hshape⟩
  have hoperations : Succeeds (d.operations.mapM fun e =>
      (e.2.convert (Table.ofList shapes) e.1).map ((e.1, ·))) :=
    succeeds_mapM.mpr fun e he => succeeds_map.mpr ⟨_,
      OperationEntry.convert_eq_ok_iff.mpr
        ⟨rfl, (hconverted.fits_iff hd).mpr (h.operations e he)⟩⟩
  obtain ⟨operations, hoperations⟩ := hoperations
  exact succeeds_bind.mpr ⟨metadata, hmetadata, succeeds_bind.mpr ⟨shapes, hshapes,
    succeeds_bind.mpr ⟨operations, hoperations, succeeds_ok _⟩⟩⟩

/-- A definition becomes a service exactly if it is well formed, and then the
service has exactly the shapes and operations of the document, each of them what
its entry says, with every reference leading somewhere. -/
theorem toService_ok_iff_wellFormed {d : Definition} (hd : d.Distinct)
    (name : String) :
    ((∃ s, d.toService name = .ok s) ↔ d.WellFormed) ∧
      ∀ s, d.toService name = .ok s → s.name = name ∧
        (∀ n, n ∈ s.shapes.keys ↔ n ∈ d.shapes.map (·.1)) ∧
        (∀ n, n ∈ s.operations.keys ↔ n ∈ d.operations.map (·.1)) ∧
        (∀ n e, (n, e) ∈ d.shapes →
          ∃ shape, s.shape? n = some shape ∧ e.convert d n = .ok shape) ∧
        (∀ n o, (n, o) ∈ d.operations → s.operation? n = some (o.toOperation n)) ∧
        s.Closed := by
  refine ⟨⟨?_, fun h => toService_succeeds hd h name⟩, ?_⟩
  · rintro ⟨s, h⟩
    obtain ⟨hmetadata, hs⟩ := becomes_of_toService h
    refine ⟨hmetadata, fun e he => ?_, fun e he => ?_⟩
    · obtain ⟨shape, -, hconvert⟩ := hs.shapes.get?_of_mem hd he
      exact ShapeEntry.convert_succeeds.mp ⟨shape, hconvert⟩
    · exact (hs.shapes.fits_iff hd).mp (hs.fits e he)
  · intro s h
    obtain ⟨-, hs⟩ := becomes_of_toService h
    refine ⟨hs.named, fun n => ?_, fun n => hs.mem_operations_keys,
      fun n e he => hs.shapes.get?_of_mem hd he,
      fun n o ho => hs.operation?_of_mem hd ho, hs.closed⟩
    rw [hs.shapes.mem_keys, List.mem_map]
    exact ⟨fun ⟨e, he⟩ => ⟨(n, e), he, rfl⟩, fun ⟨e, he, hn⟩ => ⟨e.2, hn ▸ he⟩⟩

/-! ## An example

Trees whose branches are trees, looked up by a name that stands in the URI. The
shapes go in a circle, and the list in it refers to the tree before the tree is
converted. -/

/-- A shape of which nothing but the type is said. -/
def ShapeEntry.bare (type : String) : ShapeEntry where
  type
  members := []
  required := []
  payload := none
  exception := false
  error := none
  document := false
  union := false
  member := none
  key := none
  value := none
  flattened := false
  enum := []
  timestampFormat := none
  streaming := false
  sensitive := false
  locationName := none
  xmlNamespace := none
  documentation := none
  deprecated := false

/-- A member of which nothing but the shape is said. -/
def MemberEntry.bare (shape : String) : MemberEntry where
  shape
  location := none
  locationName := none
  queryName := none
  streaming := false
  idempotencyToken := false
  flattened := false
  xmlAttribute := false
  xmlNamespace := none
  timestampFormat := none
  documentation := none
  deprecated := false

/-- The shapes of the orchard. -/
def orchardShapes : List (String × ShapeEntry) :=
  [("GetTreeInput", { ShapeEntry.bare "structure" with
      members := [("Name", { MemberEntry.bare "Label" with location := some "uri" })]
      required := ["Name"] }),
    ("GetTreeOutput", { ShapeEntry.bare "structure" with
      members := [("Tree", MemberEntry.bare "Tree")] }),
    ("Branches", { ShapeEntry.bare "list" with member := some ⟨"Tree", none⟩ }),
    ("Tree", { ShapeEntry.bare "structure" with
      members := [("Kind", MemberEntry.bare "Kind"),
        ("Branches", MemberEntry.bare "Branches")] }),
    ("Kind", { ShapeEntry.bare "string" with enum := ["apple", "pear"] }),
    ("Label", ShapeEntry.bare "string")]

/-- A service with one operation. -/
def orchard : Definition where
  version := none
  metadata :=
    { apiVersion := "2020-01-01", endpointPrefix := "orchard",
      protocol := some "rest-json", protocols := [], serviceId := some "Orchard",
      serviceAbbreviation := none, serviceFullName := none, jsonVersion := none,
      targetPrefix := none, xmlNamespace := none, signingName := none,
      signatureVersion := none }
  operations :=
    [("GetTree",
      { name := none, http := { method := "GET", requestUri := "/trees/\x7bName\x7d" },
        input := some ⟨"GetTreeInput", none⟩, output := some ⟨"GetTreeOutput", none⟩,
        errors := [], documentation := none, deprecated := false })]
  shapes := orchardShapes
  documentation := none

theorem distinct_orchard : orchard.Distinct := ⟨by decide, by decide⟩

/-- The orchard becomes a service, so it is well formed and nothing in its
circle leads nowhere. -/
theorem toService_orchard :
    orchard.Distinct ∧ orchard.WellFormed ∧
      ∃ s, orchard.toService "orchard" = .ok s ∧
        (∀ n, n ∈ s.shapes.keys ↔ n ∈ orchardShapes.map (·.1)) ∧
        s.operation? "GetTree" = some
          ⟨"GetTree", ⟨"GET", "/trees/\x7bName\x7d", none⟩, some "GetTreeInput",
            some "GetTreeOutput", none, [], none, false⟩ ∧
        s.Closed := by
  obtain ⟨haccepts, hmeans⟩ := toService_ok_iff_wellFormed distinct_orchard "orchard"
  have hnames : (orchard.toService "orchard").map (·.operations.keys) =
      .ok ["GetTree"] := rfl
  obtain ⟨s, hs, -⟩ := map_eq_ok.mp hnames
  obtain ⟨-, hshapes, -, -, hoperations, hclosed⟩ := hmeans s hs
  exact ⟨distinct_orchard, haccepts.mp ⟨s, hs⟩, s, hs, hshapes,
    hoperations _ _ List.mem_cons_self, hclosed⟩

end Definition

end Clientwright
