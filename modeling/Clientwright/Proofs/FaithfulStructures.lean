import Clientwright.Proofs.Boxing

/-!
# Structures as the document has them

A structure of a service is one of the document with its members in their order. A member is
read from three places: its own entry, the list of required names of the structure, and the entry
of the shape it has, which is looked up in the document and not among the shapes that have been
converted, so that it does not matter where it stands or whether the two lead to each other. Only
two of the marks on the shape count as marks on the member. `Member.Reads` says which field comes
from where, and conversion succeeds with a member exactly if the member reads so.

Since the fields of a structure are all accounted for, the structures of a service are not only
true to the document but determined by it.
-/

namespace Clientwright

open Outcome

namespace Definition

variable {d : Definition} {owner : ShapeEntry} {n name : String} {e : String × MemberEntry}
  {m : Member} {t : StructureShape} {s : Service}

/-- What a document calls the locations. A member for which it names none is in the body. -/
def locationNames : List (Option String × Location) :=
  [(none, .body), (some "header", .header), (some "headers", .headers),
    (some "querystring", .querystring), (some "uri", .uri), (some "statusCode", .statusCode)]

/-- The member is the one that the document has in the structure: the entry says where it is and
how it is written, the structure whether it is required, and a mark for streaming or for
flattening may stand at the member or at its shape. -/
structure MemberEntry.Describes (d : Definition) (owner : ShapeEntry) (e : String × MemberEntry)
    (m : Member) : Prop where
  name : m.name = e.1
  shape : m.shape = e.2.shape
  required : m.required = true ↔ e.1 ∈ owner.required
  location : (e.2.location, m.location) ∈ locationNames
  locationName : m.locationName = e.2.locationName
  queryName : m.queryName = e.2.queryName
  xmlNamespace : m.xmlNamespace = e.2.xmlNamespace
  xmlAttribute : m.xmlAttribute = e.2.xmlAttribute
  timestampFormat : m.timestampFormat.map (·.name) = e.2.timestampFormat
  idempotencyToken : m.idempotencyToken = e.2.idempotencyToken
  marks : ∃ target, (e.2.shape, target) ∈ d.shapes ∧
    (m.streaming = true ↔ e.2.streaming = true ∨ target.streaming = true) ∧
    (m.flattened = true ↔ e.2.flattened = true ∨ target.flattened = true)
  documentation : m.documentation = e.2.documentation
  deprecated : m.deprecated = e.2.deprecated

/-- The structure is the one that the document has under the name. -/
structure ShapeEntry.Describes (d : Definition) (n : String) (e : ShapeEntry)
    (t : StructureShape) : Prop where
  name : t.name = n
  members : List.Forall₂ (MemberEntry.Describes d e) e.members t.members
  payload : t.payload = e.payload
  exception : t.exception = e.exception
  errorCode : t.errorCode = e.error.bind (·.code)
  locationName : t.locationName = e.locationName
  xmlNamespace : t.xmlNamespace = e.xmlNamespace
  union : t.union = e.union
  documentation : t.documentation = e.documentation
  deprecated : t.deprecated = e.deprecated

/-! ## Members -/

theorem mem_locationNames_iff {location : Option String} {l : Location} :
    (location, l) ∈ locationNames ↔ Location.ofName? location = some l := by
  constructor
  · intro h
    simp only [locationNames, List.mem_cons, List.not_mem_nil, or_false, Prod.mk.injEq] at h
    rcases h with ⟨rfl, rfl⟩ | ⟨rfl, rfl⟩ | ⟨rfl, rfl⟩ | ⟨rfl, rfl⟩ | ⟨rfl, rfl⟩ | ⟨rfl, rfl⟩ <;>
      rfl
  · intro h
    unfold Location.ofName? at h
    split at h <;> cases h <;> simp [locationNames]

theorem format_ofName?_iff {format : String} {f : TimestampFormat} :
    TimestampFormat.ofName? format = some f ↔ f.name = format := by
  constructor
  · intro h
    rw [TimestampFormat.ofName?] at h
    have hname := List.find?_some h
    exact eq_of_beq hname
  · rintro rfl
    exact TimestampFormat.ofName?_name f

theorem timestampFormat?_eq_ok_iff {owner : String} {format : Option String}
    {f : Option TimestampFormat} :
    timestampFormat? owner format = .ok f ↔ f.map (·.name) = format := by
  cases format with
  | none =>
      rw [timestampFormat?, Except.ok.injEq, Option.map_eq_none_iff]
      exact eq_comm
  | some format =>
      rw [timestampFormat?, Option.map_eq_some_iff]
      simp only [← format_ofName?_iff]
      cases TimestampFormat.ofName? format with
      | none => simp
      | some g => simp [eq_comm]

theorem shape?_eq_some_iff (hd : d.Distinct) {target : ShapeEntry} :
    d.shape? n = some target ↔ (n, target) ∈ d.shapes :=
  Table.lookup_eq_some_iff hd.shapes

/-- A member is converted to the one that its entry describes. -/
theorem MemberEntry.convert_eq_ok_iff (hd : d.Distinct) :
    MemberEntry.convert d owner name e = .ok m ↔ MemberEntry.Describes d owner e m := by
  obtain ⟨n, entry⟩ := e
  constructor
  · intro h
    simp only [MemberEntry.convert] at h
    split at h
    next target htarget =>
      split at h
      next location hlocation =>
        obtain ⟨format, hformat, h⟩ := bind_eq_ok.mp h
        obtain rfl := pure_eq_ok.mp h
        exact {
          name := rfl
          shape := rfl
          required := List.contains_iff_mem
          location := mem_locationNames_iff.mpr hlocation
          locationName := rfl
          queryName := rfl
          xmlNamespace := rfl
          xmlAttribute := rfl
          timestampFormat := timestampFormat?_eq_ok_iff.mp hformat
          idempotencyToken := rfl
          marks := ⟨target, (shape?_eq_some_iff hd).mp htarget, Bool.or_eq_true_iff,
            Bool.or_eq_true_iff⟩
          documentation := rfl
          deprecated := rfl }
      next => cases h
    next => cases h
  · intro h
    obtain ⟨target, htarget, hstreaming, hflattened⟩ := h.marks
    have hlookup := (shape?_eq_some_iff hd).mpr htarget
    have hlocation := mem_locationNames_iff.mp h.location
    have hrequired : owner.required.contains n = m.required :=
      Bool.eq_iff_iff.mpr (List.contains_iff_mem.trans h.required.symm)
    have hstreaming : (entry.streaming || target.streaming) = m.streaming :=
      Bool.eq_iff_iff.mpr (Bool.or_eq_true_iff.trans hstreaming.symm)
    have hflattened : (entry.flattened || target.flattened) = m.flattened :=
      Bool.eq_iff_iff.mpr (Bool.or_eq_true_iff.trans hflattened.symm)
    simp only [MemberEntry.convert, hlookup, hlocation]
    refine bind_eq_ok.mpr ⟨m.timestampFormat, timestampFormat?_eq_ok_iff.mpr h.timestampFormat,
      pure_eq_ok.mpr ?_⟩
    rw [hrequired, hstreaming, hflattened]
    cases m
    cases h.name
    cases h.shape
    cases h.locationName
    cases h.queryName
    cases h.xmlNamespace
    cases h.xmlAttribute
    cases h.idempotencyToken
    cases h.documentation
    cases h.deprecated
    rfl

/-! ## Structures -/

/-- A structure is converted to the one that its entry describes. -/
theorem ShapeEntry.structure?_eq_ok_iff (hd : d.Distinct) {e : ShapeEntry} :
    e.structure? d n = .ok t ↔ e.SoundStructure d ∧ e.Describes d n t := by
  have hmembers : ∀ members, e.members.mapM (MemberEntry.convert d e n) = .ok members ↔
      List.Forall₂ (MemberEntry.Describes d e) e.members members := by
    intro members
    rw [mapM_eq_ok]
    exact ⟨fun h => h.imp fun _ _ => (MemberEntry.convert_eq_ok_iff hd).mp,
      fun h => h.imp fun _ _ => (MemberEntry.convert_eq_ok_iff hd).mpr⟩
  constructor
  · intro h
    have hsound := (ShapeEntry.structure?_eq_ok h).1
    rw [ShapeEntry.structure?_eq hsound.required hsound.payload] at h
    obtain ⟨members, hconverted, rfl⟩ := map_eq_ok.mp h
    exact ⟨hsound, rfl, (hmembers members).mp hconverted, rfl, rfl, rfl, rfl, rfl, rfl, rfl, rfl⟩
  · rintro ⟨hsound, h⟩
    rw [ShapeEntry.structure?_eq hsound.required hsound.payload]
    refine map_eq_ok.mpr ⟨t.members, (hmembers t.members).mpr h.members, ?_⟩
    rw [← h.name, ← h.payload, ← h.exception, ← h.errorCode, ← h.locationName, ← h.xmlNamespace,
      ← h.union, ← h.documentation, ← h.deprecated]

/-- The structures of a service are those of its document. -/
theorem structure_iff (hd : d.Distinct) (h : d.toService name = .ok s) :
    s.shape? n = some (.structure t) ↔ ∃ e, (n, e) ∈ d.shapes ∧ e.type = "structure" ∧
      e.document = false ∧ e.Describes d n t := by
  obtain ⟨-, hs⟩ := becomes_of_toService h
  constructor
  · intro hshape
    obtain ⟨e, he, hconvert⟩ := hs.shapes.exists_entry hshape
    obtain ⟨htype, hdocument⟩ := (ShapeEntry.isStructure_iff_of_convert hconvert).mp ⟨t, rfl⟩
    have ht := (ShapeEntry.becomes_of_convert hconvert).record t rfl
    exact ⟨e, he, htype, hdocument, ((ShapeEntry.structure?_eq_ok_iff hd).mp ht).2⟩
  · rintro ⟨e, he, htype, hdocument, hdescribes⟩
    obtain ⟨shape, hshape, hconvert⟩ := hs.shapes.get?_of_mem hd he
    obtain ⟨t', rfl⟩ := (ShapeEntry.isStructure_iff_of_convert hconvert).mpr ⟨htype, hdocument⟩
    have ht' := (ShapeEntry.becomes_of_convert hconvert).record t' rfl
    obtain ⟨hsound, -⟩ := (ShapeEntry.structure?_eq_ok_iff hd).mp ht'
    have ht := (ShapeEntry.structure?_eq_ok_iff hd).mpr ⟨hsound, hdescribes⟩
    obtain rfl := Except.ok.inj (ht'.symm.trans ht)
    exact hshape

/-! ## Payloads -/

theorem ShapeEntry.Describes.names {e : ShapeEntry} (h : e.Describes d n t) :
    t.members.map (·.name) = e.members.map (·.1) := by
  rw [← List.forall₂_eq_eq_eq, List.forall₂_map_left_iff, List.forall₂_map_right_iff]
  exact h.members.flip.imp fun m e hm => hm.name

/-- The member that a sound structure names as its payload is there. -/
theorem ShapeEntry.Describes.exists_member {e : ShapeEntry} (h : e.Describes d n t)
    (hsound : e.SoundStructure d) {p : String} (hp : t.payload = some p) :
    ∃ m ∈ t.members, m.name = p := by
  have hmem : p ∈ e.members.map (·.1) := hsound.payload p (h.payload ▸ hp)
  rw [← h.names] at hmem
  exact List.mem_map.mp hmem

theorem payloadMember?_eq_some_iff {t : StructureShape} (hnames : (t.members.map (·.name)).Nodup) :
    t.payloadMember? = some m ↔ m ∈ t.members ∧ t.payload = some m.name := by
  rw [StructureShape.payloadMember?, Option.bind_eq_some_iff]
  constructor
  · rintro ⟨p, hp, hm⟩
    have hname := List.find?_some hm
    obtain rfl : m.name = p := eq_of_beq hname
    exact ⟨List.mem_of_find?_eq_some hm, hp⟩
  · rintro ⟨hmem, hpayload⟩
    have hsome : (t.member? m.name).isSome := List.find?_isSome.mpr ⟨m, hmem, beq_self_eq_true _⟩
    obtain ⟨other, hother⟩ := Option.isSome_iff_exists.mp hsome
    have hname := List.find?_some hother
    have hinj := List.inj_on_of_nodup_map hnames (List.mem_of_find?_eq_some hother) hmem
    exact ⟨m.name, hpayload, hinj (eq_of_beq hname) ▸ hother⟩

/-- Every structure of a document has its structure in the service, the structures of the service
are the ones that the document describes, and a payload is the member that is named. -/
theorem structures_described (hd : d.Distinct) (hmembers : d.NamesMembers)
    (h : d.toService name = .ok s) :
    (∀ n e, (n, e) ∈ d.shapes → e.type = "structure" → e.document = false →
      ∃ t, s.shape? n = some (.structure t)) ∧
    (∀ n t, s.shape? n = some (.structure t) ↔ ∃ e, (n, e) ∈ d.shapes ∧
      e.type = "structure" ∧ e.document = false ∧ e.Describes d n t) ∧
    ∀ n t, s.shape? n = some (.structure t) →
      (∀ m, t.payloadMember? = some m ↔ m ∈ t.members ∧ t.payload = some m.name) ∧
      (t.payloadMember? = none ↔ t.payload = none) := by
  obtain ⟨-, hs⟩ := becomes_of_toService h
  refine ⟨fun n e he htype hdocument => ?_, fun n t => structure_iff hd h, fun n t ht => ?_⟩
  · exact (hs.shapes.exists_structure_iff hd).mpr ⟨e, he, htype, hdocument⟩
  · obtain ⟨e, he, hconvert⟩ := hs.shapes.exists_entry ht
    have hstructure := (ShapeEntry.becomes_of_convert hconvert).record t rfl
    obtain ⟨hsound, hdescribes⟩ := (ShapeEntry.structure?_eq_ok_iff hd).mp hstructure
    have hnames : (t.members.map (·.name)).Nodup := hdescribes.names ▸ hmembers (n, e) he
    refine ⟨fun m => payloadMember?_eq_some_iff hnames, fun hnone => ?_, fun hnone => ?_⟩
    · rw [Option.eq_none_iff_forall_ne_some]
      intro p hp
      obtain ⟨m, hm, rfl⟩ := hdescribes.exists_member hsound hp
      exact absurd ((payloadMember?_eq_some_iff hnames).mpr ⟨hm, hp⟩) (hnone ▸ nofun)
    · rw [StructureShape.payloadMember?, hnone]
      rfl

/-! ## A vine and its shoots -/

/-- The shapes of the vineyard: a structure that leads to itself, and shapes that stand behind it
with marks of their own. -/
def vineyardShapes : List (String × ShapeEntry) :=
  [("Vine", { ShapeEntry.bare "structure" with
      members := [("Planted", { MemberEntry.bare "Day" with timestampFormat := some "rfc822" }),
        ("Shoots", MemberEntry.bare "Vines"), ("Juice", MemberEntry.bare "Juice")]
      required := ["Shoots"]
      payload := some "Juice" }),
    ("Vines", { ShapeEntry.bare "list" with member := some ⟨"Vine", none⟩, flattened := true }),
    ("Juice", { ShapeEntry.bare "blob" with streaming := true }),
    ("Day", { ShapeEntry.bare "timestamp" with timestampFormat := some "iso8601" })]

/-- A service without operations. -/
def vineyard : Definition := { orchard with operations := [], shapes := vineyardShapes }

/-- A member of which nothing but the name and the shape is said. -/
def plainMember (name shape : String) : Member where
  name
  shape
  required := false
  location := .body
  locationName := none
  queryName := none
  streaming := false
  idempotencyToken := false
  flattened := false
  xmlAttribute := false
  xmlNamespace := none
  timestampFormat := none
  documentation := none
  deprecated := false

/-- The juice, which is streamed since its shape is. -/
def juice : Member := { plainMember "Juice" "Juice" with streaming := true }

/-- The structure of the vineyard. The date is written as its member says and not as its shape
says, and the shoots are flattened since their shape is. -/
def vine : StructureShape where
  name := "Vine"
  members := [{ plainMember "Planted" "Day" with timestampFormat := some .rfc822 },
    { plainMember "Shoots" "Vines" with required := true, flattened := true }, juice]
  payload := some "Juice"
  exception := false
  errorCode := none
  locationName := none
  xmlNamespace := none
  union := false
  documentation := none
  deprecated := false

/-- The vine is in the service as it is described, and its payload is the juice. -/
theorem vine_described : vineyard.Distinct ∧ vineyard.NamesMembers ∧
    ∃ s, vineyard.toService "vineyard" = .ok s ∧ s.shape? "Vine" = some (.structure vine) ∧
      vine.payloadMember? = some juice := by
  have hdistinct : vineyard.Distinct := ⟨by decide, by decide⟩
  have hmembers : vineyard.NamesMembers :=
    (by decide : ∀ e ∈ vineyardShapes, (e.2.members.map (·.1)).Nodup)
  have hnames : (vineyard.toService "vineyard").map (·.shapes.keys) =
      .ok ["Day", "Juice", "Vine", "Vines"] := rfl
  obtain ⟨s, hs, -⟩ := map_eq_ok.mp hnames
  obtain ⟨-, hiff, hpayload⟩ := structures_described hdistinct hmembers hs
  have hvine : s.shape? "Vine" = some (.structure vine) :=
    (hiff "Vine" vine).mpr ⟨_, List.mem_cons_self, rfl, rfl,
      ((ShapeEntry.structure?_eq_ok_iff hdistinct).mp rfl).2⟩
  exact ⟨hdistinct, hmembers, s, hs, hvine, ((hpayload _ _ hvine).1 juice).mpr ⟨by decide, rfl⟩⟩

end Definition

end Clientwright
