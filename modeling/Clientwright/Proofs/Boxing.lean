import Clientwright.Proofs.Fitting

/-!
# Exactly the members on a circle are boxed

A structure is laid out with the structures of its members inside it, and one
that is inside itself has no size. `Contains` is that relation, from a structure
to the structures of its members, and a circle in it has to be broken by a box.

A member is boxed if its structure can be left through it and come back. So the
boxed members are all those that lie on a circle, and none else: a member that
merely leads into a circle stays where it is. That nothing without a box runs in
a circle is then short. The first step of such a circle is a member, the rest of
it leads from that member back to its structure, and so the member was boxed.

Two things stand between this and the code. The search starts at what a
structure leads to, so that the structure itself is found only if it is led back
to, and it tells structures apart by the names under which they are kept. And a
box is noted by the names of a structure and of its member, which say which
member is meant because a document has each name once (`NamesMembers`).
-/

namespace Clientwright

open Relation Outcome

/-! ## Members have names of their own -/

theorem mem_of_mem_put {α : Type} {l : List (String × α)} {e new : String × α}
    (h : e ∈ mergeEntries.put l new) : e ∈ l ∨ e = new := by
  unfold mergeEntries.put at h
  split at h
  · obtain ⟨old, hold, heq⟩ := List.mem_map.mp h
    split at heq
    · exact .inr heq.symm
    · exact .inl (heq ▸ hold)
  · rcases List.mem_append.mp h with h | h
    · exact .inl h
    · exact .inr (List.mem_singleton.mp h)

theorem mem_of_mem_mergeEntries {α : Type} {l : List (String × α)} {e : String × α}
    (h : e ∈ mergeEntries l) : e ∈ l := by
  have hfold : ∀ (l acc : List (String × α)), e ∈ l.foldl mergeEntries.put acc →
      e ∈ acc ∨ e ∈ l := by
    intro l
    induction l with
    | nil => exact fun _ he => .inl he
    | cons new l ih =>
        intro acc he
        rcases ih _ he with he | he
        · rcases mem_of_mem_put he with he | rfl
          · exact .inl he
          · exact .inr List.mem_cons_self
        · exact .inr (List.mem_cons_of_mem _ he)
  exact (hfold l [] h).resolve_left List.not_mem_nil

theorem exists_of_mem_mapM {α β : Type} {f : α → Option β} {l : List α} {r : List β}
    (h : l.mapM f = some r) {b : β} (hb : b ∈ r) : ∃ a ∈ l, f a = some b := by
  induction l generalizing r with
  | nil =>
      rw [List.mapM_nil] at h
      obtain rfl := Option.some.inj h
      cases hb
  | cons a l ih =>
      rw [List.mapM_cons] at h
      obtain ⟨c, hc, h⟩ := Option.bind_eq_some_iff.mp h
      obtain ⟨r, hr, h⟩ := Option.bind_eq_some_iff.mp h
      obtain rfl := Option.some.inj h
      rcases List.mem_cons.mp hb with rfl | hb
      · exact ⟨a, List.mem_cons_self, hc⟩
      · obtain ⟨d, hd, hf⟩ := ih hr hb
        exact ⟨d, List.mem_cons_of_mem _ hd, hf⟩

/-- What stands in a map that was read was read from something. -/
theorem exists_read_of_mem_entries? {α : Type} {read : Json → Option α} {v : Json}
    {l : List (String × α)} (h : Json.entries? read v = some l) {e : String × α}
    (he : e ∈ l) : ∃ w, read w = some e.2 := by
  obtain ⟨members, hmembers, rfl⟩ := Option.map_eq_some_iff.mp h
  have hmem := mem_of_mem_mergeEntries he
  cases v with
  | object fields =>
      obtain ⟨f, -, hf⟩ := exists_of_mem_mapM hmembers hmem
      obtain ⟨a, ha, rfl⟩ := Option.map_eq_some_iff.mp hf
      exact ⟨f.2, ha⟩
  | _ => cases hmembers

namespace Definition

/-- No structure of the definition has a name for two of its members. -/
def NamesMembers (d : Definition) : Prop :=
  ∀ e ∈ d.shapes, (e.2.members.map (·.1)).Nodup

theorem ShapeEntry.nodup_members_of_ofJson? {v : Json} {e : ShapeEntry}
    (h : ShapeEntry.ofJson? v = some e) : (e.members.map (·.1)).Nodup := by
  obtain ⟨r, -, h⟩ := Option.bind_eq_some_iff.mp h
  obtain ⟨type, -, h⟩ := Option.bind_eq_some_iff.mp h
  obtain ⟨members, hmembers, h⟩ := Option.bind_eq_some_iff.mp h
  -- The other fields are read after the members and leave them alone.
  iterate 18 obtain ⟨_, -, h⟩ := Option.bind_eq_some_iff.mp h
  obtain rfl := Option.some.inj h
  exact nodup_of_withDefault hmembers

theorem namesMembers_ofText? {text : String} {d : Definition}
    (h : Definition.ofText? text = some d) : d.NamesMembers := by
  simp only [Definition.ofText?, Definition.ofJson?, Option.bind_eq_bind,
    Option.bind_eq_some_iff] at h
  obtain ⟨v, -, r, -, version, -, metadata, -, operations, -, shapes, hshapes,
    documentation, -, h⟩ := h
  obtain rfl := Option.some.inj h
  intro e he
  rw [Json.Record.withDefault] at hshapes
  split at hshapes
  · obtain rfl := Option.some.inj hshapes
    cases he
  · obtain ⟨w, hw⟩ := exists_read_of_mem_entries? hshapes he
    exact ShapeEntry.nodup_members_of_ofJson? hw

end Definition

/-- No structure has a name for two of its members. -/
def Service.NamesMembers (s : Service) : Prop :=
  ∀ k t, s.shape? k = some (.structure t) → (t.members.map (·.name)).Nodup

theorem Definition.Converted.namesMembers {d : Definition} {shapes : Table Shape}
    (hc : d.Converted shapes) (hd : d.NamesMembers) {k : String} {t : StructureShape}
    (hk : shapes.get? k = some (.structure t)) : (t.members.map (·.name)).Nodup := by
  obtain ⟨e, he, hconvert⟩ := hc.exists_entry hk
  have ht := (Definition.ShapeEntry.becomes_of_convert hconvert).record t rfl
  obtain ⟨-, -, hmembers⟩ := Definition.ShapeEntry.structure?_eq_ok ht
  have hnames : t.members.map (·.name) = e.members.map (·.1) := by
    rw [← List.forall₂_eq_eq_eq, List.forall₂_map_left_iff, List.forall₂_map_right_iff]
    refine hmembers.flip.imp fun m entry hentry => ?_
    exact (Definition.MemberEntry.convert_eq_ok hentry).2.1
  rw [hnames]
  exact hd _ he

/-- The shapes of a service are those of its definition, whatever was added. -/
theorem Sources.converted_of_toService {src : Sources} {s : Service}
    (h : src.toService.result = .ok s) : src.definition.Converted s.shapes := by
  obtain ⟨t, ht, h⟩ := Trace.bind_result_eq_ok.mp h
  have ht : src.definition.toService src.serviceName = .ok t := mapError_eq_ok.mp ht
  obtain ⟨-, hbecomes⟩ := Definition.becomes_of_toService ht
  split at h
  · split at h <;>
    · obtain ⟨paginators, -, h⟩ := Trace.bind_result_eq_ok.mp h
      obtain ⟨waiters, -, h⟩ := Trace.bind_result_eq_ok.mp h
      obtain rfl := Except.ok.inj h
      exact hbecomes.shapes
  · split at h <;>
    · obtain ⟨paginators, -, h⟩ := Trace.bind_result_eq_ok.mp h
      obtain rfl := Except.ok.inj h
      exact hbecomes.shapes

theorem Sources.namesMembers_of_toService {src : Sources} {s : Service}
    (h : src.toService.result = .ok s) (hd : src.definition.NamesMembers) :
    s.NamesMembers :=
  fun _ _ hk => (src.converted_of_toService h).namesMembers hd hk

namespace Service

variable {s : Service} {t u : StructureShape} {m : Member} {k n : String}

/-! ## Structures in structures -/

/-- A structure has the other one as one of its members. -/
inductive Contains (s : Service) : String → String → Prop where
  | member {k : String} {t : StructureShape} {m : Member}
      (hk : s.shape? k = some (.structure t)) (hm : m ∈ t.members)
      (hn : s.IsStructure m.shape) : s.Contains k m.shape

theorem Contains.isStructure (h : s.Contains k n) : s.IsStructure n := by
  cases h with
  | member _ _ hn => exact hn

theorem Contains.mem_keys (h : s.Contains k n) : k ∈ s.shapes.keys := by
  cases h with
  | member hk => exact Table.mem_keys_iff.mpr ⟨_, hk⟩

theorem isStructure_of_contains (h : TransGen s.Contains k n) : s.IsStructure n := by
  obtain ⟨_, -, h⟩ := TransGen.tail'_iff.mp h
  exact h.isStructure

theorem contains_iff_of_structure (hk : s.shape? k = some (.structure t)) :
    s.Contains k n ↔ (∃ m ∈ t.members, m.shape = n) ∧ s.IsStructure n := by
  constructor
  · rintro ⟨hk', hm, hn⟩
    obtain rfl := Shape.structure.inj (Option.some.inj (hk.symm.trans hk'))
    exact ⟨⟨_, hm, rfl⟩, hn⟩
  · rintro ⟨⟨m, hm, rfl⟩, hn⟩
    exact .member hk hm hn

theorem mem_directStructures_iff :
    (n, u) ∈ s.directStructures t ↔
      (∃ m ∈ t.members, m.shape = n) ∧ s.shape? n = some (.structure u) := by
  simp only [directStructures, List.mem_filterMap, Option.map_eq_some_iff,
    structure?_eq_some_iff, Prod.mk.injEq]
  constructor
  · rintro ⟨m, hm, v, hv, rfl, rfl⟩
    exact ⟨⟨m, hm, rfl⟩, hv⟩
  · rintro ⟨⟨m, hm, rfl⟩, hu⟩
    exact ⟨m, hm, u, hu, rfl, rfl⟩

theorem mem_directStructures_iff_contains (hk : s.shape? k = some (.structure t)) :
    (n, u) ∈ s.directStructures t ↔
      s.Contains k n ∧ s.shape? n = some (.structure u) := by
  rw [mem_directStructures_iff, contains_iff_of_structure hk, and_assoc]
  exact and_congr_right fun _ => ⟨fun hu => ⟨⟨u, hu⟩, hu⟩, And.right⟩

/-! ## What the search finds -/

/-- The search from a structure reaches what it leads to in one step or more. -/
theorem directWalk_reaches_iff (hk : s.shape? k = some (.structure t)) :
    s.directWalk.Reaches (s.directStructures t) (n, u) ↔
      TransGen s.Contains k n ∧ s.shape? n = some (.structure u) := by
  constructor
  · rintro ⟨⟨j, v⟩, hj, hpath⟩
    obtain ⟨hfirst, hv⟩ := (mem_directStructures_iff_contains hk).mp hj
    have hmore : ∀ c : String × StructureShape, ReflTransGen s.directWalk.Next (j, v) c →
        TransGen s.Contains k c.1 ∧ s.shape? c.1 = some (.structure c.2) := by
      intro c hc
      induction hc with
      | refl => exact ⟨.single hfirst, hv⟩
      | tail _ hnext ih =>
          obtain ⟨hstep, hshape⟩ := (mem_directStructures_iff_contains ih.2).mp hnext
          exact ⟨ih.1.tail hstep, hshape⟩
    exact hmore _ hpath
  · rintro ⟨hpath, hu⟩
    induction hpath generalizing u with
    | single hstep =>
        exact .of_mem ((mem_directStructures_iff_contains hk).mpr ⟨hstep, hu⟩)
    | tail hpath hstep ih =>
        obtain ⟨v, hv⟩ := isStructure_of_contains hpath
        exact (ih hv).next ((mem_directStructures_iff_contains hv).mpr ⟨hstep, hu⟩)

/-- The name of a structure that is reached says which one it is. -/
theorem directWalk_apart (hk : s.shape? k = some (.structure t))
    (a b : String × StructureShape) (ha : s.directWalk.Reaches (s.directStructures t) a)
    (hb : s.directWalk.Reaches (s.directStructures t) b)
    (h : s.directWalk.mark a = s.directWalk.mark b) : a = b := by
  have hname : a.1 = b.1 := h
  have hshape : s.shape? a.1 = some (.structure a.2) := ((directWalk_reaches_iff hk).mp ha).2
  rw [hname, ((directWalk_reaches_iff hk).mp hb).2] at hshape
  exact Prod.ext hname (Shape.structure.inj (Option.some.inj hshape)).symm

theorem directWalk_marked (hk : s.shape? k = some (.structure t)) :
    Walk.Moment.Marked s.directWalk ⟨s.directStructures t, []⟩ :=
  fun _ ha => Table.mem_keys_iff.mpr ⟨_, ((directWalk_reaches_iff hk).mp ha).2⟩

theorem mem_directlyReached_iff (hk : s.shape? k = some (.structure t)) :
    n ∈ s.directlyReached t ↔ TransGen s.Contains k n := by
  rw [directlyReached, List.mem_map]
  simp only [Walk.mem_reach_iff (directWalk_marked hk) (directWalk_apart hk)]
  constructor
  · rintro ⟨a, ha, rfl⟩
    exact ((directWalk_reaches_iff hk).mp ha).1
  · intro h
    obtain ⟨u, hu⟩ := isStructure_of_contains h
    exact ⟨(n, u), (directWalk_reaches_iff hk).mpr ⟨h, hu⟩, rfl⟩

/-- In whatever order the structures are taken up, the search ends, and it ends
with the same names. -/
theorem directWalk_ends (hk : s.shape? k = some (.structure t)) :
    Acc (fun q p => s.directWalk.Turn p q) ⟨s.directStructures t, []⟩ ∧
      ∀ q, ReflTransGen s.directWalk.Turn ⟨s.directStructures t, []⟩ q →
        q.waiting = [] → ∀ n, n ∈ q.met ↔ n ∈ s.directlyReached t := by
  refine ⟨Walk.turn_ends (directWalk_marked hk), fun q hq hend n => ?_⟩
  rw [Walk.mem_met_iff (directWalk_apart hk) hq hend, mem_directlyReached_iff hk]
  constructor
  · rintro ⟨a, ha, rfl⟩
    exact ((directWalk_reaches_iff hk).mp ha).1
  · intro h
    obtain ⟨u, hu⟩ := isStructure_of_contains h
    exact ⟨(n, u), (directWalk_reaches_iff hk).mpr ⟨h, hu⟩, rfl⟩

/-! ## Which members are boxed -/

theorem leadsBack_iff (hs : s.Closed) (hk : s.shape? k = some (.structure t)) :
    s.leadsBack t m = true ↔
      s.IsStructure m.shape ∧ (k = m.shape ∨ TransGen s.Contains m.shape k) := by
  have hname : t.name = k := hs.named hk
  rw [leadsBack]
  split
  next u hu =>
    have hu := structure?_eq_some_iff.mp hu
    rw [Bool.or_eq_true, beq_iff_eq, List.contains_iff_mem, mem_directlyReached_iff hu,
      hname]
    constructor
    · rintro (h | h)
      · exact ⟨⟨u, hu⟩, .inl h.symm⟩
      · exact ⟨⟨u, hu⟩, .inr h⟩
    · rintro ⟨-, h | h⟩
      · exact .inl h.symm
      · exact .inr h
  next hnone =>
    refine ⟨nofun, fun ⟨⟨u, hu⟩, _⟩ => ?_⟩
    rw [structure?_eq_some_iff.mpr hu] at hnone
    cases hnone

theorem mem_boxedMembers_iff {o i : String} :
    (o, i) ∈ s.boxedMembers ↔ ∃ k t m, s.shape? k = some (.structure t) ∧
      m ∈ t.members ∧ s.leadsBack t m = true ∧ t.name = o ∧ m.name = i := by
  rw [boxedMembers, List.mem_flatMap]
  constructor
  · rintro ⟨shape, hshape, h⟩
    obtain ⟨k, hk⟩ := Table.mem_values_iff.mp hshape
    split at h
    next t =>
      obtain ⟨m, hm, heq⟩ := List.mem_map.mp h
      obtain ⟨hm, hback⟩ := List.mem_filter.mp hm
      obtain ⟨ho, hi⟩ := Prod.mk.inj heq
      exact ⟨k, t, m, hk, hm, hback, ho, hi⟩
    next => cases h
  · rintro ⟨k, t, m, hk, hm, hback, rfl, rfl⟩
    refine ⟨.structure t, Table.mem_values_iff.mpr ⟨k, hk⟩, ?_⟩
    exact List.mem_map.mpr ⟨m, List.mem_filter.mpr ⟨hm, hback⟩, rfl⟩

/-- The names under which a box is noted tell which member is meant. -/
theorem mem_boxedMembers_iff_leadsBack (hs : s.Closed) (hnames : s.NamesMembers)
    (hk : s.shape? k = some (.structure t)) (hm : m ∈ t.members) :
    (t.name, m.name) ∈ s.boxedMembers ↔ s.leadsBack t m = true := by
  rw [mem_boxedMembers_iff]
  constructor
  · rintro ⟨k', t', m', hk', hm', hback, hname, hmember⟩
    have hkeys : k' = k := by rw [← hs.named hk', ← hs.named hk]; exact hname
    rw [hkeys, hk] at hk'
    obtain rfl := Shape.structure.inj (Option.some.inj hk')
    have hsame : m' = m :=
      List.inj_on_of_nodup_map (hnames k t hk) hm' hm hmember
    exact hsame ▸ hback
  · exact fun hback => ⟨k, t, m, hk, hm, hback, rfl, rfl⟩

end Service

namespace Blueprint

variable {b : Blueprint} {s : Service} {t u : StructureShape} {m : Member} {k n : String}

theorem boxed_of {selection : List String} (h : Blueprint.of s selection = .ok b) :
    b.service = s ∧ b.boxed = s.boxedMembers := by
  obtain ⟨usage, -, h⟩ := bind_eq_ok.mp h
  obtain rfl := pure_eq_ok.mp h
  exact ⟨rfl, rfl⟩

theorem isBoxed_iff (hs : b.service.Closed) (hnames : b.service.NamesMembers)
    (hboxed : b.boxed = b.service.boxedMembers)
    (hk : b.service.shape? k = some (.structure t)) (hm : m ∈ t.members) :
    b.isBoxed t m = true ↔ b.service.IsStructure m.shape ∧
      (k = m.shape ∨ TransGen b.service.Contains m.shape k) := by
  rw [isBoxed, List.contains_iff_mem, hboxed,
    Service.mem_boxedMembers_iff_leadsBack hs hnames hk hm, Service.leadsBack_iff hs hk]

/-- The type of a member that is a structure. -/
theorem memberType_of_structure (hu : b.service.shape? m.shape = some (.structure u)) :
    b.memberType t m = .ok (if b.isBoxed t m then .boxed (.generated (b.typeName m.shape))
      else .generated (b.typeName m.shape)) := by
  rw [memberType, shapeType, value, Service.value, Service.valueWithin, hu]
  rfl

theorem memberType_of_not_isBoxed (h : ¬ b.isBoxed t m = true) :
    b.memberType t m = b.shapeType m.shape := by
  rw [memberType]
  simp only [h]
  cases b.shapeType m.shape with
  | ok v => rfl
  | error e => rfl

theorem text_boxed (v : ValueType) : (ValueType.boxed v).text = "Box<" ++ v.text ++ ">" := by
  show "Box<" ++ (v.text ++ (">" ++ "")) = _
  rw [String.append_empty, String.append_assoc]

/-! ## Nothing without a box runs in a circle -/

/-- A structure has the other one inside it: a member is that structure, and it
is not boxed. -/
inductive Embeds (b : Blueprint) : String → String → Prop where
  | member {k : String} {t : StructureShape} {m : Member}
      (hk : b.service.shape? k = some (.structure t)) (hm : m ∈ t.members)
      (hn : b.service.IsStructure m.shape) (hbox : ¬ b.isBoxed t m = true) :
      b.Embeds k m.shape

theorem Embeds.contains (h : b.Embeds k n) : b.service.Contains k n := by
  cases h with
  | member hk hm hn => exact .member hk hm hn

theorem not_transGen_embeds (hs : b.service.Closed) (hnames : b.service.NamesMembers)
    (hboxed : b.boxed = b.service.boxedMembers) (n : String) : ¬ TransGen b.Embeds n n := by
  intro h
  obtain ⟨c, hfirst, hrest⟩ := TransGen.head'_iff.mp h
  cases hfirst with
  | member hk hm hn hbox =>
      refine hbox ((isBoxed_iff hs hnames hboxed hk hm).mpr ⟨hn, ?_⟩)
      rcases reflTransGen_iff_eq_or_transGen.mp hrest with heq | hrest
      · exact .inl heq
      · exact .inr (hrest.lift id fun _ _ h => h.contains)

/-- There are finitely many shapes, so without a circle there is no endless way
down either. -/
theorem wellFounded_embeds (hacyclic : ∀ n, ¬ TransGen b.Embeds n n) :
    WellFounded fun n k => b.Embeds k n := by
  have horder : IsStrictOrder String fun n k => TransGen b.Embeds k n :=
    { irrefl := hacyclic, trans := fun _ _ _ h h' => h'.trans h }
  have hfinite : {n | n ∈ b.service.shapes.keys}.Finite := List.finite_toSet _
  have hwf := Set.wellFoundedOn_iff.mp
    (hfinite.wellFoundedOn (r := fun n k => TransGen b.Embeds k n))
  refine Subrelation.wf (fun {n k} h => ?_) hwf
  obtain ⟨u, hu⟩ := h.contains.isStructure
  exact ⟨.single h, Table.mem_keys_iff.mpr ⟨_, hu⟩, h.contains.mem_keys⟩

/-- Boxes stand where a structure would be inside itself and nowhere else. -/
structure BoxesCircles (b : Blueprint) : Prop where
  boxed : ∀ k t m, b.service.shape? k = some (.structure t) → m ∈ t.members →
    b.service.IsStructure m.shape →
      (b.isBoxed t m = true ↔ k = m.shape ∨ TransGen b.service.Contains m.shape k)
  typed : ∀ k t m, b.service.shape? k = some (.structure t) → m ∈ t.members →
    b.service.IsStructure m.shape → (b.memberType t m).map (·.text) =
      .ok (if b.isBoxed t m then "Box<" ++ b.typePath m.shape ++ ">" else b.typePath m.shape)
  unboxed : ∀ k t m, b.service.shape? k = some (.structure t) → m ∈ t.members →
    ¬ b.service.IsStructure m.shape →
      b.isBoxed t m = false ∧ b.memberType t m = b.shapeType m.shape
  acyclic : ∀ n, ¬ TransGen b.Embeds n n
  finite : WellFounded fun n k => b.Embeds k n
  /-- the search for the structures that one leads to ends in any order -/
  searched : ∀ k t, b.service.shape? k = some (.structure t) →
    Acc (fun q p => b.service.directWalk.Turn p q) ⟨b.service.directStructures t, []⟩ ∧
      ∀ q, ReflTransGen b.service.directWalk.Turn ⟨b.service.directStructures t, []⟩ q →
        q.waiting = [] → ∀ n, n ∈ q.met ↔ n ∈ b.service.directlyReached t

theorem boxesCircles_of_boxed (hs : b.service.Closed) (hnames : b.service.NamesMembers)
    (hboxed : b.boxed = b.service.boxedMembers) : b.BoxesCircles := by
  have hacyclic := not_transGen_embeds hs hnames hboxed
  refine ⟨fun k t m hk hm hn => ?_, fun k t m hk hm hn => ?_, fun k t m hk hm hn => ?_,
    hacyclic, wellFounded_embeds hacyclic, fun k t hk => Service.directWalk_ends hk⟩
  · rw [isBoxed_iff hs hnames hboxed hk hm]
    exact and_iff_right hn
  · obtain ⟨u, hu⟩ := hn
    rw [memberType_of_structure hu]
    cases b.isBoxed t m with
    | true => exact congrArg Except.ok (text_boxed _)
    | false => rfl
  · have hfree : ¬ b.isBoxed t m = true :=
      fun hbox => hn ((isBoxed_iff hs hnames hboxed hk hm).mp hbox).1
    exact ⟨Bool.eq_false_iff.mpr hfree, memberType_of_not_isBoxed hfree⟩

/-- Whatever text a service was read from, its boxes break every circle of
structures, and each of them breaks one. -/
theorem boxes_circles {text : String} {src : Sources} {selection : List String}
    (hread : Definition.ofText? text = some src.definition)
    (h : src.toService.result = .ok s) (hb : Blueprint.of s selection = .ok b) :
    b.BoxesCircles := by
  obtain ⟨rfl, hboxed⟩ := boxed_of hb
  exact boxesCircles_of_boxed (src.closed_of_toService h)
    (src.namesMembers_of_toService h (Definition.namesMembers_ofText? hread)) hboxed

end Blueprint

/-! ## An example

A gardener has a garden and the garden has its gardener, so these two are boxed
against each other. A letter to the gardener leads into the circle and is not on
it. -/

/-- The text of a service with a circle of two structures. -/
def gardenText : String :=
  "\x7b\"metadata\":\x7b\"apiVersion\":\"1\",\"endpointPrefix\":\"garden\"," ++
  "\"protocol\":\"rest-json\"\x7d,\"shapes\":\x7b" ++
  "\"Garden\":\x7b\"type\":\"structure\",\"members\":\x7b" ++
  "\"Keeper\":\x7b\"shape\":\"Gardener\"\x7d\x7d\x7d," ++
  "\"Gardener\":\x7b\"type\":\"structure\",\"members\":\x7b" ++
  "\"Name\":\x7b\"shape\":\"Name\"\x7d,\"Place\":\x7b\"shape\":\"Garden\"\x7d\x7d\x7d," ++
  "\"Letter\":\x7b\"type\":\"structure\",\"members\":\x7b" ++
  "\"To\":\x7b\"shape\":\"Gardener\"\x7d\x7d\x7d," ++
  "\"Name\":\x7b\"type\":\"string\"\x7d\x7d\x7d"

/-- The definition in the text. -/
def Definition.garden : Definition where
  version := none
  metadata :=
    { apiVersion := "1", endpointPrefix := "garden",
      protocol := some "rest-json", protocols := [], serviceId := none,
      serviceAbbreviation := none, serviceFullName := none, jsonVersion := none,
      targetPrefix := none, xmlNamespace := none, signingName := none,
      signatureVersion := none }
  operations := []
  shapes :=
    [("Garden", { ShapeEntry.bare "structure" with
        members := [("Keeper", MemberEntry.bare "Gardener")] }),
      ("Gardener", { ShapeEntry.bare "structure" with
        members := [("Name", MemberEntry.bare "Name"), ("Place", MemberEntry.bare "Garden")] }),
      ("Letter", { ShapeEntry.bare "structure" with
        members := [("To", MemberEntry.bare "Gardener")] }),
      ("Name", ShapeEntry.bare "string")]
  documentation := none

theorem Definition.ofText?_garden :
    Definition.ofText? gardenText = some Definition.garden := by
  -- The pieces of the text are taken apart before they are read.
  unfold Definition.ofText? Json.ofText? gardenText
  simp only [String.toList_append]
  decide +kernel

theorem boxedMembers_garden :
    ((Sources.mk Definition.garden none none none).toService.result.map (·.boxedMembers)) =
      .ok [("Garden", "Keeper"), ("Gardener", "Place")] := by cbv

theorem Blueprint.boxes_garden : ∃ s b,
    Definition.ofText? gardenText = some Definition.garden ∧
      (Sources.mk Definition.garden none none none).toService.result = .ok s ∧
      Blueprint.of s [] = .ok b ∧
      b.boxed = [("Garden", "Keeper"), ("Gardener", "Place")] ∧ b.BoxesCircles := by
  obtain ⟨s, hs, hboxed⟩ := map_eq_ok.mp boxedMembers_garden
  have hknown : Usage.Known s [] := nofun
  obtain ⟨b, hb⟩ := exists_of_known hknown
  exact ⟨s, b, Definition.ofText?_garden, hs, hb, (boxed_of hb).2.trans hboxed,
    boxes_circles Definition.ofText?_garden hs hb⟩

end Clientwright
