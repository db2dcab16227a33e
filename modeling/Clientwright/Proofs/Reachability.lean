import Clientwright.Blueprint.Usage
import Clientwright.Definition.Sources
import Clientwright.Proofs.Traces
import Clientwright.Proofs.Unfolding
import Clientwright.Proofs.Walks
import Clientwright.Proofs.WellFormed
import Mathlib

/-!
# The usage of a service is what its operations reach

The usage is found in two layers. Inside a member the lists and maps are
unfolded down to structures and scalars, and from structure to structure there
is a walk. What it is meant to be has one layer only: the shapes that can be
reached from the members of an input or output, by any number of references of
any kind. This file takes the layers together again.

A path along references is cut at its structures. The pieces between them stay
in lists and maps and are what unfolding shows, the cuts are the steps of the
walk. Going from the path to the walk is an induction from the far end, since
there the structure that is looked for stands. An enumerated text ends a path
without being a structure, so there the last structure before it is wanted, and
it is the input itself if there is none.

The walk tells structures apart by their names. That the name a structure
carries is the name it is kept under comes from the conversion, which is why
these statements are about services that come from documents.
-/

namespace Clientwright

open Relation Outcome

/-! ## Services that come from documents -/

theorem Service.Holds.congr {s t : Service} (h : t.shapes = s.shapes) {k n : String}
    (hk : s.Holds k n) : t.Holds k n := by
  have hshape : t.shape? = s.shape? := by
    funext n
    rw [Service.shape?, Service.shape?, h]
  cases hk with
  | item hk => exact .item (hshape ▸ hk)
  | key hk => exact .key (hshape ▸ hk)
  | value hk => exact .value (hshape ▸ hk)

theorem Service.Leads.congr {s t : Service} (h : t.shapes = s.shapes) {k n : String}
    (hk : s.Leads k n) : t.Leads k n := by
  have hshape : t.shape? = s.shape? := by
    funext n
    rw [Service.shape?, Service.shape?, h]
  cases hk with
  | member hk hm => exact .member (hshape ▸ hk) hm
  | held hk => exact .held (hk.congr h)

/-- Paginators and waiters are beside the references. -/
theorem Service.Closed.congr {s t : Service} (hs : s.Closed) (h : t.shapes = s.shapes)
    (ho : t.operations = s.operations) : t.Closed := by
  have hshape : t.shape? = s.shape? := by
    funext n
    rw [Service.shape?, Service.shape?, h]
  refine ⟨fun hk => hs.named (hshape ▸ hk), fun hk => ?_, fun hk => ?_⟩
  · rw [hshape]
    exact hs.resolved (hk.congr h.symm)
  · rw [h]
    rw [Service.operation?, ho] at hk
    exact hs.operations hk

/-- Whatever documents a service comes from, its references lead somewhere. -/
theorem Sources.closed_of_toService {src : Sources} {s : Service}
    (h : src.toService.result = .ok s) : s.Closed := by
  obtain ⟨t, ht, h⟩ := Trace.bind_result_eq_ok.mp h
  have ht : src.definition.toService src.serviceName = .ok t := mapError_eq_ok.mp ht
  obtain ⟨-, hbecomes⟩ := Definition.becomes_of_toService ht
  -- The paginators and the waiters may each be there or not.
  split at h
  · split at h <;>
    · obtain ⟨paginators, -, h⟩ := Trace.bind_result_eq_ok.mp h
      obtain ⟨waiters, -, h⟩ := Trace.bind_result_eq_ok.mp h
      obtain rfl := Except.ok.inj h
      exact hbecomes.closed.congr rfl rfl
  · split at h <;>
    · obtain ⟨paginators, -, h⟩ := Trace.bind_result_eq_ok.mp h
      obtain rfl := Except.ok.inj h
      exact hbecomes.closed.congr rfl rfl

namespace Service

variable {s : Service} {t u : StructureShape} {k n e : String}

/-! ## What is reached -/

/-- There is a structure of the name. -/
def IsStructure (s : Service) (n : String) : Prop := ∃ t, s.shape? n = some (.structure t)

/-- There is a text of the name whose values are listed. -/
def IsEnumerated (s : Service) (n : String) : Prop :=
  ∃ t, s.shape? n = some (.scalar t) ∧ t.kind = .string ∧ t.enumValues ≠ []

/-- A member of the structure leads to the shape, in any number of steps. -/
def ReachedFrom (s : Service) (t : StructureShape) (n : String) : Prop :=
  ∃ m ∈ t.members, ReflTransGen s.Leads m.shape n

theorem isEnum_iff {t : ScalarShape} :
    t.isEnum = true ↔ t.kind = .string ∧ t.enumValues ≠ [] := by
  simp [ScalarShape.isEnum]

theorem leads_of_holds (h : ReflTransGen s.Holds k n) : ReflTransGen s.Leads k n :=
  h.lift id fun _ _ h => .held h

/-- What a structure among the reached ones holds is reached. -/
theorem ReachedFrom.member (h : s.ReachedFrom t k) (hk : s.shape? k = some (.structure u))
    {m : Member} (hm : m ∈ u.members) (hn : ReflTransGen s.Holds m.shape n) :
    s.ReachedFrom t n := by
  obtain ⟨m₀, hm₀, hpath⟩ := h
  exact ⟨m₀, hm₀, (hpath.tail (.member hk hm)).trans (leads_of_holds hn)⟩

/-- A path has a last structure on the way to its end, or none at all. -/
theorem last_structure (h : ReflTransGen s.Leads k n) :
    ReflTransGen s.Holds k n ∨
      ∃ j u m, ReflTransGen s.Leads k j ∧ s.shape? j = some (.structure u) ∧
        m ∈ u.members ∧ ReflTransGen s.Holds m.shape n := by
  induction h with
  | refl => exact .inl .refl
  | @tail j n hpath hstep ih =>
      cases hstep with
      | @member u hj m hm => exact .inr ⟨j, u, m, hpath, hj, hm, .refl⟩
      | held hstep =>
          rcases ih with ih | ⟨i, u, m, hi, hu, hm, hrest⟩
          · exact .inl (ih.tail hstep)
          · exact .inr ⟨i, u, m, hi, hu, hm, hrest.tail hstep⟩

/-! ## Structures -/

theorem mem_heldStructures_iff :
    u ∈ s.heldStructures t ↔ ∃ m ∈ t.members, ∃ n,
      ReflTransGen s.Holds m.shape n ∧ s.shape? n = some (.structure u) := by
  simp only [heldStructures, List.mem_flatMap, mem_structures_value_iff]

theorem mem_allStructures_iff :
    t ∈ s.allStructures ↔ ∃ n, s.shape? n = some (.structure t) := by
  rw [allStructures, List.mem_filterMap]
  constructor
  · rintro ⟨shape, hshape, h⟩
    obtain ⟨n, hn⟩ := Table.mem_values_iff.mp hshape
    split at h
    · obtain rfl := Option.some.inj h
      exact ⟨n, hn⟩
    · cases h
  · rintro ⟨n, hn⟩
    exact ⟨_, Table.mem_values_iff.mpr ⟨n, hn⟩, rfl⟩

theorem reachedFrom_of_reaches (h : s.structureWalk.Reaches (s.heldStructures t) u) :
    ∃ n, s.shape? n = some (.structure u) ∧ s.ReachedFrom t n := by
  obtain ⟨b, hb, hpath⟩ := h
  induction hpath with
  | refl =>
      obtain ⟨m, hm, n, hn, hshape⟩ := mem_heldStructures_iff.mp hb
      exact ⟨n, hshape, m, hm, leads_of_holds hn⟩
  | tail _ hnext ih =>
      obtain ⟨k, hk, hreached⟩ := ih
      obtain ⟨m, hm, n, hn, hshape⟩ := mem_heldStructures_iff.mp hnext
      exact ⟨n, hshape, hreached.member hk hm hn⟩

/-- The path is followed from its far end, where the structure stands; each
structure on the way becomes a step of the walk. -/
theorem reaches_of_leads (hn : s.shape? n = some (.structure u))
    (h : ReflTransGen s.Leads k n) :
    s.structureWalk.Reaches (s.value k).structures u := by
  induction h using ReflTransGen.head_induction_on with
  | refl => exact ⟨u, mem_structures_value_iff.mpr ⟨n, .refl, hn⟩, .refl⟩
  | @head k m hstep _ ih =>
      obtain ⟨b, hb, hpath⟩ := ih
      obtain ⟨j, hj, hshape⟩ := mem_structures_value_iff.mp hb
      cases hstep with
      | @member v hk m hm =>
          have hnext : b ∈ s.heldStructures v :=
            mem_heldStructures_iff.mpr ⟨m, hm, j, hj, hshape⟩
          exact ⟨v, mem_structures_value_iff.mpr ⟨k, .refl, hk⟩, .head hnext hpath⟩
      | held hstep =>
          exact ⟨b, mem_structures_value_iff.mpr ⟨j, .head hstep hj, hshape⟩, hpath⟩

theorem reaches_of_reachedFrom (hn : s.shape? n = some (.structure u))
    (h : s.ReachedFrom t n) : s.structureWalk.Reaches (s.heldStructures t) u := by
  obtain ⟨m, hm, hpath⟩ := h
  obtain ⟨b, hb, hwalk⟩ := reaches_of_leads hn hpath
  exact ⟨b, List.mem_flatMap.mpr ⟨m, hm, hb⟩, hwalk⟩

/-- The walk from a structure finds exactly the structures that are reached from
its members. The structure itself is found only if it is one of them. -/
theorem mem_reachedStructures_iff (hs : s.Closed) :
    u ∈ s.reachedStructures t ↔
      s.shape? u.name = some (.structure u) ∧ s.ReachedFrom t u.name := by
  have hshape : ∀ v, s.structureWalk.Reaches (s.heldStructures t) v →
      s.shape? v.name = some (.structure v) ∧ s.ReachedFrom t v.name := by
    intro v hv
    obtain ⟨n, hn, hreached⟩ := reachedFrom_of_reaches hv
    obtain rfl : v.name = n := hs.named hn
    exact ⟨hn, hreached⟩
  rw [reachedStructures, Walk.mem_reach_iff]
  · exact ⟨hshape u, fun ⟨hn, h⟩ => reaches_of_reachedFrom hn h⟩
  · intro v hv
    exact List.mem_map_of_mem (mem_allStructures_iff.mpr ⟨_, (hshape v hv).1⟩)
  · intro v w hv hw hmark
    have hmark : v.name = w.name := hmark
    have h := (hshape v hv).1.symm.trans (hmark ▸ (hshape w hw).1)
    exact Shape.structure.inj (Option.some.inj h)

/-! ## Enumerated texts -/

theorem mem_heldEnums_iff (hs : s.Closed) :
    e ∈ s.heldEnums t ↔ s.IsEnumerated e ∧
      ∃ m ∈ t.members, ReflTransGen s.Holds m.shape e := by
  simp only [heldEnums, List.mem_flatMap, mem_enums_value_iff, isEnum_iff]
  constructor
  · rintro ⟨m, hm, n, v, hpath, hn, hv, rfl⟩
    obtain rfl : v.name = n := hs.named hn
    exact ⟨⟨v, hn, hv⟩, m, hm, hpath⟩
  · rintro ⟨⟨v, hv, henum⟩, m, hm, hpath⟩
    exact ⟨m, hm, e, v, hpath, hv, henum, hs.named hv⟩

/-- An enumerated text is reached exactly if the structure holds it or one of
the reached structures does. -/
theorem mem_heldEnums_reached_iff (hs : s.Closed) :
    (e ∈ s.heldEnums t ∨ ∃ u ∈ s.reachedStructures t, e ∈ s.heldEnums u) ↔
      s.IsEnumerated e ∧ s.ReachedFrom t e := by
  simp only [mem_heldEnums_iff hs, mem_reachedStructures_iff hs]
  constructor
  · rintro (⟨he, m, hm, hpath⟩ | ⟨u, ⟨hu, hreached⟩, he, m, hm, hpath⟩)
    · exact ⟨he, m, hm, leads_of_holds hpath⟩
    · exact ⟨he, hreached.member hu hm hpath⟩
  · rintro ⟨he, m, hm, hpath⟩
    rcases last_structure hpath with hpath | ⟨j, u, m', hj, hu, hm', hpath⟩
    · exact .inl ⟨he, m, hm, hpath⟩
    · obtain rfl : u.name = j := hs.named hu
      exact .inr ⟨u, ⟨hu, m, hm, hj⟩, he, m', hm', hpath⟩

end Service

/-! ## Usage -/

namespace Service

/-- The structure is the input of one of the operations. -/
def IsInput (s : Service) (operations : List String) (t : StructureShape) : Prop :=
  ∃ n ∈ operations, ∃ o k, s.operation? n = some o ∧ o.input = some k ∧
    s.shape? k = some (.structure t)

/-- The structure is the output of one of the operations. -/
def IsOutput (s : Service) (operations : List String) (t : StructureShape) : Prop :=
  ∃ n ∈ operations, ∃ o k, s.operation? n = some o ∧ o.output = some k ∧
    s.shape? k = some (.structure t)

/-- The structures that the operations name in one of their places. -/
theorem mem_named_iff (named : Operation → Option String) {s : Service}
    {names : List String} {t : StructureShape} :
    t ∈ (names.filterMap s.operation?).filterMap (fun o => (named o).bind s.structure?) ↔
      ∃ n ∈ names, ∃ o k, s.operation? n = some o ∧ named o = some k ∧
        s.shape? k = some (.structure t) := by
  simp only [List.mem_filterMap, Option.bind_eq_some_iff, structure?_eq_some_iff]
  refine ⟨fun ⟨o, ⟨n, hn, ho⟩, k, hk, ht⟩ => ?_, fun ⟨n, hn, o, k, ho, hk, ht⟩ => ?_⟩
  · exact ⟨n, hn, o, k, ho, hk, ht⟩
  · exact ⟨o, ⟨n, hn, ho⟩, k, hk, ht⟩

theorem mem_inputs_iff {s : Service} {names : List String} {t : StructureShape} :
    t ∈ (names.filterMap s.operation?).filterMap s.inputOf? ↔ s.IsInput names t :=
  mem_named_iff (·.input)

theorem mem_outputs_iff {s : Service} {names : List String} {t : StructureShape} :
    t ∈ (names.filterMap s.operation?).filterMap s.outputOf? ↔ s.IsOutput names t :=
  mem_named_iff (·.output)

end Service

namespace Usage

variable {s : Service} {selection names : List String} {u : Usage}

/-- Every operation of the selection exists. -/
def Known (s : Service) (selection : List String) : Prop :=
  ∀ n ∈ selection, ∃ o, s.operation? n = some o

/-- The usage is what the selected operations reach, in order and without
repetitions. -/
structure Exact (s : Service) (selection : List String) (u : Usage) : Prop where
  operations : ∀ n, n ∈ u.operations ↔
    n ∈ selection ∨ selection = [] ∧ n ∈ s.operations.keys
  serialized : ∀ n, n ∈ u.serialized ↔
    s.IsStructure n ∧ ∃ t, s.IsInput u.operations t ∧ s.ReachedFrom t n
  parsed : ∀ n, n ∈ u.parsed ↔
    s.IsStructure n ∧ ∃ t, s.IsOutput u.operations t ∧ s.ReachedFrom t n
  enums : ∀ n, n ∈ u.enums ↔ s.IsEnumerated n ∧
    ∃ t, (s.IsInput u.operations t ∨ s.IsOutput u.operations t) ∧ s.ReachedFrom t n
  ascending : ∀ l ∈ [u.operations, u.serialized, u.parsed, u.enums], l.Pairwise (· < ·)

theorem selected_cases (s : Service) (selection : List String) :
    (Known s selection ∧ ∃ names, selected s selection = .ok names ∧
      names.Pairwise (· < ·) ∧
      ∀ n, n ∈ names ↔ n ∈ selection ∨ selection = [] ∧ n ∈ s.operations.keys) ∨
    ∃ before n after, selection = before ++ n :: after ∧ Known s before ∧
      s.operation? n = none ∧
      selected s selection = .error (.unknownOperation s.name n) := by
  rw [selected]
  split
  next hempty =>
    obtain rfl := List.isEmpty_iff.mp hempty
    exact .inl ⟨nofun, _, rfl, Table.pairwise_keys _, by simp⟩
  next hempty =>
    have hne : selection ≠ [] := fun h => hempty (List.isEmpty_iff.mpr h)
    split
    next n hn =>
      obtain ⟨hunknown, before, after, hsplit, hbefore⟩ :=
        List.find?_eq_some_iff_append.mp hn
      refine .inr ⟨before, n, after, hsplit, fun m hm => ?_, ?_, rfl⟩
      · rw [← Option.isSome_iff_exists, ← Option.not_isNone]
        exact hbefore m hm
      · exact Option.isNone_iff_eq_none.mp hunknown
    next hknown =>
      refine .inl ⟨fun n hn => ?_, _, rfl, pairwise_sortedNames _, fun n => ?_⟩
      · rw [← Option.isSome_iff_exists, ← Option.not_isNone, Bool.not_eq_true']
        exact Bool.eq_false_iff.mpr (List.find?_eq_none.mp hknown n hn)
      · rw [mem_sortedNames]
        exact ⟨.inl, fun h => h.resolve_right fun h => hne h.1⟩

/-- The names of the structures that are reached from some roots. -/
theorem mem_reached_names_iff (hs : s.Closed) {roots : List StructureShape} {n : String} :
    n ∈ sortedNames ((roots.flatMap s.reachedStructures).map (·.name)) ↔
      s.IsStructure n ∧ ∃ t ∈ roots, s.ReachedFrom t n := by
  simp only [mem_sortedNames, List.mem_map, List.mem_flatMap,
    Service.mem_reachedStructures_iff hs]
  constructor
  · rintro ⟨u, ⟨t, ht, hu, hreached⟩, rfl⟩
    exact ⟨⟨u, hu⟩, t, ht, hreached⟩
  · rintro ⟨⟨u, hu⟩, t, ht, hreached⟩
    obtain rfl : u.name = n := hs.named hu
    exact ⟨u, ⟨t, ht, hu, hreached⟩, rfl⟩

/-- The enumerated texts that are reached from some roots. -/
theorem mem_reached_enums_iff (hs : s.Closed) {roots : List StructureShape} {e : String} :
    e ∈ sortedNames ((roots ++ roots.flatMap s.reachedStructures).flatMap s.heldEnums) ↔
      s.IsEnumerated e ∧ ∃ t ∈ roots, s.ReachedFrom t e := by
  rw [mem_sortedNames, List.flatMap_append, List.mem_append]
  simp only [List.mem_flatMap]
  constructor
  · rintro (⟨t, ht, he⟩ | ⟨u, ⟨t, ht, hu⟩, he⟩)
    · obtain ⟨henum, h⟩ := (Service.mem_heldEnums_reached_iff hs).mp (.inl he)
      exact ⟨henum, t, ht, h⟩
    · obtain ⟨henum, h⟩ := (Service.mem_heldEnums_reached_iff hs).mp (.inr ⟨u, hu, he⟩)
      exact ⟨henum, t, ht, h⟩
  · rintro ⟨henum, t, ht, h⟩
    rcases (Service.mem_heldEnums_reached_iff hs).mpr ⟨henum, h⟩ with he | ⟨u, hu, he⟩
    · exact .inl ⟨t, ht, he⟩
    · exact .inr ⟨u, ⟨t, ht, hu⟩, he⟩

theorem exact_of_analyze (hs : s.Closed) (h : analyze s selection = .ok u) :
    u.Exact s selection := by
  obtain ⟨names, hnames, h⟩ := bind_eq_ok.mp h
  obtain rfl := pure_eq_ok.mp h
  rcases selected_cases s selection with
    ⟨-, names', hnames', hordered, hmem⟩ | ⟨_, _, _, _, _, _, herror⟩
  · obtain rfl := Except.ok.inj (hnames.symm.trans hnames')
    refine ⟨hmem, fun n => ?_, fun n => ?_, fun n => ?_, ?_⟩
    · rw [mem_reached_names_iff hs]
      simp only [Service.mem_inputs_iff]
    · rw [mem_reached_names_iff hs]
      simp only [Service.mem_outputs_iff]
    · rw [List.append_assoc, ← List.flatMap_append, mem_reached_enums_iff hs]
      simp only [List.mem_append, Service.mem_inputs_iff, Service.mem_outputs_iff]
    · simp only [List.forall_mem_cons, List.not_mem_nil, false_imp_iff, implies_true,
        and_true]
      exact ⟨hordered, pairwise_sortedNames _, pairwise_sortedNames _,
        pairwise_sortedNames _⟩
  · cases hnames.symm.trans herror

theorem analyze_cases (s : Service) (selection : List String) :
    (Known s selection ∧ ∃ u, analyze s selection = .ok u) ∨
    ∃ before n after, selection = before ++ n :: after ∧ Known s before ∧
      s.operation? n = none ∧
      analyze s selection = .error (.unknownOperation s.name n) := by
  rcases selected_cases s selection with
    ⟨hknown, names, hnames, -⟩ | ⟨before, n, after, hsplit, hbefore, hn, herror⟩
  · exact .inl ⟨hknown, _, bind_eq_ok.mpr ⟨names, hnames, rfl⟩⟩
  · refine .inr ⟨before, n, after, hsplit, hbefore, hn, ?_⟩
    rw [analyze, herror]
    rfl

/-- The usage of a service that comes from documents is exactly what the selected
operations reach. A selection is refused exactly if it has an unknown operation,
and then for the first of them. -/
theorem analyze_exact {src : Sources} {s : Service} (h : src.toService.result = .ok s)
    (selection : List String) :
    ((∃ u, analyze s selection = .ok u) ↔ Known s selection) ∧
      (∀ u, analyze s selection = .ok u → u.Exact s selection) ∧
      ∀ f, analyze s selection = .error f → ∃ before n after,
        selection = before ++ n :: after ∧ Known s before ∧ s.operation? n = none ∧
          f = .unknownOperation s.name n := by
  have hs := src.closed_of_toService h
  rcases analyze_cases s selection with
    ⟨hknown, u, hu⟩ | ⟨before, n, after, rfl, hbefore, hn, herror⟩
  · refine ⟨⟨fun _ => hknown, fun _ => ⟨u, hu⟩⟩, fun _ => exact_of_analyze hs, ?_⟩
    intro f hf
    cases hu.symm.trans hf
  · refine ⟨⟨fun ⟨u, hu⟩ => ?_, fun hknown => ?_⟩, fun _ => exact_of_analyze hs, ?_⟩
    · cases herror.symm.trans hu
    · obtain ⟨o, ho⟩ := hknown n (List.mem_append_right _ List.mem_cons_self)
      cases hn.symm.trans ho
    · intro f hf
      exact ⟨before, n, after, rfl, hbefore, hn,
        (Except.error.inj (herror.symm.trans hf)).symm⟩

end Usage

/-- The documents of the orchard. -/
def Sources.orchard : Sources where
  definition := Definition.orchard
  givenName := some "orchard"
  paginators := none
  waiters := none

namespace Usage

/-- In the orchard trees are read and not written. The output is not among them,
since no tree leads back to it. -/
theorem analyze_of_orchard :
    (Sources.orchard.toService.result.map fun s => analyze s ["GetTree"]) =
      .ok (.ok ⟨["GetTree"], [], ["Tree"], ["Kind"]⟩) := by cbv

theorem analyze_orchard : ∃ s, Sources.orchard.toService.result = .ok s ∧
    Exact s ["GetTree"] ⟨["GetTree"], [], ["Tree"], ["Kind"]⟩ := by
  obtain ⟨s, hs, hu⟩ := map_eq_ok.mp analyze_of_orchard
  obtain ⟨-, hexact, -⟩ := analyze_exact hs ["GetTree"]
  exact ⟨s, hs, hexact _ hu⟩

end Usage

end Clientwright
