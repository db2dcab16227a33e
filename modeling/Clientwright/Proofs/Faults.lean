import Clientwright.Proofs.ClientFiles
import Clientwright.Proofs.WrittenFiles

/-!
# What can go wrong when a crate is generated

Generating looks shapes and operations up by name all over the place, and each
look-up has a fault for when there is nothing. For a service that comes from
documents none of them happens. The selection was checked when the blueprint was
made, the types are those that the usage found, and inputs, outputs and
placeholders lead somewhere since the operations fit the shapes. So the faults
that are left are those of the emitters, and the values that these are given
fit.

Nothing here looks at files. What a place does with them is its own affair, and
if it never fails then what comes of running the generator is what comes of the
trace.
-/

namespace Clientwright

open Outcome

namespace Blueprint

variable {b : Blueprint} {o : Operation} {n : String}

theorem mem_operations_iff :
    o ∈ b.operations ↔ ∃ n ∈ b.usage.operations, b.service.operation? n = some o := by
  rw [operations, List.mem_filterMap]

namespace Ready

theorem covers_input (hb : b.Ready) (ho : o ∈ b.operations) :
    ∀ t, b.service.inputOf? o = some t → b.Covers b.Exports t := by
  intro t ht
  obtain ⟨n, hn, ho⟩ := mem_operations_iff.mp ho
  obtain ⟨k, hk, ht⟩ := Option.bind_eq_some_iff.mp ht
  exact hb.covers_root (.inl ⟨n, hn, o, k, ho, hk, Service.structure?_eq_some_iff.mp ht⟩)

theorem covers_output (hb : b.Ready) (ho : o ∈ b.operations) :
    ∀ t, b.service.outputOf? o = some t → b.Covers b.Exports t := by
  intro t ht
  obtain ⟨n, hn, ho⟩ := mem_operations_iff.mp ho
  obtain ⟨k, hk, ht⟩ := Option.bind_eq_some_iff.mp ht
  exact hb.covers_root (.inr ⟨n, hn, o, k, ho, hk, Service.structure?_eq_some_iff.mp ht⟩)

/-- The member behind a placeholder is there. -/
theorem binds (hb : b.Ready) (ho : o ∈ b.operations) :
    Request.Binds b b.Exports o (b.service.inputOf? o) := by
  intro p hp
  obtain ⟨n, hn, hfind⟩ := mem_operations_iff.mp ho
  obtain ⟨k, t, hk, ht, m, hm, hlocation, hname⟩ :=
    (hb.closed.operations hfind).placeholders p hp
  have hinput : b.service.inputOf? o = some t := by
    rw [Service.inputOf?, hk, Option.bind_some]
    exact Service.structure?_eq_some_iff.mpr ht
  have hbound : (Request.boundMember? (some t) p).isSome = true := by
    rw [Request.boundMember?, Option.bind_some, List.find?_isSome]
    exact ⟨m, hm, by simp [hlocation, hname]⟩
  obtain ⟨found, hfound⟩ := Option.isSome_iff_exists.mp hbound
  rw [hinput]
  exact ⟨found, hfound,
    hb.covers_input ho t hinput found (List.mem_of_find?_eq_some hfound)⟩

end Ready

end Blueprint

namespace Crate

variable {b : Blueprint} {o : Operation} {n : String} {P : Area → String → Prop}

/-- The only errors are faults of emission that the service permits. -/
def Permitted (s : Service) (e : Error) : Prop := ∃ f, s.Permits f ∧ .emission f = e

/-- The trace ends well, or with an error that the service permits. -/
def Ends {α : Type} (s : Service) (x : Trace Product α) : Prop :=
  Meets (fun _ => True) (Permitted s) x.result

section Ends

variable {α β : Type} {s : Service} {x : Trace Product α}

theorem ends_bind {f : α → Trace Product β} (hx : Ends s x) (hf : ∀ a, Ends s (f a)) :
    Ends s (x >>= f) := by
  rw [Ends, Trace.result_bind]
  exact meets_bind hx fun a _ => hf a

theorem ends_ok {a : α} (h : x.result = .ok a) : Ends s x := by
  rw [Ends, h]
  exact meets_ok trivial

theorem ends_mapM {f : α → Trace Product β} {l : List α} (h : ∀ a ∈ l, Ends s (f a)) :
    Ends s (l.mapM f) := by
  rw [Ends, Trace.result_mapM]
  exact meets_mono (meets_mapM h) fun _ _ => trivial

theorem ends_emitted {Q : α → Prop} {r : Except EmissionFault α}
    (h : Meets Q s.Permits r) : Ends s (emitted r) :=
  meets_mono (meets_mapError h) fun _ _ => trivial

end Ends

theorem generateOperation_ends (hb : b.Ready) (hn : n ∈ b.usage.operations) :
    Ends b.service (generateOperation b n) := by
  obtain ⟨o, ho⟩ := hb.exists_operation hn
  have hmem : o ∈ b.operations := Blueprint.mem_operations_iff.mpr ⟨n, hn, ho⟩
  rw [generateOperation, ho]
  refine ends_bind (ends_emitted (inputFile_meets (hb.binds hmem) (hb.covers_input hmem)))
    fun input => ?_
  refine ends_bind (ends_ok rfl) fun _ => ?_
  refine ends_bind (ends_emitted (outputFile?_meets (hb.covers_output hmem))) fun r => ?_
  split
  · exact ends_bind (ends_ok rfl) fun _ => ends_ok rfl
  · exact ends_ok rfl

theorem generateOperations_ends (hb : b.Ready) :
    Ends b.service (generateOperations b) := by
  refine ends_bind (ends_mapM fun n hn => generateOperation_ends hb hn) fun modules => ?_
  exact ends_bind (ends_ok rfl) fun _ => ends_ok rfl

theorem generateStructure_ends (hb : b.Ready) (hn : n ∈ b.usage.structures) :
    Ends b.service (generateStructure b n) := by
  obtain ⟨⟨t, ht⟩, -⟩ := hb.mem_structures_iff.mp hn
  rw [generateStructure, Service.structure?_eq_some_iff.mpr ht]
  refine ends_bind (ends_emitted (structureFile_meets (hb.covers_structure hn ht)))
    fun code => ?_
  exact ends_bind (ends_ok rfl) fun _ => ends_ok rfl

theorem generateEnum_ends (hb : b.Ready) (hn : n ∈ b.usage.enums) :
    Ends b.service (generateEnum b n) := by
  obtain ⟨⟨s, hs, -⟩, -⟩ := hb.mem_enums_iff.mp hn
  refine ends_bind (ends_emitted (enumFile_meets (P := b.Exports) hs)) fun code => ?_
  exact ends_bind (ends_ok rfl) fun _ => ends_ok rfl

theorem generateTypes_ends (hb : b.Ready) : Ends b.service (generateTypes b) := by
  refine ends_bind (ends_mapM fun n hn => generateStructure_ends hb hn) fun structures => ?_
  refine ends_bind (ends_mapM fun n hn => generateEnum_ends hb hn) fun enums => ?_
  exact ends_ok rfl

/-- Generating a crate from a blueprint of a service that comes from documents
has no other faults than the service permits. -/
theorem generate_ends (hb : b.Ready) (o : Options) : Ends b.service (generate b o) := by
  rw [generate_eq]
  refine ends_bind (ends_ok rfl) fun _ => ?_
  refine ends_bind (ends_ok rfl) fun _ => ?_
  refine ends_bind (ends_ok rfl) fun _ => ?_
  refine ends_bind (generateOperations_ends hb) fun _ => ?_
  refine ends_bind (generateTypes_ends hb) fun _ => ?_
  -- What is left is written without looking anything up.
  refine ends_bind (ends_ok rfl) fun paginators => ?_
  refine ends_bind (ends_ok rfl) fun waiters => ?_
  exact ends_bind (ends_ok rfl) fun _ => ends_bind (ends_ok rfl) fun _ => ends_ok rfl

end Crate

/-! ## Places that never fail -/

namespace Place

variable {m : Type → Type} [Monad m] [LawfulMonad m] {p : Place m}

/-- Whatever the place is asked for it does. -/
def NeverFails (p : Place m) : Prop :=
  ∀ a, ∃ done : m Unit, p.act a = (fun _ => Except.ok ()) <$> done

theorem neverFails_dryRun (p : Place m) : p.dryRun.NeverFails := by
  intro a
  refine ⟨modify (· ++ a.size?.toList), StateT.ext fun sizes => ?_⟩
  rw [StateT.run_map, StateT.run_modify, map_pure]
  rfl

theorem perform_of_neverFails (hp : p.NeverFails) (events : List Event) :
    ∃ done : m Unit, p.perform events = (fun _ => Except.ok ()) <$> done := by
  induction events with
  | nil => exact ⟨pure (), by rw [perform, map_pure]⟩
  | cons e rest ih =>
      obtain ⟨done, hdone⟩ := ih
      cases e with
      | warning w =>
          refine ⟨p.warn w >>= fun _ => done, ?_⟩
          rw [perform, hdone, map_bind]
      | action a =>
          obtain ⟨first, hfirst⟩ := hp a
          refine ⟨first >>= fun _ => done, ?_⟩
          rw [perform, hfirst, bind_map_left, map_bind]
          simp only [hdone]

/-- At such a place a trace ends as it ends by itself. -/
theorem run_of_neverFails {α : Type} (hp : p.NeverFails) (t : Trace Event α) :
    ∃ done : m Unit, p.run t = (fun _ => t.result) <$> done := by
  obtain ⟨done, hdone⟩ := perform_of_neverFails hp t.events
  refine ⟨done, ?_⟩
  rw [run, hdone, bind_map_left, map_eq_pure_bind]

end Place

/-! ## Generators -/

namespace Generator

theorem of_eq_ok {s : Service} {o : Options} {g : Generator}
    (h : Generator.of s o = .ok g) :
    Blueprint.of s o.operations = .ok g.blueprint ∧ g.options = o := by
  obtain ⟨b, hb, h⟩ := bind_eq_ok.mp h
  obtain rfl := pure_eq_ok.mp h
  exact ⟨hb, rfl⟩

theorem of_succeeds {s : Service} {o : Options}
    (h : Usage.Known s o.operations) : ∃ g, Generator.of s o = .ok g := by
  obtain ⟨b, hb⟩ := Blueprint.exists_of_known h
  exact ⟨_, bind_eq_ok.mpr ⟨b, hb, rfl⟩⟩

/-- A service that comes from documents, and in which no list or map holds
itself, is generated for every selection of its operations and every option.
Whatever place the files go to, as long as it never fails there is no error but
that some shape does not fit its binding. -/
theorem generate_ends_or_binding {src : Sources} {s : Service}
    (h : src.toService.result = .ok s) (hguarded : s.Guarded) (o : Options)
    (hknown : Usage.Known s o.operations) :
    ∃ g, Generator.of s o = .ok g ∧
      ∀ {m : Type → Type} [Monad m] [LawfulMonad m] (p : Place m), p.NeverFails →
        ∀ out, ∃ (done : m Unit) (r : Except Error Unit),
          p.run (g.generate out) = (fun _ => r) <$> done ∧
          ∀ e, r = .error e → ∃ f : EmissionFault, f.IsBinding ∧ e = .emission f := by
  obtain ⟨g, hg⟩ := of_succeeds hknown
  refine ⟨g, hg, fun p hp out => ?_⟩
  obtain ⟨hb, -⟩ := of_eq_ok hg
  obtain ⟨hready, hservice⟩ := Blueprint.ready_of_of h hb
  obtain ⟨done, hdone⟩ := Place.run_of_neverFails hp (g.generate out)
  refine ⟨done, (g.generate out).result, hdone, fun e he => ?_⟩
  obtain ⟨f, hpermits, rfl⟩ := (Crate.generate_ends hready g.options).fault he
  exact ⟨f, hpermits (hservice ▸ hguarded), rfl⟩

end Generator

/-- The list of the orchard holds trees, so no list holds itself. -/
theorem Sources.guarded_orchard {s : Service}
    (h : Sources.orchard.toService.result = .ok s) : s.Guarded := by
  have hcheck : (Sources.orchard.toService.result.map fun s =>
      s.shapes.keys.all fun k => (s.held k).all fun n => (s.structure? n).isSome) =
        .ok true := by decide
  rw [h] at hcheck
  have hall := List.all_eq_true.mp (Except.ok.inj hcheck)
  refine Service.guarded_of_holds_structures fun k n hn => ?_
  have hk : k ∈ s.shapes.keys := by
    cases hn with
    | item hl => exact Table.mem_keys_iff.mpr ⟨_, hl⟩
    | key hm => exact Table.mem_keys_iff.mpr ⟨_, hm⟩
    | value hm => exact Table.mem_keys_iff.mpr ⟨_, hm⟩
  have hsome := List.all_eq_true.mp (hall k hk) n (Service.holds_iff.mp hn)
  obtain ⟨t, ht⟩ := Option.isSome_iff_exists.mp hsome
  exact ⟨t, Service.structure?_eq_some_iff.mp ht⟩

namespace Generator

/-- A dry run in the orchard, where every operation is selected. -/
theorem generate_orchard : ∃ s g, Sources.orchard.toService.result = .ok s ∧
    s.Guarded ∧ Generator.of s {} = .ok g ∧ Record.place.dryRun.NeverFails ∧
      ∃ (done : StateT (List (String × Nat)) (StateM Record) Unit) (r : Except Error Unit),
        Record.place.dryRun.run (g.generate "out") = (fun _ => r) <$> done ∧
        ∀ e, r = .error e → ∃ f : EmissionFault, f.IsBinding ∧ e = .emission f := by
  have hnames : Sources.orchard.toService.result.map (·.name) = .ok "orchard" := rfl
  obtain ⟨s, hs, -⟩ := map_eq_ok.mp hnames
  have hguarded := Sources.guarded_orchard hs
  have hknown : Usage.Known s [] := nofun
  obtain ⟨g, hg, hends⟩ := generate_ends_or_binding hs hguarded {} hknown
  have hplace := Place.neverFails_dryRun Record.place
  exact ⟨s, g, hs, hguarded, hg, hplace, hends _ hplace "out"⟩

end Generator

end Clientwright
