import Clientwright.Proofs.ClientFiles
import Clientwright.Proofs.Removals
import Clientwright.Proofs.WrittenFiles

/-!
# Entries that are left out

A paginator or a waiter that no code can be generated for is left out with a
warning, and the run goes on. It should go on as if the entry had never been in
its document, which is a statement about two runs: one over the documents as they
are and one over the documents without the entry.

The two runs go side by side through the same stages, and each stage of the
second is the one of the first with everything about the entry taken out. Most
stages are `Silent` about entries and are the same in both runs. The stages for
pages and waiters are left, and they agree because nothing was emitted for the
entry: a warning about it is the sign that its only attempt has failed, or that
it was not even attempted.
-/

namespace Clientwright

open Outcome

/-! ## Crates -/

/-- The blueprint of the service without an entry. -/
def Blueprint.without (b : Blueprint) : Entry → Blueprint
  | .paginator n => b.revised b.usage (b.service.paginators.without n) b.service.waiters
  | .waiter n => b.revised b.usage b.service.paginators (b.service.waiters.without n)

theorem Blueprint.of_without (s : Service) (e : Entry) (selection : List String) :
    Blueprint.of (s.without e) selection =
      (Blueprint.of s selection).map fun b => b.without e := by
  cases e with
  | paginator n =>
      refine (Blueprint.of_revised s _ _ selection).trans ?_
      rw [Blueprint.of]
      cases Usage.analyze s selection <;> rfl
  | waiter n =>
      refine (Blueprint.of_revised s _ _ selection).trans ?_
      rw [Blueprint.of]
      cases Usage.analyze s selection <;> rfl

namespace Crate

variable {b : Blueprint} {o : Options} {e : Entry} {n : String}

/-- The trace speaks of no entry. -/
def Silent {α : Type} (t : Trace Product α) : Prop := ∀ x ∈ t.events, x.about? = none

theorem silent_bind {α β : Type} {x : Trace Product α} {f : α → Trace Product β} (hx : Silent x)
    (hf : ∀ a, Silent (f a)) : Silent (x >>= f) := fun v hv => by
  rcases Trace.of_mem_events_bind hv with h | ⟨a, -, h⟩
  · exact hx v h
  · exact hf a v h

theorem silent_pure {α : Type} (a : α) : Silent (pure a) := nofun

theorem silent_mapM {α β : Type} {f : α → Trace Product β} (hf : ∀ a, Silent (f a)) (l : List α) :
    Silent (l.mapM f) := by
  induction l with
  | nil => exact silent_pure _
  | cons a rest ih =>
      rw [List.mapM_cons]
      exact silent_bind (hf a) fun _ => silent_bind ih fun _ => silent_pure _

theorem silent_emitted {α : Type} (r : Except EmissionFault α) : Silent (emitted r) := nofun

theorem silent_writeFile (f : File) (c : Contents) : Silent (writeFile f c) :=
  fun _ hv => List.mem_singleton.mp hv ▸ rfl

theorem silent_writeCode (f : File) (code : Code) : Silent (writeCode f code) :=
  silent_writeFile _ _

theorem silent_folders : Silent (Trace.emitAll (folders.map Product.folder)) := fun x hx => by
  obtain ⟨folder, -, rfl⟩ := List.mem_map.mp hx
  rfl

theorem silent_generatePackage (p : Package) : Silent (generatePackage p) :=
  silent_bind (silent_writeFile _ _) fun _ => silent_bind (silent_writeFile _ _) fun _ =>
    silent_writeFile _ _

theorem silent_generateOperation (n : String) : Silent (generateOperation b n) := by
  unfold generateOperation
  split
  · refine silent_bind (silent_emitted _) fun _ => silent_bind (silent_writeFile _ _) fun _ =>
      silent_bind (silent_emitted _) fun output => ?_
    cases output with
    | none => exact silent_pure _
    | some code => exact silent_bind (silent_writeFile _ _) fun _ => silent_pure _
  · exact nofun

theorem silent_generateOperations : Silent (generateOperations b) :=
  silent_bind (silent_mapM silent_generateOperation _) fun _ =>
    silent_bind (silent_writeFile _ _) fun _ => silent_writeFile _ _

theorem silent_generateStructure (n : String) : Silent (generateStructure b n) := by
  unfold generateStructure
  split
  · exact silent_bind (silent_emitted _) fun _ => silent_bind (silent_writeFile _ _) fun _ =>
      silent_pure _
  · exact nofun

theorem silent_generateTypes : Silent (generateTypes b) :=
  silent_bind (silent_mapM silent_generateStructure _) fun _ =>
    silent_bind (silent_mapM (fun _ => silent_bind (silent_emitted _) fun _ =>
      silent_bind (silent_writeFile _ _) fun _ => silent_pure _) _) fun _ => silent_writeFile _ _

theorem Silent.keeping {α : Type} {t : Trace Product α} (h : Silent t) :
    (t.keeping fun x => x.about? ≠ some e) = t :=
  Trace.keeping_eq_self fun x hx => by simp [h x hx]

theorem keeping_noted {α β : Type} {warnings : List Warning} {l : List α} {g : File} {code : Code}
    {r : β} : ((noted warnings l g code r).keeping fun x => x.about? ≠ some e) =
      noted (warnings.filter fun w => w.entry ≠ e) l g code r := by
  have hwarnings : (warnings.map Product.warning).filter (fun x => x.about? ≠ some e) =
      (warnings.filter fun w => w.entry ≠ e).map Product.warning := by
    rw [List.filter_map]
    simp [Function.comp_def, Product.about?]
  rw [Trace.keeping, noted, List.filter_append, hwarnings, noted]
  cases l with
  | nil => rfl
  | cons a rest => rfl

theorem pagesAttempts_without (hb : b.service.Keyed) : pagesAttempts (b.without e) =
    (pagesAttempts b).filter fun a => .paginator a.1.operation ≠ e := by
  have hattempts : pagesAttempts (b.without e) = (b.without e).service.paginators.values.filterMap
      fun p => if b.usage.isSelected p.operation then
        (b.service.operation? p.operation).map fun o => (p, pagesOf b o p) else none := by
    cases e with
    | paginator n | waiter n =>
        simp only [pagesAttempts, Blueprint.without, pagesOf_revised]
        rfl
  have hvalues : (b.without e).service.paginators.values =
      b.service.paginators.values.filter fun p => .paginator p.operation ≠ e := by
    cases e with
    | paginator n =>
        refine (Table.values_without hb.paginators).trans (List.filter_congr fun p _ => ?_)
        simp
    | waiter n => exact (List.filter_eq_self.mpr fun p _ => by simp).symm
  rw [hattempts, hvalues, pagesAttempts]
  refine filterMap_filter_eq (fun p a h => ?_) _
  obtain ⟨-, h⟩ := Option.ite_none_right_eq_some.mp h
  obtain ⟨o, -, rfl⟩ := Option.map_eq_some_iff.mp h
  rfl

theorem waiterAttempts_without (hb : b.service.Keyed) : waiterAttempts (b.without e) =
    (waiterAttempts b).filter fun a => .waiter a.1.name ≠ e := by
  have hattempts : waiterAttempts (b.without e) = ((b.without e).service.waiters.values.filter
      fun w => b.usage.isSelected w.operation).map fun w => (w, waiterAttempt b w) := by
    cases e with
    | paginator n | waiter n =>
        simp only [waiterAttempts, Blueprint.without, waiterAttempt_revised]
        rfl
  have hvalues : (b.without e).service.waiters.values =
      b.service.waiters.values.filter fun w => .waiter w.name ≠ e := by
    cases e with
    | paginator n => exact (List.filter_eq_self.mpr fun p _ => by simp).symm
    | waiter n =>
        refine (Table.values_without hb.waiters).trans (List.filter_congr fun p _ => ?_)
        simp
  rw [hattempts, hvalues, waiterAttempts, List.filter_map, List.filter_filter, List.filter_filter]
  simp only [Function.comp_def, Bool.and_comm]

/-- The warning about a paginator for which there is no iterator. -/
def pagesWarning? (b : Blueprint) (a : Pagination × Except PagesFault Pages) : Option Warning :=
  (fault? a.2).map fun fault => .skippedPaginator b.service.name a.1.operation fault.text

/-- The warning about a waiter for which there is no code. -/
def waiterWarning? (b : Blueprint) (a : Waiter × Except WaitFault Code) : Option Warning :=
  (fault? a.2).map fun fault => .skippedWaiter b.service.name a.1.name fault.text

theorem pagesWarnings_eq : pagesWarnings b = (pagesAttempts b).filterMap (pagesWarning? b) :=
  List.filterMap_congr fun a _ => by
    obtain ⟨p, _ | _⟩ := a <;> rfl

theorem waiterWarnings_eq : waiterWarnings b = (waiterAttempts b).filterMap (waiterWarning? b) :=
  List.filterMap_congr fun a _ => by
    obtain ⟨w, _ | _⟩ := a <;> rfl

theorem entry_of_pagesWarning? {a : Pagination × Except PagesFault Pages} {w : Warning}
    (h : pagesWarning? b a = some w) : w.entry = .paginator a.1.operation := by
  obtain ⟨fault, -, rfl⟩ := Option.map_eq_some_iff.mp h
  rfl

theorem entry_of_waiterWarning? {a : Waiter × Except WaitFault Code} {w : Warning}
    (h : waiterWarning? b a = some w) : w.entry = .waiter a.1.name := by
  obtain ⟨fault, -, rfl⟩ := Option.map_eq_some_iff.mp h
  rfl

theorem allPages_without (hb : b.service.Keyed) : allPages (b.without e) =
    (allPages b).filter fun a => .paginator a.1.operation ≠ e := by
  rw [allPages, allPages, pagesAttempts_without hb]
  refine filterMap_filter_eq (fun a x h => ?_) _
  obtain ⟨pages, -, rfl⟩ := Option.map_eq_some_iff.mp h
  rfl

theorem pagesWarnings_without (hb : b.service.Keyed) : pagesWarnings (b.without e) =
    (pagesWarnings b).filter fun w => w.entry ≠ e := by
  have hwarning : pagesWarning? (b.without e) = pagesWarning? b := by cases e <;> rfl
  rw [pagesWarnings_eq, pagesWarnings_eq, pagesAttempts_without hb, hwarning]
  exact filterMap_filter_eq (fun a w h => by rw [entry_of_pagesWarning? h]) _

theorem allWaiters_without (hb : b.service.Keyed) : allWaiters (b.without e) =
    (allWaiters b).filter fun a => .waiter a.1.name ≠ e := by
  rw [allWaiters, allWaiters, waiterAttempts_without hb]
  refine filterMap_filter_eq (fun a x h => ?_) _
  obtain ⟨code, -, rfl⟩ := Option.map_eq_some_iff.mp h
  rfl

theorem waiterWarnings_without (hb : b.service.Keyed) : waiterWarnings (b.without e) =
    (waiterWarnings b).filter fun w => w.entry ≠ e := by
  have hwarning : waiterWarning? (b.without e) = waiterWarning? b := by cases e <;> rfl
  rw [waiterWarnings_eq, waiterWarnings_eq, waiterAttempts_without hb, hwarning]
  exact filterMap_filter_eq (fun a w h => by rw [entry_of_waiterWarning? h]) _

/-- There is code for the entry. -/
def Emits (b : Blueprint) (o : Options) (e : Entry) : Prop :=
  (∃ x ∈ wantedPages b o, .paginator x.1.operation = e) ∨
    ∃ x ∈ wantedWaiters b o, .waiter x.1.name = e

theorem wantedPages_without (hb : b.service.Keyed) (he : ¬ Emits b o e) :
    wantedPages (b.without e) o = wantedPages b o := by
  have he : ∀ x ∈ wantedPages b o, .paginator x.1.operation ≠ e :=
    fun x hx h => he (.inl ⟨x, hx, h⟩)
  cases hwanted : o.paginators with
  | false => simp only [wantedPages, hwanted, Bool.false_eq_true, if_false]
  | true =>
      simp only [wantedPages, hwanted, if_true] at he ⊢
      rw [allPages_without hb]
      exact List.filter_eq_self.mpr fun x hx => decide_eq_true (he x hx)

theorem wantedWaiters_without (hb : b.service.Keyed) (he : ¬ Emits b o e) :
    wantedWaiters (b.without e) o = wantedWaiters b o := by
  have he : ∀ x ∈ wantedWaiters b o, .waiter x.1.name ≠ e :=
    fun x hx h => he (.inr ⟨x, hx, h⟩)
  cases hwanted : o.waiters with
  | false => simp only [wantedWaiters, hwanted, Bool.false_eq_true, if_false]
  | true =>
      simp only [wantedWaiters, hwanted, if_true] at he ⊢
      rw [allWaiters_without hb]
      exact List.filter_eq_self.mpr fun x hx => decide_eq_true (he x hx)

/-- A crate is the same without an entry that there is no code for. -/
theorem generate_without (hb : b.service.Keyed) (he : ¬ Emits b o e) :
    generate (b.without e) o = (generate b o).keeping fun x => x.about? ≠ some e := by
  have hpages := wantedPages_without hb he
  have hwaiters := wantedWaiters_without hb he
  have hpageWarnings := pagesWarnings_without hb (e := e)
  have hwaiterWarnings := waiterWarnings_without hb (e := e)
  obtain ⟨p, w, hwithout⟩ : ∃ p w, b.without e = b.revised b.usage p w := by
    cases e with
    | paginator n | waiter n => exact ⟨_, _, rfl⟩
  have hclient : clientFile (b.without e) = clientFile b := by rw [hwithout, clientFile_revised]
  have hoperations : generateOperations (b.without e) = generateOperations b := by
    rw [hwithout, generateOperations_revised]
  have htypes : generateTypes (b.without e) = generateTypes b := by
    rw [hwithout, generateTypes_revised]
  have hpagesFile : pagesFile (b.without e) = pagesFile b := by rw [hwithout]; rfl
  have hwaitersFile : waitersFile (b.without e) = waitersFile b := by rw [hwithout]; rfl
  have hpackage : Package.of (b.without e) o = Package.of b o := by rw [hwithout]; rfl
  rw [generate_eq, generate_eq]
  simp only [hpages, hwaiters, hpageWarnings, hwaiterWarnings, hclient, hoperations, htypes,
    hpagesFile, hwaitersFile, hpackage]
  simp only [Trace.keeping_bind, silent_folders.keeping, (silent_writeFile _ _).keeping,
    (silent_writeCode _ _).keeping, silent_generateOperations.keeping,
    silent_generateTypes.keeping, keeping_noted, (silent_generatePackage _).keeping,
    apply_ite (List.filter _), List.filter_nil]

/-! What is warned of are entries of the service, and none that there is code for. -/

/-- An attempt is the only one under its name, so it cannot both fail and succeed. -/
theorem not_both {α β ε : Type} {name : α → String} {l : List (α × Except ε β)}
    (hl : (l.map (name ·.1)).Nodup) {a a' : α} {fault : ε} {made : β}
    (h : (a, .error fault) ∈ l) (h' : (a', .ok made) ∈ l) (hname : name a = name a') : False := by
  cases List.inj_on_of_nodup_map hl h h' hname

theorem mem_pagesWarnings {w : Warning} (h : w ∈ pagesWarnings b) :
    ∃ p fault, (p, .error fault) ∈ pagesAttempts b ∧ w.entry = .paginator p.operation := by
  rw [pagesWarnings_eq] at h
  obtain ⟨⟨p, attempt⟩, hattempt, hw⟩ := List.mem_filterMap.mp h
  obtain ⟨fault, hfault, -⟩ := Option.map_eq_some_iff.mp hw
  obtain rfl : attempt = .error fault := fault?_eq_some.mp hfault
  exact ⟨p, fault, hattempt, entry_of_pagesWarning? hw⟩

theorem mem_waiterWarnings {w : Warning} (h : w ∈ waiterWarnings b) :
    ∃ v fault, (v, .error fault) ∈ waiterAttempts b ∧ w.entry = .waiter v.name := by
  rw [waiterWarnings_eq] at h
  obtain ⟨⟨v, attempt⟩, hattempt, hw⟩ := List.mem_filterMap.mp h
  obtain ⟨fault, hfault, -⟩ := Option.map_eq_some_iff.mp hw
  obtain rfl : attempt = .error fault := fault?_eq_some.mp hfault
  exact ⟨v, fault, hattempt, entry_of_waiterWarning? hw⟩

theorem mem_wantedPages {x : Pagination × Pages} (h : x ∈ wantedPages b o) :
    (x.1, .ok x.2) ∈ pagesAttempts b :=
  mem_pagesAttempts_of_mem_allPages (List.mem_ite_nil_right.mp h).2

theorem mem_wantedWaiters {x : Waiter × Code} (h : x ∈ wantedWaiters b o) :
    (x.1, .ok x.2) ∈ waiterAttempts b :=
  mem_waiterAttempts_of_mem_allWaiters (List.mem_ite_nil_right.mp h).2

theorem sublist_pagesAttempts (hb : b.service.Keyed) :
    ((pagesAttempts b).map (·.1.operation)).Sublist b.service.paginators.keys := by
  rw [← Table.map_values hb.paginators, pagesAttempts, List.map_filterMap]
  refine filterMap_sublist_map fun p _ name h => ?_
  obtain ⟨a, ha, rfl⟩ := Option.map_eq_some_iff.mp h
  obtain ⟨-, ha⟩ := Option.ite_none_right_eq_some.mp ha
  obtain ⟨o, -, rfl⟩ := Option.map_eq_some_iff.mp ha
  rfl

theorem sublist_waiterAttempts (hb : b.service.Keyed) :
    ((waiterAttempts b).map (·.1.name)).Sublist b.service.waiters.keys := by
  rw [← Table.map_values hb.waiters, waiterAttempts, List.map_map]
  exact List.filter_sublist.map _

theorem sublist_pagesWarnings (hb : b.service.Keyed) :
    ((pagesWarnings b).map (·.entry)).Sublist
      (b.service.paginators.keys.map Entry.paginator) := by
  refine .trans ?_ ((sublist_pagesAttempts hb).map Entry.paginator)
  rw [pagesWarnings_eq, List.map_filterMap, List.map_map]
  refine filterMap_sublist_map fun a _ entry h => ?_
  obtain ⟨w, hw, rfl⟩ := Option.map_eq_some_iff.mp h
  exact entry_of_pagesWarning? hw

theorem sublist_waiterWarnings (hb : b.service.Keyed) :
    ((waiterWarnings b).map (·.entry)).Sublist (b.service.waiters.keys.map Entry.waiter) := by
  refine .trans ?_ ((sublist_waiterAttempts hb).map Entry.waiter)
  rw [waiterWarnings_eq, List.map_filterMap, List.map_map]
  refine filterMap_sublist_map fun a _ entry h => ?_
  obtain ⟨w, hw, rfl⟩ := Option.map_eq_some_iff.mp h
  exact entry_of_waiterWarning? hw

/-- No entry has both code and a warning, as there is one attempt at most. -/
theorem not_emits_of_warning (hb : b.service.Keyed) {w : Warning}
    (hw : w ∈ pagesWarnings b ++ waiterWarnings b) : ¬ Emits b o w.entry := by
  rcases List.mem_append.mp hw with hw | hw
  · obtain ⟨p, fault, hfault, hentry⟩ := mem_pagesWarnings hw
    rw [hentry]
    rintro (⟨x, hx, hname⟩ | ⟨x, -, hname⟩)
    · exact not_both (b.service.paginators.nodup_keys.sublist (sublist_pagesAttempts hb)) hfault
        (mem_wantedPages hx) (Entry.paginator.inj hname).symm
    · cases hname
  · obtain ⟨v, fault, hfault, hentry⟩ := mem_waiterWarnings hw
    rw [hentry]
    rintro (⟨x, -, hname⟩ | ⟨x, hx, hname⟩)
    · cases hname
    · exact not_both (b.service.waiters.nodup_keys.sublist (sublist_waiterAttempts hb)) hfault
        (mem_wantedWaiters hx) (Entry.waiter.inj hname).symm

/-- The reader warns of no paginator that it keeps, so there is no code for what it warns of. -/
theorem not_emits_of_get?_eq_none (hb : b.service.Keyed)
    (hn : b.service.paginators.get? n = none) : ¬ Emits b o (.paginator n) := by
  rintro (⟨x, hx, hname⟩ | ⟨x, -, hname⟩)
  · have hkey := (sublist_pagesAttempts hb).subset (List.mem_map_of_mem (mem_wantedPages hx))
    obtain ⟨p, hp⟩ := Table.mem_keys_iff.mp (Entry.paginator.inj hname ▸ hkey)
    cases hn.symm.trans hp
  · cases hname

/-- The entries that a trace speaks of. -/
def entriesOf {α : Type} (t : Trace Product α) : List Entry := t.events.filterMap Product.about?

theorem entriesOf_bind {α β : Type} {x : Trace Product α} {f : α → Trace Product β}
    {l : List Entry} (hx : Silent x) (hf : ∀ a, (entriesOf (f a)).Sublist l) :
    (entriesOf (x >>= f)).Sublist l := by
  have hentries : x.events.filterMap Product.about? = [] := List.filterMap_eq_nil_iff.mpr hx
  cases h : x.result with
  | ok a =>
      rw [entriesOf, Trace.events_bind h, List.filterMap_append, hentries]
      exact hf a
  | error fault =>
      rw [entriesOf, Trace.bind_error h]
      exact hentries ▸ List.nil_sublist l

theorem entriesOf_noted_bind {α β γ : Type} {warnings : List Warning} {l : List α} {g : File}
    {code : Code} {r : β} {f : β → Trace Product γ} :
    entriesOf (noted warnings l g code r >>= f) =
      warnings.map (·.entry) ++ entriesOf (f r) := by
  have hwarnings : (warnings.map Product.warning).filterMap Product.about? =
      warnings.map (·.entry) := by
    rw [List.filterMap_map, ← List.filterMap_eq_map]
    rfl
  rw [entriesOf, Trace.events_bind rfl, List.filterMap_append]
  refine congrArg (· ++ _) ?_
  rw [noted, List.filterMap_append, hwarnings]
  cases l <;> exact List.append_nil _

theorem sublist_generate : (entriesOf (generate b o)).Sublist
    ((pagesWarnings b).map (·.entry) ++ (waiterWarnings b).map (·.entry)) := by
  have hasked : ∀ (c : Bool) (l : List Warning),
      ((if c = true then l else []).map (·.entry)).Sublist (l.map (·.entry)) := by
    rintro (_ | _) l
    · exact List.nil_sublist _
    · exact .refl _
  rw [generate_eq]
  refine entriesOf_bind silent_folders fun _ => entriesOf_bind (silent_writeFile _ _) fun _ =>
    entriesOf_bind (silent_writeCode _ _) fun _ => entriesOf_bind silent_generateOperations fun _ =>
    entriesOf_bind silent_generateTypes fun _ => ?_
  have hpackage : ∀ p, entriesOf (generatePackage p) = [] := fun p =>
    List.filterMap_eq_nil_iff.mpr (silent_generatePackage p)
  rw [entriesOf_noted_bind, entriesOf_noted_bind, hpackage, List.append_nil]
  exact (hasked _ _).append (hasked _ _)

end Crate

/-! ## Runs -/

namespace Generator

theorem of_without (s : Service) (e : Entry) (o : Options) :
    Generator.of (s.without e) o =
      (Generator.of s o).map fun g => { g with blueprint := g.blueprint.without e } := by
  rw [Generator.of, Generator.of, Blueprint.of_without]
  cases Blueprint.of s o.operations <;> rfl

theorem service_of {s : Service} {o : Options} {g : Generator} (hg : Generator.of s o = .ok g) :
    g.blueprint.service = s := by
  obtain ⟨b, hb, h⟩ := bind_eq_ok.mp hg
  obtain ⟨u, -, hb⟩ := bind_eq_ok.mp hb
  obtain rfl := pure_eq_ok.mp h
  obtain rfl := pure_eq_ok.mp hb
  rfl

theorem about?_event (out : String) (x : Crate.Product) : (x.event out).about? = x.about? := by
  cases x <;> rfl

theorem generate_without {g : Generator} {e : Entry} (out : String)
    (hg : g.blueprint.service.Keyed) (he : ¬ Crate.Emits g.blueprint g.options e) :
    generate { g with blueprint := g.blueprint.without e } out =
      (g.generate out).keeping fun x => x.about? ≠ some e := by
  rw [generate, generate, Trace.keeping_mapEvents]
  dsimp only
  rw [Crate.generate_without hg he]
  simp only [about?_event]

theorem entries_generate (g : Generator) (out : String) :
    (g.generate out).events.filterMap Event.about? =
      Crate.entriesOf (Crate.generate g.blueprint g.options) := by
  rw [generate, Trace.mapEvents, List.filterMap_map, Crate.entriesOf]
  exact List.filterMap_congr fun x _ => about?_event out x

end Generator

/-- Generates the crate of a service. -/
def Service.produce (s : Service) (o : Options) (out : String) : Trace Event Unit := do
  let g ← Trace.ofExcept ((Generator.of s o).mapError .selection)
  g.generate out

namespace Service

variable {s : Service} {o : Options} {out : String} {e : Entry}

/-- The crate of the service has code for the entry. -/
def Emits (s : Service) (o : Options) (e : Entry) : Prop :=
  ∃ g, Generator.of s o = .ok g ∧ Crate.Emits g.blueprint g.options e

theorem produce_of_ok {g : Generator} (hg : Generator.of s o = .ok g) :
    s.produce o out = g.generate out := by
  rw [produce, hg]
  exact Trace.bind_ok rfl _

theorem produce_of_error {fault : SelectionFault} (hg : Generator.of s o = .error fault) :
    s.produce o out = Trace.fail (.selection fault) := by
  rw [produce, hg]
  exact Trace.bind_error rfl _

theorem produce_without (hs : s.Keyed) (he : ¬ s.Emits o e) :
    (s.without e).produce o out = (s.produce o out).keeping fun x => x.about? ≠ some e := by
  have hother := Generator.of_without s e o
  cases hg : Generator.of s o with
  | error fault =>
      rw [hg] at hother
      rw [produce_of_error hg, produce_of_error hother]
      rfl
  | ok g =>
      rw [hg] at hother
      have hkeyed : g.blueprint.service.Keyed := (Generator.service_of hg).symm ▸ hs
      rw [produce_of_ok hg, produce_of_ok hother]
      exact Generator.generate_without out hkeyed fun h => he ⟨g, hg, h⟩

theorem entries_produce (hs : s.Keyed) :
    ((s.produce o out).events.filterMap Event.about?).Sublist
      (s.paginators.keys.map Entry.paginator ++ s.waiters.keys.map Entry.waiter) := by
  cases hg : Generator.of s o with
  | error fault =>
      rw [produce_of_error hg]
      exact List.nil_sublist _
  | ok g =>
      obtain rfl := Generator.service_of hg
      rw [produce_of_ok hg, Generator.entries_generate]
      exact Crate.sublist_generate.trans
        ((Crate.sublist_pagesWarnings hs).append (Crate.sublist_waiterWarnings hs))

theorem not_emits_of_warning (hs : s.Keyed)
    (he : e ∈ (s.produce o out).events.filterMap Event.about?) : ¬ s.Emits o e := by
  rintro ⟨g, hg, hemits⟩
  obtain rfl := Generator.service_of hg
  rw [produce_of_ok hg, Generator.entries_generate] at he
  have he := Crate.sublist_generate.subset he
  rw [← List.map_append] at he
  obtain ⟨w, hw, rfl⟩ := List.mem_map.mp he
  exact Crate.not_emits_of_warning hs hw hemits

end Service

namespace Sources

variable {src : Sources} {s : Service} {o : Options} {out : String}

/-- Reads the service of the documents and generates its crate. -/
def produce (src : Sources) (o : Options) (out : String) : Trace Event Unit := do
  let s ← src.toService.mapEvents Event.warning
  s.produce o out

theorem produce_eq (hs : src.toService.result = .ok s) : src.produce o out =
    ⟨src.toService.events.map Event.warning ++ (s.produce o out).events,
      (s.produce o out).result⟩ :=
  Trace.bind_ok (x := src.toService.mapEvents Event.warning) hs _

/-- A crate can be produced without an entry that there is no code for, and nothing else
changes. -/
theorem produce_without_of_unused {e : Entry} (hsrc : src.Distinct)
    (hs : src.toService.result = .ok s) (he : ¬ s.Emits o e) :
    (src.without e).produce o out = (src.produce o out).keeping fun x => x.about? ≠ some e := by
  have hother := toService_without hsrc hs e
  have hwarnings : (src.toService.events.map Event.warning).filter (fun x => x.about? ≠ some e) =
      (src.toService.events.filter fun w => w.entry ≠ e).map Event.warning := by
    rw [List.filter_map]
    simp [Function.comp_def, Event.about?]
  rw [produce_eq hs, produce_eq (congrArg Trace.result hother), hother, Trace.keeping,
    List.filter_append, hwarnings, Service.produce_without (keyed_of_toService hsrc hs) he]
  rfl

theorem entries_produce (hs : src.toService.result = .ok s) :
    (src.produce o out).events.filterMap Event.about? =
      src.toService.events.map (·.entry) ++ (s.produce o out).events.filterMap Event.about? := by
  rw [produce_eq hs, List.filterMap_append, List.filterMap_map, ← List.filterMap_eq_map]
  rfl

/-- Nothing is warned of twice: what the reader leaves out is not there any more when the
crate is generated. -/
theorem nodup_entries (hsrc : src.Distinct) (hs : src.toService.result = .ok s) :
    ((src.produce o out).events.filterMap Event.about?).Nodup := by
  have hkeyed := keyed_of_toService hsrc hs
  obtain ⟨hread, hdropped⟩ := warnings_toService hsrc hs
  have hsub : ((s.produce o out).events.filterMap Event.about?).Sublist _ :=
    s.entries_produce hkeyed
  have hkeys : (s.paginators.keys.map Entry.paginator ++
      s.waiters.keys.map Entry.waiter).Nodup := by
    refine (s.paginators.nodup_keys.map paginator_injective).append
      (s.waiters.nodup_keys.map waiter_injective) fun entry hp hw => ?_
    obtain ⟨n, -, rfl⟩ := List.mem_map.mp hp
    obtain ⟨k, -, hk⟩ := List.mem_map.mp hw
    cases hk
  rw [entries_produce hs]
  refine hread.append (hkeys.sublist hsub) fun entry hleft hright => ?_
  obtain ⟨w, hw, rfl⟩ := List.mem_map.mp hleft
  obtain ⟨n, hn, hnone⟩ := hdropped w hw
  rw [hn] at hright
  rcases List.mem_append.mp (hsub.subset hright) with h | h
  · obtain ⟨k, hk, hkn⟩ := List.mem_map.mp h
    obtain ⟨p, hp⟩ := Table.mem_keys_iff.mp (Entry.paginator.inj hkn ▸ hk)
    cases hnone.symm.trans hp
  · obtain ⟨k, -, hk⟩ := List.mem_map.mp h
    cases hk

theorem not_emits_of_warning {w : Warning} (hsrc : src.Distinct)
    (hs : src.toService.result = .ok s) (hw : .warning w ∈ (src.produce o out).events) :
    ¬ s.Emits o w.entry := by
  have hkeyed := keyed_of_toService hsrc hs
  have hentry : w.entry ∈ (src.produce o out).events.filterMap Event.about? :=
    List.mem_filterMap.mpr ⟨_, hw, rfl⟩
  rw [entries_produce hs] at hentry
  rcases List.mem_append.mp hentry with h | h
  · obtain ⟨v, hv, hvw⟩ := List.mem_map.mp h
    obtain ⟨n, hn, hnone⟩ := (warnings_toService hsrc hs).2 v hv
    rw [← hvw, hn]
    rintro ⟨g, hg, hemits⟩
    obtain rfl := Generator.service_of hg
    exact Crate.not_emits_of_get?_eq_none hkeyed hnone hemits
  · exact Service.not_emits_of_warning hkeyed h

/-- What is left out with a warning might as well not have been in its document: without
it the run does the same, and it is silent about the entry and about nothing else. -/
theorem produce_without_skipped (hsrc : src.Distinct) (hs : src.toService.result = .ok s)
    {w : Warning}
    (hw : .warning w ∈ (src.produce o out).events) :
    ∃ before after, (src.produce o out).events = before ++ .warning w :: after ∧
      (∀ v, .warning v ∈ before ++ after → v.entry ≠ w.entry) ∧
      (src.without w.entry).produce o out = ⟨before ++ after, (src.produce o out).result⟩ := by
  obtain ⟨before, after, hevents⟩ := List.append_of_mem hw
  have hnodup : ((src.produce o out).events.filterMap Event.about?).Nodup :=
    nodup_entries hsrc hs
  have hentry : (Event.warning w :: after).filterMap Event.about? =
      w.entry :: after.filterMap Event.about? := rfl
  rw [hevents, List.filterMap_append, hentry, List.nodup_middle, List.nodup_cons,
    ← List.filterMap_append] at hnodup
  have hothers : ∀ x ∈ before ++ after, x.about? ≠ some w.entry := fun x hx h =>
    hnodup.1 (List.mem_filterMap.mpr ⟨x, hx, h⟩)
  refine ⟨before, after, hevents, fun v hv h => hothers _ hv (congrArg some h), ?_⟩
  rw [produce_without_of_unused hsrc hs (not_emits_of_warning hsrc hs hw), Trace.keeping, hevents,
    List.filter_append, List.filter_cons_of_neg (by simp [Event.about?]), ← List.filter_append,
    List.filter_eq_self.mpr fun x hx => decide_eq_true (hothers x hx)]

/-! ## An example

A library with two ways to leaf through its books and two ways to wait for one, and of
either kind one that there is no code for. -/

/-- The documents about books with these paginators and waiters. -/
def library : Sources :=
  { books with paginators := some ⟨Definition.shelf⟩, waiters := some Definition.lending }

theorem distinct_library : library.Distinct where
  definition := distinct_books.definition
  paginators d hd := by
    obtain rfl := Option.some.inj hd
    decide
  waiters d hd := by
    obtain rfl := Option.some.inj hd
    decide

/-- All that is generated for the books. -/
def usageOfBooks : Usage := ⟨["GetBook", "ListBooks"], [], ["Book"], []⟩

/-- What the run over the library warns of: one paginator when it reads, one waiter when it
generates. -/
theorem entries_library : Succeeds library.toService.result ∧
    (library.produce {} "out").events.filterMap Event.about? =
      [.paginator "GetBook", .waiter "BookWritten"] := by
  have hread : (library.toService.events.map (·.entry), library.toService.result.map
      fun s => Crate.entriesOf (Crate.generate
        ⟨s, usageOfBooks, TypeNames.assign s, s.boxedMembers⟩ {})) =
        ([.paginator "GetBook"], .ok [.waiter "BookWritten"]) := by
    decide +kernel
  have husage : (library.toService.result.map fun s => Usage.analyze s []) =
      .ok (.ok usageOfBooks) := by
    cbv
  obtain ⟨hentries, hgenerated⟩ := Prod.mk.inj hread
  obtain ⟨s, hs, hgenerated⟩ := map_eq_ok.mp hgenerated
  rw [hs] at husage
  have hg : Generator.of s {} = .ok
      ⟨⟨s, usageOfBooks, TypeNames.assign s, s.boxedMembers⟩, {}⟩ :=
    bind_eq_ok.mpr ⟨_, bind_eq_ok.mpr ⟨_, Except.ok.inj husage, rfl⟩, rfl⟩
  refine ⟨⟨s, hs⟩, ?_⟩
  rw [entries_produce hs, hentries, Service.produce_of_ok hg, Generator.entries_generate,
    hgenerated]
  rfl

theorem produce_library_without : library.Distinct ∧ Succeeds library.toService.result ∧
    ∀ e ∈ [Entry.paginator "GetBook", Entry.waiter "BookWritten"], ∃ w before after,
      w.entry = e ∧ (library.produce {} "out").events = before ++ .warning w :: after ∧
      (library.without e).produce {} "out" =
        ⟨before ++ after, (library.produce {} "out").result⟩ := by
  obtain ⟨⟨s, hs⟩, hentries⟩ := entries_library
  refine ⟨distinct_library, ⟨s, hs⟩, fun e he => ?_⟩
  rw [← hentries] at he
  obtain ⟨x, hx, hentry⟩ := List.mem_filterMap.mp he
  cases x with
  | action a => cases hentry
  | warning w =>
      obtain rfl := Option.some.inj hentry
      obtain ⟨before, after, hevents, -, hwithout⟩ :=
        @produce_without_skipped library s {} "out" distinct_library hs w hx
      exact ⟨w, before, after, rfl, hevents, hwithout⟩

end Sources

end Clientwright
