import Clientwright.CommandLine.Commands
import Clientwright.Proofs.Faults

/-!
# Good inputs

A command works on files, and this is what has to be right about them before
anything is generated: each document can be read and parsed and the documents of
a service make one, the operations that are selected exist, a manifest says
where its output goes and leaves some service after the filter, and no two
services make a crate of one name. All of it is a statement about the texts of
the files (`Command.Good`), with no order in which it would be checked.

The checks on the crates of a workspace go over the services one after the other
and keep the names so far. `exists_workspace_iff` says them without that.
-/

namespace Clientwright

open Outcome

/-! ## Workspaces -/

namespace Generator

theorem exists_of_iff {s : Service} {o : Options} :
    (∃ g, Generator.of s o = .ok g) ↔ Usage.Known s o.operations := by
  constructor
  · rintro ⟨g, hg⟩
    obtain ⟨hb, -⟩ := of_eq_ok hg
    obtain ⟨usage, husage, -⟩ := bind_eq_ok.mp hb
    rcases Usage.analyze_cases s o.operations with
      ⟨hknown, -⟩ | ⟨_, _, _, _, _, _, herror⟩
    · exact hknown
    · cases husage.symm.trans herror
  · exact of_succeeds

theorem crateName_of {s : Service} {o : Options} {g : Generator}
    (h : Generator.of s o = .ok g) : g.crateName = o.crateNameOf s := by
  obtain ⟨blueprint, hblueprint, h⟩ := bind_eq_ok.mp h
  obtain ⟨usage, -, hblueprint⟩ := bind_eq_ok.mp hblueprint
  obtain rfl := pure_eq_ok.mp hblueprint
  obtain rfl := pure_eq_ok.mp h
  rfl

end Generator

namespace Workspace

/-- The names that services with options give to their crates. -/
def crateNames (services : List (Service × Options)) : List String :=
  services.map fun (s, o) => o.crateNameOf s

/-- A crate is made if its name is free, and then the others are. -/
theorem succeeds_generators_cons {taken : List String} {s : Service} {o : Options}
    {rest : List (Service × Options)} :
    Succeeds (generators taken ((s, o) :: rest)) ↔ Usage.Known s o.operations ∧
      o.crateNameOf s ∉ taken ∧ Succeeds (generators (o.crateNameOf s :: taken) rest) := by
  rw [← Generator.exists_of_iff]
  constructor
  · rintro ⟨crates, h⟩
    obtain ⟨g, hg, h⟩ := bind_eq_ok.mp h
    rw [Generator.crateName_of hg] at h
    dsimp only at h
    split at h
    next => cases h
    next hfree =>
      obtain ⟨others, hothers, -⟩ := bind_eq_ok.mp h
      exact ⟨⟨g, hg⟩, fun hmem => hfree (List.contains_iff_mem.mpr hmem), others, hothers⟩
  · rintro ⟨⟨g, hg⟩, hfree, others, hothers⟩
    refine ⟨g :: others, bind_eq_ok.mpr ⟨g, hg, ?_⟩⟩
    rw [Generator.crateName_of hg]
    dsimp only
    rw [if_neg fun hmem => hfree (List.contains_iff_mem.mp hmem)]
    exact bind_eq_ok.mpr ⟨others, hothers, rfl⟩

theorem succeeds_generators_iff {taken : List String} {services : List (Service × Options)} :
    Succeeds (generators taken services) ↔
      (∀ p ∈ services, Usage.Known p.1 p.2.operations) ∧
        (∀ name ∈ crateNames services, name ∉ taken) ∧ (crateNames services).Nodup := by
  induction services generalizing taken with
  | nil => simp [generators, crateNames, succeeds_ok]
  | cons p rest ih =>
      obtain ⟨s, o⟩ := p
      have hnames : crateNames ((s, o) :: rest) = o.crateNameOf s :: crateNames rest := rfl
      rw [succeeds_generators_cons, ih, hnames, List.forall_mem_cons, List.forall_mem_cons,
        List.nodup_cons]
      have hfree : (∀ name ∈ crateNames rest, name ∉ o.crateNameOf s :: taken) ↔
          o.crateNameOf s ∉ crateNames rest ∧ ∀ name ∈ crateNames rest, name ∉ taken := by
        simp only [List.mem_cons, not_or]
        refine ⟨fun h => ⟨fun hmem => (h _ hmem).1 rfl, fun name hname => (h name hname).2⟩,
          fun ⟨hnot, h⟩ name hname => ⟨fun heq => hnot (heq ▸ hname), h name hname⟩⟩
      rw [hfree]
      tauto

/-- Services make a workspace exactly if each makes a crate and the crates have
names of their own. -/
theorem exists_workspace_iff {services : List (Service × Options)} :
    (∃ w, Workspace.of services = .ok w) ↔
      (∀ p ∈ services, Usage.Known p.1 p.2.operations) ∧ (crateNames services).Nodup := by
  have hof : (∃ w, Workspace.of services = .ok w) ↔ Succeeds (generators [] services) :=
    succeeds_bind_pure
  rw [hof, succeeds_generators_iff]
  simp

end Workspace

namespace CommandLine

/-! ## Documents -/

variable (read : String → Option String)

/-- A file can be read, and its text is made into something. -/
def Parsed {α : Type} (path : String) (parse : String → Except Error α) (a : α) : Prop :=
  ∃ text, read path = some text ∧ parse text = .ok a

/-- A document is added to the sources, if there is a file for it. -/
def Added (add : Sources → String → Except Error Sources) (path : Option String)
    (src src' : Sources) : Prop :=
  match path with
  | some path => Parsed read path (add src) src'
  | none => src' = src

/-- The sources under the name that is asked for, if there is one. -/
def ServiceFiles.named (f : ServiceFiles) (src : Sources) : Sources :=
  match f.service with
  | some name => src.withName name
  | none => src

/-- The files can be read, and together they describe the service. -/
def ServiceFiles.Describe (f : ServiceFiles) (s : Service) : Prop :=
  ∃ src, Parsed read f.definition Sources.ofDefinition src ∧
    ∃ paged, Added read Sources.withPaginators f.paginators (f.named src) paged ∧
      ∃ whole, Added read Sources.withWaiters f.waiters paged whole ∧
        whole.toService.result = .ok s

/-- The files of a service that a manifest lists. -/
def filesOf (m : Manifest) (name : String) (e : ManifestEntry) : ServiceFiles where
  definition := m.resolve e.definition
  paginators := e.paginators.map m.resolve
  waiters := e.waiters.map m.resolve
  service := some (Naming.snake name)

/-- The manifest at a path. -/
def Lists (path : String) (m : Manifest) : Prop :=
  ∃ listed, Parsed read path Manifest.ofText listed ∧
    m = { listed with directory := Files.parent path }

/-- The inputs of a command are good. -/
def Command.Good : Command → Prop
  | .parse f => ∃ s, f.Describe read s
  | .generate f o _ _ => ∃ s, f.Describe read s ∧ Usage.Known s o.operations
  | .generateAll path filter output _ => ∃ m, Lists read path m ∧
      (output.isSome ∨ m.output.isSome) ∧ m.selected filter ≠ [] ∧
      (∀ p ∈ m.selected filter, ∃ s,
        (filesOf m p.1 p.2).Describe read s ∧ Usage.Known s p.2.operations) ∧
      ((m.selected filter).map fun p => m.crateName p.1).Nodup

/-! ## The services of a manifest -/

section Listed

variable {read : String → Option String} {m : Manifest} {selected : List (String × ManifestEntry)}

/-- The service is the one of the entry, with the options that the manifest gives
it. -/
def Listed (read : String → Option String) (m : Manifest) (p : String × ManifestEntry)
    (q : Service × Options) : Prop :=
  (filesOf m p.1 p.2).Describe read q.1 ∧ q.2 = m.options p.1 p.2

theorem crateNames_of_listed {services : List (Service × Options)}
    (h : selected.Forall₂ (Listed read m) services) :
    Workspace.crateNames services = selected.map fun p => m.crateName p.1 := by
  induction h with
  | nil => rfl
  | @cons p q _ _ hlisted _ ih =>
      rw [List.map_cons, ← ih]
      obtain ⟨s, o⟩ := q
      obtain rfl : o = m.options p.1 p.2 := hlisted.2
      rfl

/-- The entries make a workspace exactly if each of them makes a crate, under a
name of its own. -/
theorem exists_workspace_of_listed_iff :
    (∃ services, selected.Forall₂ (Listed read m) services ∧
      ∃ w, Workspace.of services = .ok w) ↔
    (∀ p ∈ selected, ∃ s, (filesOf m p.1 p.2).Describe read s ∧
      Usage.Known s p.2.operations) ∧ (selected.map fun p => m.crateName p.1).Nodup := by
  constructor
  · rintro ⟨services, hlisted, hw⟩
    obtain ⟨hknown, hnodup⟩ := Workspace.exists_workspace_iff.mp hw
    rw [crateNames_of_listed hlisted] at hnodup
    refine ⟨fun p hp => ?_, hnodup⟩
    obtain ⟨⟨s, o⟩, hq, hdescribe, ho⟩ := exists_right_of_forall₂ hlisted hp
    obtain rfl : o = m.options p.1 p.2 := ho
    exact ⟨s, hdescribe, hknown _ hq⟩
  · rintro ⟨heach, hnodup⟩
    have hservice : ∀ p ∈ selected, ∃ q : Service × Options,
        Listed read m p q ∧ Usage.Known q.1 q.2.operations := by
      intro p hp
      obtain ⟨s, hdescribe, hknown⟩ := heach p hp
      exact ⟨(s, m.options p.1 p.2), ⟨hdescribe, rfl⟩, hknown⟩
    obtain ⟨services, hservices⟩ := exists_forall₂ hservice
    have hlisted : selected.Forall₂ (Listed read m) services :=
      hservices.imp fun p q h => h.1
    refine ⟨services, hlisted, Workspace.exists_workspace_iff.mpr ⟨fun q hq => ?_, ?_⟩⟩
    · obtain ⟨p, -, -, hknown⟩ := exists_left_of_forall₂ hservices hq
      exact hknown
    · rw [crateNames_of_listed hlisted]
      exact hnodup

end Listed

end CommandLine

end Clientwright
