import Clientwright.Proofs.Faults

/-!
# Crates that hold together

The files of a crate speak of each other. Code mentions types by their full paths,
an index declares the files beside it and exports what is in them, and the root of
the library declares everything. `Linked` says that all of this fits, and it says
so of what was written alone: which modules there are is read off the lines of the
index, and not off the service that the crate was made from.

The two sides come from different places. What an emitter mentions is known from
walking over values, what is declared comes from the usage and from the list of
operations. They meet in `Blueprint.Exports`: the emitters keep within it, and
whatever is in it has its two lines in an index.
-/

namespace Clientwright

open Outcome

/-! ## Lines -/

namespace Code

theorem indented_zero (s : String) : indented 0 s = s := by
  unfold indented
  split
  · rfl
  · simp

theorem lines_all (depth : Nat) (pieces : List Code) :
    (all pieces).lines depth = pieces.flatMap (lines depth) := by
  induction pieces with
  | nil => rfl
  | cons c pieces ih =>
      show (seq c (all pieces)).lines depth = _
      rw [lines, ih, List.flatMap_cons]

theorem lines_text (s : String) : (text s).lines 0 = [s] := by
  show [indented 0 s] = [s]
  rw [indented_zero]

theorem lines_texts (l : List String) : (texts l).lines 0 = l := by
  rw [texts, lines_all, List.flatMap_map]
  simp only [lines_text, List.flatMap_singleton']

theorem lines_blank : blank.lines 0 = [""] := rfl

theorem lines_when (condition : Bool) (code : Code) :
    (when condition code).lines 0 = if condition then code.lines 0 else [] := by
  cases condition <;> rfl

/-- The code declares a module on a line of its own. -/
def Declares (c : Code) (m : String) : Prop :=
  "mod " ++ m ++ ";" ∈ c.lines 0 ∨ "pub mod " ++ m ++ ";" ∈ c.lines 0

/-- The code exports an item of a module on a line of its own. -/
def Exports (c : Code) (m n : String) : Prop :=
  "pub use " ++ m ++ "::" ++ n ++ ";" ∈ c.lines 0

end Code

/-- A line that starts otherwise is another line. -/
theorem ne_append {s start : String}
    (h : s.toList.take start.toList.length ≠ start.toList) (rest : String) :
    s ≠ start ++ rest := by
  rintro rfl
  simp at h

namespace Crate

/-! Every line of an index is a declaration or an export, but for its title. -/

theorem lines_moduleFile (title : String) (modules : List Module) :
    (moduleFile title modules).lines 0 = ("//! " ++ title) :: "" ::
      (modules.map (fun m => "mod " ++ m.name ++ ";") ++
        "" :: modules.map fun m => "pub use " ++ m.name ++ "::" ++ m.item ++ ";") := by
  rw [moduleFile, Code.lines_all]
  simp [Code.lines_text, Code.lines_texts, Code.lines_blank]

theorem declares_moduleFile {title m : String} {modules : List Module} :
    (moduleFile title modules).Declares m ↔ ∃ x ∈ modules, x.name = m := by
  rw [Code.Declares, lines_moduleFile]
  simp [← String.toList_inj]

theorem exports_moduleFile {title : String} {modules : List Module} {x : Module}
    (hx : x ∈ modules) : (moduleFile title modules).Exports x.name x.item := by
  rw [Code.Exports, lines_moduleFile]
  refine List.mem_cons_of_mem _ (List.mem_cons_of_mem _ (List.mem_append_right _ ?_))
  exact List.mem_cons_of_mem _ (List.mem_map_of_mem hx)

/-- The declarations in the root of the library that are not always there. -/
theorem mem_lines_library {p : Package} {line : String}
    (h : line ∈ ["mod pagination;", "pub mod pagination;", "mod waiters;",
      "pub mod waiters;"]) :
    line ∈ p.library.lines 0 ↔
      (line = "pub mod pagination;" ∧ p.paginators ≠ []) ∨
      line = "mod waiters;" ∧ p.waiters ≠ [] := by
  have hpages : (line ∈ if !p.paginators.isEmpty then ["pub mod pagination;"] else []) ↔
      line = "pub mod pagination;" ∧ p.paginators ≠ [] := by
    cases p.paginators <;> simp
  have hwaiters : (line ∈ if !p.waiters.isEmpty then ["mod waiters;"] else []) ↔
      line = "mod waiters;" ∧ p.waiters ≠ [] := by
    cases p.waiters <;> simp
  rw [Package.library, Code.lines_all]
  simp only [List.flatMap_cons, List.flatMap_nil, Code.lines_text, Code.lines_texts,
    Code.lines_blank, Code.lines_when, hpages, hwaiters, List.mem_append, List.mem_cons,
    List.not_mem_nil, String.append_assoc]
  simp only [List.mem_cons, List.not_mem_nil, or_false] at h
  rcases h with rfl | rfl | rfl | rfl <;>
    simp (disch := decide) [ne_append]

theorem declares_pagination {p : Package} :
    p.library.Declares "pagination" ↔ p.paginators ≠ [] := by
  show "mod pagination;" ∈ p.library.lines 0 ∨ "pub mod pagination;" ∈ p.library.lines 0 ↔ _
  rw [mem_lines_library (by decide), mem_lines_library (by decide)]
  simp

theorem declares_waiters {p : Package} :
    p.library.Declares "waiters" ↔ p.waiters ≠ [] := by
  show "mod waiters;" ∈ p.library.lines 0 ∨ "pub mod waiters;" ∈ p.library.lines 0 ↔ _
  rw [mem_lines_library (by decide), mem_lines_library (by decide)]
  simp

/-! ## The crate -/

/-- Among the files there is an index that declares a module and exports the item
from it. -/
def Exported (products : List Product) (a : Area) (n : String) : Prop :=
  ∃ index m, .file (.index a) (.code index) ∈ products ∧ index.Declares m ∧
    index.Exports m n

/-- The files fit together. -/
structure Linked (products : List Product) : Prop where
  /-- All but the fixed runtime and the pages that are not code mention nothing but
  what is exported. -/
  references : ∀ {f c}, .file f c ∈ products →
    f = .runtime ∨ f = .package ∨ f = .readme ∨
      ∃ code, c = .code code ∧ code.Within (Exported products)
  /-- Beside the index of an area are the modules that it declares. -/
  areas : ∀ a, ∃ index, (∀ c, .file (.index a) c ∈ products ↔ c = .code index) ∧
    ∀ f, f.folder = .area a → ((∃ c, .file f c ∈ products) ↔
      f = .index a ∨ ∃ m, index.Declares m ∧ f = .item a m)
  /-- The library has iterators and waiters exactly if there are files of them. -/
  library : ∃ library, (∀ c, .file .library c ∈ products ↔ c = .code library) ∧
    (library.Declares "pagination" ↔ ∃ c, .file .pagination c ∈ products) ∧
    (library.Declares "waiters" ↔ ∃ c, .file .waiters c ∈ products)

variable {b : Blueprint} {o : Options} {op : Operation} {f : File} {c : Contents}

/-- The output that an operation names is there. -/
theorem exists_outputOf? (hb : b.Ready) (hop : op ∈ b.operations)
    (houtput : op.output.isSome = true) : ∃ t, b.service.outputOf? op = some t := by
  obtain ⟨n, -, hn⟩ := Blueprint.mem_operations_iff.mp hop
  obtain ⟨k, hk⟩ := Option.isSome_iff_exists.mp houtput
  obtain ⟨t, ht⟩ := (hb.closed.operations hn).output k hk
  refine ⟨t, ?_⟩
  rw [Service.outputOf?, hk, Option.bind_some]
  exact Service.structure?_eq_some_iff.mpr ht

/-- What may be mentioned is in some module of its area. -/
theorem exists_module (hb : b.Ready) {a : Area} {n : String} (h : b.Exports a n) :
    ∃ m ∈ modules b a, m.item = n := by
  cases a with
  | types =>
      obtain ⟨k, hk, rfl⟩ := h
      refine ⟨typeModule b k, ?_, rfl⟩
      rw [modules, List.mem_mergeSort]
      exact List.mem_map_of_mem (List.mem_append.mpr hk)
  | input =>
      obtain ⟨op, hop, rfl⟩ := h
      exact ⟨inputModule op, List.mem_map_of_mem hop, rfl⟩
  | output =>
      obtain ⟨op, hop, houtput, rfl⟩ := h
      obtain ⟨t, ht⟩ := exists_outputOf? hb hop houtput
      refine ⟨outputModule op, List.mem_filterMap.mpr ⟨op, hop, ?_⟩, rfl⟩
      rw [outputModule?, ht, Option.map_some]

theorem wantedPages_eq (h : wantedPages b o ≠ []) : wantedPages b o = allPages b := by
  rw [wantedPages] at h ⊢
  split at h
  next hpages => rw [if_pos hpages]
  next => exact absurd rfl h

theorem wantedWaiters_eq (h : wantedWaiters b o ≠ []) :
    wantedWaiters b o = allWaiters b := by
  rw [wantedWaiters] at h ⊢
  split at h
  next hwaiters => rw [if_pos hwaiters]
  next => exact absurd rfl h

/-- Every file of code mentions only what is exported. -/
theorem Written.within (hb : b.Ready) (h : Written b o f c) :
    f = .runtime ∨ f = .package ∨ f = .readme ∨
      ∃ code, c = .code code ∧ code.Within b.Exports := by
  have hmentions : ∀ op ∈ b.operations, Mentions b.Exports op := fun op hop =>
    ⟨⟨op, hop, rfl⟩, fun houtput => ⟨op, hop, houtput, rfl⟩⟩
  cases h with
  | runtime => exact .inl rfl
  | package => exact .inr (.inl rfl)
  | readme => exact .inr (.inr (.inl rfl))
  | client => exact .inr (.inr (.inr ⟨_, rfl, within_clientFile hmentions⟩))
  | operation hop h =>
      refine .inr (.inr (.inr ?_))
      cases h with
      | input h =>
          exact ⟨_, rfl, (inputFile_meets (hb.binds hop) (hb.covers_input hop)).value h⟩
      | output h =>
          exact ⟨_, rfl, (outputFile?_meets (hb.covers_output hop)).value h _ rfl⟩
  | type h =>
      refine .inr (.inr (.inr ?_))
      cases h with
      | ofStructure hn ht h =>
          have hcovers := hb.covers_structure hn (Service.structure?_eq_some_iff.mp ht)
          exact ⟨_, rfl, (structureFile_meets hcovers).value h⟩
      | ofEnum hn h =>
          obtain ⟨⟨s, hs, -⟩, -⟩ := hb.mem_enums_iff.mp hn
          exact ⟨_, rfl, (enumFile_meets (P := b.Exports) hs).value h⟩
  | index a =>
      refine .inr (.inr (.inr ⟨_, rfl, ?_⟩))
      simp [Crate.index, moduleFile]
  | pages h =>
      refine .inr (.inr (.inr ⟨_, rfl, ?_⟩))
      rw [wantedPages_eq h]
      exact within_pagesFile hmentions fun op hop => hb.covers_output hop
  | waiters h =>
      refine .inr (.inr (.inr ⟨_, rfl, ?_⟩))
      rw [wantedWaiters_eq h]
      exact within_waitersFile hmentions
  | library =>
      refine .inr (.inr (.inr ⟨_, rfl, ?_⟩))
      simp [Package.library]

/-! The files that there is one of are known from their names. -/

theorem written_index_iff {a : Area} :
    Written b o (.index a) c ↔ c = .code (index b a) := by
  constructor
  · intro h
    cases h with
    | index => rfl
    | operation _ h => cases h
    | type h => cases h
  · rintro rfl
    exact .index a

theorem written_library_iff :
    Written b o .library c ↔ c = .code (package b o).library := by
  constructor
  · intro h
    cases h with
    | library => rfl
    | operation _ h => cases h
    | type h => cases h
  · rintro rfl
    exact .library

theorem exists_written_pagination_iff :
    (∃ c, Written b o .pagination c) ↔ wantedPages b o ≠ [] := by
  constructor
  · intro ⟨c, h⟩
    cases h with
    | pages h => exact h
    | operation _ h => cases h
    | type h => cases h
  · exact fun h => ⟨_, .pages h⟩

theorem exists_written_waiters_iff :
    (∃ c, Written b o .waiters c) ↔ wantedWaiters b o ≠ [] := by
  constructor
  · intro ⟨c, h⟩
    cases h with
    | waiters h => exact h
    | operation _ h => cases h
    | type h => cases h
  · exact fun h => ⟨_, .waiters h⟩

/-- A crate that was generated to its end is linked. -/
theorem linked_generate (hb : b.Ready) (h : (generate b o).result = .ok ()) :
    Linked (generate b o).events := by
  obtain ⟨hcomplete, hwritten⟩ := generate_ok h
  refine ⟨fun hmem => ?_, fun a => ?_, (package b o).library, fun c => ?_, ?_, ?_⟩
  · rcases ((hwritten _ _).mp hmem).within hb with h | h | h | ⟨code, hc, hcode⟩
    · exact .inl h
    · exact .inr (.inl h)
    · exact .inr (.inr (.inl h))
    · refine .inr (.inr (.inr ⟨code, hc, hcode.mono fun a n hn => ?_⟩))
      obtain ⟨m, hm, rfl⟩ := exists_module hb hn
      exact ⟨index b a, m.name, (hwritten _ _).mpr (.index a),
        declares_moduleFile.mpr ⟨m, hm, rfl⟩, exports_moduleFile hm⟩
  · refine ⟨index b a, fun c => (hwritten _ _).trans written_index_iff,
      fun f hfolder => ?_⟩
    refine ⟨fun ⟨c, hc⟩ => ?_, fun hf => ?_⟩
    · rcases ((hwritten f c).mp hc).mem_modules hfolder with rfl | ⟨m, hm, rfl⟩
      · exact .inl rfl
      · exact .inr ⟨m.name, declares_moduleFile.mpr ⟨m, hm, rfl⟩, rfl⟩
    · rcases hf with rfl | ⟨name, hname, rfl⟩
      · exact ⟨_, (hwritten _ _).mpr (.index a)⟩
      · obtain ⟨m, hm, rfl⟩ := declares_moduleFile.mp hname
        obtain ⟨c, hc⟩ := hcomplete.exists_written (o := o) hm
        exact ⟨c, (hwritten _ _).mpr hc⟩
  · exact (hwritten _ _).trans written_library_iff
  · rw [declares_pagination, exists_congr fun c => hwritten .pagination c,
      exists_written_pagination_iff, package, Package.of]
    exact not_congr List.map_eq_nil_iff
  · rw [declares_waiters, exists_congr fun c => hwritten .waiters c,
      exists_written_waiters_iff, package, Package.of]
    exact not_congr List.map_eq_nil_iff

end Crate

namespace Generator

/-- The generator of an orchard, for the one operation that finds a tree. -/
def ofOrchard (s : Service) : Generator :=
  ⟨⟨s, ⟨["GetTree"], [], ["Tree"], ["Kind"]⟩, TypeNames.assign s, s.boxedMembers⟩,
    { operations := ["GetTree"] }⟩

theorem generate_ofOrchard : ∃ s, Sources.orchard.toService.result = .ok s ∧
    Generator.of s { operations := ["GetTree"] } = .ok (ofOrchard s) ∧
      ((ofOrchard s).generate "out").result = .ok () := by
  have hrun : (Sources.orchard.toService.result.map fun s =>
      (Crate.generate (ofOrchard s).blueprint (ofOrchard s).options).result) =
        .ok (.ok ()) := by
    decide +kernel
  obtain ⟨s, hs, husage⟩ := map_eq_ok.mp Usage.analyze_of_orchard
  rw [hs] at hrun
  exact ⟨s, hs, bind_eq_ok.mpr ⟨_, bind_eq_ok.mpr ⟨_, husage, rfl⟩, rfl⟩, Except.ok.inj hrun⟩

end Generator

end Clientwright
