import Clientwright.Proofs.DistinctFiles
import Clientwright.Proofs.EntryOrder
import Clientwright.Proofs.Revisions

/-!
# Two selections of one service

A crate can be generated again with other operations selected, and code that was
written against the first one should not notice where the two overlap. Two runs
over one service have all of their blueprints in common except for the usage, so
whatever does not look at the usage is the same in both: the files of operations
and the names of types.

The rest is what the usage itself does when the selection grows. All four of its
lists say what the operations reach, which makes them monotone, and all four
ascend, so the lists for one set of operations are the same lists however the set
was written down. From there on equal selections give equal blueprints.
-/

namespace Clientwright

open Outcome

/-- The operations that a selection stands for. -/
def Service.Selects (s : Service) (selection : List String) (n : String) : Prop :=
  n ∈ selection ∨ selection = [] ∧ n ∈ s.operations.keys

/-! ## Usage -/

namespace Usage

variable {s : Service} {A B : List String} {u u' : Usage}

namespace Exact

/-- What fewer operations reach is reached by more. -/
theorem subset (hu : u.Exact s A) (hu' : u'.Exact s B)
    (h : ∀ n, s.Selects A n → s.Selects B n) :
    u.operations ⊆ u'.operations ∧ u.serialized ⊆ u'.serialized ∧
      u.parsed ⊆ u'.parsed ∧ u.enums ⊆ u'.enums := by
  have hoperations : u.operations ⊆ u'.operations := fun n hn =>
    (hu'.operations n).mpr (h n ((hu.operations n).mp hn))
  have hinput : ∀ t, s.IsInput u.operations t → s.IsInput u'.operations t :=
    fun t ⟨n, hn, ht⟩ => ⟨n, hoperations hn, ht⟩
  have houtput : ∀ t, s.IsOutput u.operations t → s.IsOutput u'.operations t :=
    fun t ⟨n, hn, ht⟩ => ⟨n, hoperations hn, ht⟩
  refine ⟨hoperations, fun n hn => ?_, fun n hn => ?_, fun n hn => ?_⟩
  · obtain ⟨hshape, t, ht, hreached⟩ := (hu.serialized n).mp hn
    exact (hu'.serialized n).mpr ⟨hshape, t, hinput t ht, hreached⟩
  · obtain ⟨hshape, t, ht, hreached⟩ := (hu.parsed n).mp hn
    exact (hu'.parsed n).mpr ⟨hshape, t, houtput t ht, hreached⟩
  · obtain ⟨hshape, t, ht, hreached⟩ := (hu.enums n).mp hn
    exact (hu'.enums n).mpr ⟨hshape, t, ht.imp (hinput t) (houtput t), hreached⟩

/-- The usage depends on the set of the operations and not on how it is written. -/
theorem eq_of_same (hu : u.Exact s A) (hu' : u'.Exact s B)
    (h : ∀ n, s.Selects A n ↔ s.Selects B n) : u = u' := by
  obtain ⟨ho, hs, hp, he⟩ := hu.subset hu' fun n => (h n).mp
  obtain ⟨ho', hs', hp', he'⟩ := hu'.subset hu fun n => (h n).mpr
  have hsame : ∀ {l l' : List String}, l ∈ [u.operations, u.serialized, u.parsed, u.enums] →
      l' ∈ [u'.operations, u'.serialized, u'.parsed, u'.enums] →
      l ⊆ l' → l' ⊆ l → l = l' :=
    fun hl hl' hsub hsub' =>
      (hu.ascending _ hl).eq_of_mem_iff (hu'.ascending _ hl') fun _ => ⟨@hsub _, @hsub' _⟩
  have hoperations := hsame (by simp) (by simp) ho ho'
  have hserialized := hsame (by simp) (by simp) hs hs'
  have hparsed := hsame (by simp) (by simp) hp hp'
  have henums := hsame (by simp) (by simp) he he'
  cases u
  cases u'
  congr

end Exact

theorem structures_subset (hserialized : u.serialized ⊆ u'.serialized)
    (hparsed : u.parsed ⊆ u'.parsed) : u.structures ⊆ u'.structures := by
  intro n hn
  rw [structures, mem_sortedNames, List.mem_append] at hn ⊢
  exact hn.imp (@hserialized n) (@hparsed n)

end Usage

/-! ## Blueprints -/

namespace Blueprint

variable {s : Service} {A B : List String} {b b' : Blueprint}

/-- Blueprints of one service differ in their usage alone. -/
theorem eq_withUsage (h : Blueprint.of s A = .ok b) (h' : Blueprint.of s B = .ok b') :
    b' = b.withUsage b'.usage := by
  obtain ⟨usage, -, h⟩ := bind_eq_ok.mp h
  obtain rfl := pure_eq_ok.mp h
  obtain ⟨usage', -, h'⟩ := bind_eq_ok.mp h'
  obtain rfl := pure_eq_ok.mp h'
  rfl

theorem exact_of {src : Sources} (hs : src.toService.result = .ok s)
    (h : Blueprint.of s A = .ok b) : b.usage.Exact s A := by
  obtain ⟨usage, husage, h⟩ := bind_eq_ok.mp h
  obtain rfl := pure_eq_ok.mp h
  exact Usage.exact_of_analyze (src.closed_of_toService hs) husage

end Blueprint

/-! ## Files -/

namespace Crate

variable {b : Blueprint} {u : Usage} {o o' : Options} {f : File} {a : Area} {out : String}

theorem Folder.slash_path_area : (Folder.area a).path out ++ "/" =
    Files.opened out ++ (Folder.area a).route := by
  have hname : '/' ∉ a.name.toList := by cases a <;> decide
  rw [path, Files.join_eq hname, Files.opened_join (by decide) (by decide), route]
  simp only [String.append_assoc]

/-- A path in the folder of an area belongs to a file of that area: any other
folder would leave a slash to the name. -/
theorem File.folder_of_path {rest : String} (hf : f.Plain)
    (h : f.path out = (Folder.area a).path out ++ "/" ++ rest) : f.folder = .area a := by
  have hslash : ∀ {before after : String}, f.name ≠ before ++ ("/" ++ after) := by
    intro before after hname
    refine hf.slash_not_mem_name ?_
    rw [hname]
    simp
  rw [path_eq hf, Folder.slash_path_area, String.append_assoc, String.append_right_inj] at h
  cases hfolder : f.folder with
  | root =>
      rw [hfolder, Folder.route, Folder.route, String.empty_append] at h
      simp only [String.append_assoc] at h
      exact absurd h hslash
  | source =>
      rw [hfolder, Folder.route, Folder.route] at h
      simp only [String.append_assoc, String.append_right_inj] at h
      exact absurd h hslash
  | area a' =>
      rw [hfolder, Folder.route, Folder.route] at h
      simp only [String.append_assoc, String.append_right_inj] at h
      have hhead := congrArg (·.toList.head?) h
      cases a <;> cases a' <;> first | rfl | simp [Area.name] at hhead

/-- The files of an area are its index and the files of items. -/
theorem mem_stages_iff (ha : f.folder = .area a) : f ∈ (stages b o).flatten ↔
    (∃ op ∈ b.operations, f ∈ operationFiles b op) ∨
      (∃ n ∈ b.usage.structures ++ b.usage.enums, f = typeFile b n) ∨ f = .index a := by
  constructor
  · intro hf
    obtain ⟨l, hl, hf⟩ := List.mem_flatten.mp hf
    simp only [stages, List.mem_cons, List.not_mem_nil, or_false] at hl
    rcases hl with rfl | rfl | rfl | rfl | rfl | rfl | rfl | rfl
    · fin_cases hf <;> cases ha
    · exact .inl (List.mem_flatMap.mp hf)
    · fin_cases hf <;> exact .inr (.inr (by rw [Folder.area.inj ha]))
    · obtain ⟨n, hn, rfl⟩ := List.mem_map.mp hf
      exact .inr (.inl ⟨n, hn, rfl⟩)
    · obtain rfl := List.mem_singleton.mp hf
      exact .inr (.inr (by rw [Folder.area.inj ha]))
    · obtain rfl : f = .pagination := by simpa using (List.mem_ite_nil_left.mp hf).2
      cases ha
    · obtain rfl : f = .waiters := by simpa using (List.mem_ite_nil_left.mp hf).2
      cases ha
    · fin_cases hf <;> cases ha
  · have hstage : ∀ {l}, l ∈ stages b o → f ∈ l → f ∈ (stages b o).flatten :=
      fun hl hf => List.mem_flatten.mpr ⟨_, hl, hf⟩
    rintro (hf | ⟨n, hn, rfl⟩ | rfl)
    · exact hstage (.tail _ (.head _)) (List.mem_flatMap.mpr hf)
    · exact hstage (.tail _ (.tail _ (.tail _ (.head _)))) (List.mem_map_of_mem hn)
    · cases a <;> simp [stages]

/-- What is made in an area for fewer operations is made for more. -/
theorem mem_stages_mono (hoperations : b.usage.operations ⊆ u.operations)
    (hstructures : b.usage.structures ⊆ u.structures) (henums : b.usage.enums ⊆ u.enums)
    (ha : f.folder = .area a) (hf : f ∈ (stages b o).flatten) :
    f ∈ (stages (b.withUsage u) o').flatten := by
  rw [mem_stages_iff ha] at hf ⊢
  rcases hf with ⟨op, hop, hf⟩ | ⟨n, hn, rfl⟩ | rfl
  · obtain ⟨n, hn, hop⟩ := List.mem_filterMap.mp hop
    exact .inl ⟨op, List.mem_filterMap.mpr ⟨n, hoperations hn, hop⟩, hf⟩
  · have hn' : n ∈ u.structures ++ u.enums :=
      List.mem_append.mpr ((List.mem_append.mp hn).imp (@hstructures n) (@henums n))
    exact .inr (.inl ⟨n, hn', rfl⟩)
  · exact .inr (.inr rfl)

/-- A crate depends on the selection through its blueprint only. -/
theorem generate_operations (l : List String) :
    generate b { o with operations := l } = generate b o := by
  simp only [generate, Package.of, Options.crateNameOf]

theorem exists_typeFile {n : String} (hb : Complete b)
    (hn : n ∈ b.usage.structures ++ b.usage.enums) :
    ∃ code, TypeFile b (.item .types (b.moduleName n)) (.code code) := by
  rcases List.mem_append.mp hn with hn | hn
  · obtain ⟨t, ht, code, hcode⟩ := hb.structures n hn
    exact ⟨code, .ofStructure hn ht hcode⟩
  · obtain ⟨code, hcode⟩ := hb.enums n hn
    exact ⟨code, .ofEnum hn hcode⟩

end Crate

namespace Generator

variable {s : Service} {A B : List String} {o : Options} {g g' : Generator} {u : Usage}
  {out : String}

/-- The run writes the text to the file, in whatever directory it runs. -/
def Writes (g : Generator) (f : Crate.File) (text : String) : Prop :=
  ∀ out, .action (.writeFile (f.path out) text) ∈ (g.generate out).events

theorem writes_of_written {f : Crate.File} {c : Contents}
    (hrun : (g.generate out).result = .ok ())
    (h : Crate.Written g.blueprint g.options f c) : g.Writes f c.toText := by
  obtain ⟨-, hfiles⟩ := Crate.generate_ok hrun
  exact fun out => List.mem_map.mpr ⟨_, (hfiles f c).mpr h, rfl⟩

/-- The files of a selected operation are made and written. -/
theorem writes_operation {op : Operation} (hrun : (g.generate out).result = .ok ())
    (hop : op ∈ g.blueprint.operations) : ∃ input output?,
      Crate.inputFile g.blueprint op = .ok input ∧
      Crate.outputFile? g.blueprint op = .ok output? ∧
      g.Writes (.item .input (Naming.moduleName op.name)) input.fileText ∧
      ∀ output ∈ output?,
        g.Writes (.item .output (Naming.moduleName op.name)) output.fileText := by
  obtain ⟨hcomplete, -⟩ := Crate.generate_ok hrun
  obtain ⟨⟨input, hinput⟩, output?, houtput⟩ := hcomplete.operations op hop
  refine ⟨input, output?, hinput, houtput,
    writes_of_written hrun (.operation hop (.input hinput)), ?_⟩
  rintro output rfl
  exact writes_of_written hrun (.operation hop (.output houtput))

/-- The file of a type is written. -/
theorem writes_type {n : String} (hrun : (g.generate out).result = .ok ())
    (hn : n ∈ g.blueprint.usage.structures ++ g.blueprint.usage.enums) :
    ∃ text, g.Writes (.item .types (g.blueprint.moduleName n)) text := by
  obtain ⟨hcomplete, -⟩ := Crate.generate_ok hrun
  obtain ⟨code, hcode⟩ := Crate.exists_typeFile hcomplete hn
  exact ⟨_, writes_of_written hrun (.type hcode)⟩

/-- The files in the folder of an area, when the usage grows. -/
theorem files_mono {a : Area} {rest : String} (hready : g.blueprint.Ready)
    (hnames : g.blueprint.names = TypeNames.assign g.blueprint.service)
    (hrun : (g.generate out).result = .ok ()) (hrun' : (g'.generate out).result = .ok ())
    (hg' : g'.blueprint = g.blueprint.withUsage u)
    (hoperations : g.blueprint.usage.operations ⊆ u.operations)
    (hstructures : g.blueprint.usage.structures ⊆ u.structures)
    (henums : g.blueprint.usage.enums ⊆ u.enums)
    (hmem : (Crate.Folder.area a).path out ++ "/" ++ rest ∈ (g.generate out).files) :
    (Crate.Folder.area a).path out ++ "/" ++ rest ∈ (g'.generate out).files := by
  rw [files_generate hrun] at hmem
  rw [files_generate hrun', hg']
  obtain ⟨f, hf, hpath⟩ := List.mem_map.mp hmem
  have hfolder := Crate.File.folder_of_path (Crate.plain_of_mem hready hnames hf) hpath
  rw [← hpath]
  exact List.mem_map_of_mem
    (Crate.mem_stages_mono hoperations hstructures henums hfolder hf)

/-- What two runs over one service have in common. -/
structure Agrees (s : Service) (A B : List String) (g g' : Generator) : Prop where
  /-- The files of an operation that both select are the same, byte for byte. -/
  operations : ∀ n op, s.Selects A n → s.Selects B n → s.operation? n = some op →
    ∃ input output?, ∀ h ∈ [g, g'],
      Crate.inputFile h.blueprint op = .ok input ∧
      Crate.outputFile? h.blueprint op = .ok output? ∧
      h.Writes (.item .input (Naming.moduleName op.name)) input.fileText ∧
      ∀ output ∈ output?,
        h.Writes (.item .output (Naming.moduleName op.name)) output.fileText
  /-- A shape that both generate has one file and one name. -/
  types : ∀ n, n ∈ g.blueprint.usage.structures ++ g.blueprint.usage.enums →
    n ∈ g'.blueprint.usage.structures ++ g'.blueprint.usage.enums →
    ∃ moduleName typeName, ∀ h ∈ [g, g'],
      h.blueprint.moduleName n = moduleName ∧ h.blueprint.typeName n = typeName ∧
      ∃ text, h.Writes (.item .types moduleName) text
  /-- What fewer operations need is needed by more. -/
  usage : (∀ n, s.Selects A n → s.Selects B n) →
    g.blueprint.usage.serialized ⊆ g'.blueprint.usage.serialized ∧
    g.blueprint.usage.parsed ⊆ g'.blueprint.usage.parsed ∧
    g.blueprint.usage.enums ⊆ g'.blueprint.usage.enums
  /-- And each of their files in the folder of an area is written for more. -/
  files : (∀ n, s.Selects A n → s.Selects B n) → ∀ out a rest,
    (Crate.Folder.area a).path out ++ "/" ++ rest ∈ (g.generate out).files →
      (Crate.Folder.area a).path out ++ "/" ++ rest ∈ (g'.generate out).files
  /-- The same operations make the same run. -/
  same : (∀ n, s.Selects A n ↔ s.Selects B n) → ∀ out, g.generate out = g'.generate out

/-- A run over some other operations of a service agrees with the first one. -/
theorem agrees_of_selections {src : Sources} {out' : String} (hs : src.toService.result = .ok s)
    (hg : Generator.of s { o with operations := A } = .ok g)
    (hg' : Generator.of s { o with operations := B } = .ok g')
    (hrun : (g.generate out).result = .ok ())
    (hrun' : (g'.generate out').result = .ok ()) : Agrees s A B g g' := by
  obtain ⟨hb, ho⟩ := of_eq_ok hg
  obtain ⟨hb', ho'⟩ := of_eq_ok hg'
  obtain ⟨hready, hservice⟩ := Blueprint.ready_of_of hs hb
  have hexact := Blueprint.exact_of hs hb
  have hexact' := Blueprint.exact_of hs hb'
  have hother := Blueprint.eq_withUsage hb hb'
  constructor
  case operations =>
    intro n op hn hn' hop
    have hmem : op ∈ g.blueprint.operations := by
      rw [Blueprint.operations, hservice]
      exact List.mem_filterMap.mpr ⟨n, (hexact.operations n).mpr hn, hop⟩
    have hmem' : op ∈ g'.blueprint.operations := by
      rw [Blueprint.operations, hother, Blueprint.service_withUsage, hservice]
      exact List.mem_filterMap.mpr ⟨n, (hexact'.operations n).mpr hn', hop⟩
    obtain ⟨input, output?, hinput, houtput, hwrites⟩ := writes_operation hrun hmem
    obtain ⟨input', output?', hinput', houtput', hwrites'⟩ := writes_operation hrun' hmem'
    rw [hother, Crate.inputFile_withUsage, hinput] at hinput'
    rw [hother, Crate.outputFile?_withUsage, houtput] at houtput'
    obtain rfl := Except.ok.inj hinput'
    obtain rfl := Except.ok.inj houtput'
    refine ⟨input, output?, fun h hh => ?_⟩
    rcases List.mem_pair.mp hh with rfl | rfl
    · exact ⟨hinput, houtput, hwrites⟩
    · rw [hother, Crate.inputFile_withUsage, Crate.outputFile?_withUsage]
      exact ⟨hinput, houtput, hwrites'⟩
  case types =>
    intro n hn hn'
    have hmodule : g'.blueprint.moduleName n = g.blueprint.moduleName n := by
      rw [hother, Blueprint.moduleName_withUsage]
    have htype : g'.blueprint.typeName n = g.blueprint.typeName n := by
      rw [hother, Blueprint.typeName_withUsage]
    refine ⟨g.blueprint.moduleName n, g.blueprint.typeName n, fun h hh => ?_⟩
    rcases List.mem_pair.mp hh with rfl | rfl
    · exact ⟨rfl, rfl, writes_type hrun hn⟩
    · exact ⟨hmodule, htype, hmodule ▸ writes_type hrun' hn'⟩
  case usage => exact fun hsub => (hexact.subset hexact' hsub).2
  case files =>
    intro hsub out a rest hmem
    obtain ⟨hoperations, hserialized, hparsed, henums⟩ := hexact.subset hexact' hsub
    exact files_mono hready (Blueprint.names_of hb) hrun hrun' hother hoperations
      (Usage.structures_subset hserialized hparsed) henums hmem
  case same =>
    intro hsame out
    have husage := hexact.eq_of_same hexact' hsame
    rw [generate, generate, hother, ← husage, ho, ho', Crate.generate_operations,
      Crate.generate_operations]
    rfl

/-! ## An example

One of the operations on books, named twice, beside all of them. -/

theorem generate_books {s : Service} (selection operations : List String)
    (hs : Sources.books.toService.result = .ok s)
    (husage : (Sources.books.toService.result.map fun s => Usage.analyze s selection) =
      .ok (.ok ⟨operations, [], ["Book"], []⟩))
    (hrun : (Sources.books.toService.result.map fun s =>
      (Crate.generate
        ⟨s, ⟨operations, [], ["Book"], []⟩, TypeNames.assign s, s.boxedMembers⟩
        { operations := selection }).result) = .ok (.ok ())) :
    ∃ g, Generator.of s { operations := selection } = .ok g ∧
      (g.generate "out").result = .ok () := by
  rw [hs] at husage hrun
  exact ⟨_, bind_eq_ok.mpr ⟨_, bind_eq_ok.mpr ⟨_, Except.ok.inj husage, rfl⟩, rfl⟩,
    Except.ok.inj hrun⟩

theorem agrees_books : ∃ s g g', Sources.books.toService.result = .ok s ∧
    Generator.of s { operations := ["GetBook", "GetBook"] } = .ok g ∧
    Generator.of s { operations := [] } = .ok g' ∧
    (g.generate "out").result = .ok () ∧ (g'.generate "out").result = .ok () ∧
    (∀ n, s.Selects ["GetBook", "GetBook"] n → s.Selects [] n) ∧
    Agrees s ["GetBook", "GetBook"] [] g g' := by
  have hkeys : (Sources.books.toService.result.map fun s => s.operations.keys) =
      .ok ["GetBook", "ListBooks"] := rfl
  obtain ⟨s, hs, hkeys⟩ := map_eq_ok.mp hkeys
  obtain ⟨g, hg, hrun⟩ := generate_books ["GetBook", "GetBook"] ["GetBook"] hs
    (by cbv) (by decide +kernel)
  obtain ⟨g', hg', hrun'⟩ := generate_books [] ["GetBook", "ListBooks"] hs
    (by cbv) (by decide +kernel)
  refine ⟨s, g, g', hs, hg, hg', hrun, hrun', fun n hn => ?_,
    agrees_of_selections (o := {}) hs hg hg' hrun hrun'⟩
  rcases hn with hn | ⟨hempty, -⟩
  · refine .inr ⟨rfl, ?_⟩
    obtain rfl : n = "GetBook" := by simpa using hn
    rw [hkeys]
    exact List.mem_cons_self
  · cases hempty

end Generator

end Clientwright
