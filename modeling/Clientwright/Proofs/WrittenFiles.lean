import Clientwright.Crate.Generation
import Clientwright.Proofs.Traces

/-!
# The files of a crate

Generating goes through the operations and the types and writes as it goes, and
what it writes at the end depends on what it met on the way. `Written` says the
same at a glance: it lists the files of a crate with what each of them holds, and
nothing in it is about order.

That the two agree needs the run to have come to its end. Each stage then has one
statement that says which files it left and what it handed on, and the handing on
is where the stages meet. The index of an area is made from the modules that were
collected while its files were written, so it has to be shown that the collected
ones are `modules`, a list that can be read off the blueprint.
-/

namespace Clientwright

open Outcome

namespace Crate

variable {b : Blueprint} {o : Options} {op : Operation} {n : String} {f : File}
  {c : Contents}

/-- The module of an operation's input. -/
def inputModule (op : Operation) : Module := ⟨Naming.moduleName op.name, inputType op⟩

/-- The module of an operation's output. -/
def outputModule (op : Operation) : Module := ⟨Naming.moduleName op.name, outputType op⟩

/-- The module of an operation's output, if it has one. -/
def outputModule? (b : Blueprint) (op : Operation) : Option Module :=
  (b.service.outputOf? op).map fun _ => outputModule op

theorem inputModule_name : (inputModule op).name = Naming.moduleName op.name := by
  rw [inputModule]

theorem outputModule_name : (outputModule op).name = Naming.moduleName op.name := by
  rw [outputModule]

theorem typeModule_name : (typeModule b n).name = b.moduleName n := by
  rw [typeModule]

/-- The modules of an area. -/
def modules (b : Blueprint) : Area → List Module
  | .input => b.operations.map inputModule
  | .output => b.operations.filterMap (outputModule? b)
  | .types =>
    ((b.usage.structures ++ b.usage.enums).map (typeModule b)).mergeSort
      fun m n => decide (m.name ≤ n.name)

/-- The first line of an area's index. -/
def title : Area → String
  | .input => "Operation inputs"
  | .output => "Operation outputs"
  | .types => "Structures and enums shared by inputs and outputs"

/-- The index of an area. -/
def index (b : Blueprint) (a : Area) : Code := moduleFile (title a) (modules b a)

/-- The page iterators that are asked for. -/
def wantedPages (b : Blueprint) (o : Options) : List (Pagination × Pages) :=
  if o.paginators then allPages b else []

/-- The waiters that are asked for. -/
def wantedWaiters (b : Blueprint) (o : Options) : List (Waiter × Code) :=
  if o.waiters then allWaiters b else []

/-- The package of the crate. -/
def package (b : Blueprint) (o : Options) : Package :=
  .of b o ((wantedPages b o).map (·.1.operation)) ((wantedWaiters b o).map (·.1.name))

/-- The files of an operation, with what they hold. -/
inductive OperationFile (b : Blueprint) (op : Operation) : File → Contents → Prop where
  | input {code : Code} (h : inputFile b op = .ok code) :
      OperationFile b op (.item .input (Naming.moduleName op.name)) (.code code)
  | output {code : Code} (h : outputFile? b op = .ok (some code)) :
      OperationFile b op (.item .output (Naming.moduleName op.name)) (.code code)

/-- The files of the types, with what they hold. -/
inductive TypeFile (b : Blueprint) : File → Contents → Prop where
  | ofStructure {n : String} {t : StructureShape} {code : Code}
      (hn : n ∈ b.usage.structures) (ht : b.service.structure? n = some t)
      (h : structureFile b t = .ok code) :
      TypeFile b (.item .types (b.moduleName n)) (.code code)
  | ofEnum {n : String} {code : Code} (hn : n ∈ b.usage.enums)
      (h : enumFile b n = .ok code) :
      TypeFile b (.item .types (b.moduleName n)) (.code code)

/-- The files of a crate, with what they hold. -/
inductive Written (b : Blueprint) (o : Options) : File → Contents → Prop where
  | runtime : Written b o .runtime (.text runtimeText)
  | client : Written b o .client (.code (clientFile b))
  | operation {op : Operation} {f : File} {c : Contents} (hop : op ∈ b.operations)
      (h : OperationFile b op f c) : Written b o f c
  | type {f : File} {c : Contents} (h : TypeFile b f c) : Written b o f c
  | index (a : Area) : Written b o (.index a) (.code (index b a))
  | pages (h : wantedPages b o ≠ []) :
      Written b o .pagination (.code (pagesFile b ((wantedPages b o).map (·.2))))
  | waiters (h : wantedWaiters b o ≠ []) :
      Written b o .waiters (.code (waitersFile b ((wantedWaiters b o).map (·.2))))
  | library : Written b o .library (.code (package b o).library)
  | package : Written b o .package (.lines (package b o).manifest)
  | readme : Written b o .readme (.lines (package b o).readme)

/-- Every file of the operations and of the types can be made. -/
structure Complete (b : Blueprint) : Prop where
  operations : ∀ op ∈ b.operations, Succeeds (inputFile b op) ∧ Succeeds (outputFile? b op)
  structures : ∀ n ∈ b.usage.structures, ∃ t, b.service.structure? n = some t ∧
    Succeeds (structureFile b t)
  enums : ∀ n ∈ b.usage.enums, Succeeds (enumFile b n)

theorem emitted_result_eq_ok {α : Type} {r : Except EmissionFault α} {a : α} :
    (emitted r).result = .ok a ↔ r = .ok a := mapError_eq_ok

@[simp]
theorem events_emitted {α : Type} (r : Except EmissionFault α) :
    (emitted r).events = [] := rfl

@[simp]
theorem mem_events_writeFile {g : File} {d : Contents} :
    .file f c ∈ (writeFile g d).events ↔ f = g ∧ c = d := by
  simp [writeFile]

@[simp]
theorem mem_events_writeCode {g : File} {code : Code} :
    .file f c ∈ (writeCode g code).events ↔ f = g ∧ c = .code code :=
  mem_events_writeFile

/-! ## Operations -/

/-- There is a module where there is a file. -/
theorem outputModule?_eq {r : Option Code} (h : outputFile? b op = .ok r) :
    outputModule? b op = r.map fun _ => outputModule op := by
  rw [outputFile?] at h
  rw [outputModule?]
  split at h
  next t ht =>
    obtain ⟨method, -, h⟩ := bind_eq_ok.mp h
    obtain ⟨fields, -, h⟩ := bind_eq_ok.mp h
    obtain rfl := pure_eq_ok.mp h
    rw [ht, Option.map_some, Option.map_some]
  next hnone =>
    obtain rfl := pure_eq_ok.mp h
    rw [Option.map_none, Option.eq_none_iff_forall_ne_some.mpr hnone, Option.map_none]

theorem generateOperation_ok {r : Module × Option Module}
    (h : (generateOperation b n).result = .ok r) :
    ∃ op, b.service.operation? n = some op ∧
      Succeeds (inputFile b op) ∧ Succeeds (outputFile? b op) ∧
      r = (inputModule op, outputModule? b op) ∧
      ∀ f c, .file f c ∈ (generateOperation b n).events ↔ OperationFile b op f c := by
  unfold generateOperation at h ⊢
  split at h
  next op hop =>
    obtain ⟨input, hinput, h⟩ := Trace.bind_result_eq_ok.mp h
    obtain ⟨⟨⟩, hwrite, h⟩ := Trace.bind_result_eq_ok.mp h
    obtain ⟨output, houtput, h⟩ := Trace.bind_result_eq_ok.mp h
    rw [hop]
    refine ⟨op, rfl, ⟨input, emitted_result_eq_ok.mp hinput⟩,
      ⟨output, emitted_result_eq_ok.mp houtput⟩, ?_, fun f c => ?_⟩
    · rw [outputModule?_eq (emitted_result_eq_ok.mp houtput)]
      cases output with
      | none => exact (Except.ok.inj h).symm
      | some code => exact (Except.ok.inj h).symm
    · dsimp only
      rw [Trace.mem_events_bind hinput, Trace.mem_events_bind hwrite,
        Trace.mem_events_bind houtput, mem_events_writeCode]
      refine ⟨fun hmem => ?_, fun hfile => ?_⟩
      · rcases hmem with hmem | ⟨rfl, rfl⟩ | hmem | hmem
        · cases hmem
        · exact .input (emitted_result_eq_ok.mp hinput)
        · cases hmem
        · cases output with
          | none => cases hmem
          | some code =>
              rw [Trace.mem_events_bind rfl, mem_events_writeCode] at hmem
              rcases hmem with ⟨rfl, rfl⟩ | hmem
              · exact .output (emitted_result_eq_ok.mp houtput)
              · cases hmem
      · cases hfile with
        | input hcode =>
            obtain rfl := Except.ok.inj ((emitted_result_eq_ok.mp hinput).symm.trans hcode)
            exact .inr (.inl ⟨rfl, rfl⟩)
        | output hcode =>
            obtain rfl :=
              Except.ok.inj ((emitted_result_eq_ok.mp houtput).symm.trans hcode)
            refine .inr (.inr (.inr ?_))
            rw [Trace.mem_events_bind rfl, mem_events_writeCode]
            exact .inl ⟨rfl, rfl⟩
  next hnone => cases h

/-- The modules that were collected are those of the operations. -/
theorem collected_operations {names : List String} {r : List (Module × Option Module)}
    (h : List.Forall₂ (fun n m => (generateOperation b n).result = .ok m) names r) :
    r = (names.filterMap b.service.operation?).map
      fun op => (inputModule op, outputModule? b op) := by
  induction h with
  | nil => rfl
  | cons hn _ ih =>
      obtain ⟨op, hop, -, -, hm, -⟩ := generateOperation_ok hn
      rw [List.filterMap_cons_some hop, List.map_cons, ← hm, ← ih]

theorem generateOperations_ok (h : (generateOperations b).result = .ok ()) :
    (∀ op ∈ b.operations, Succeeds (inputFile b op) ∧ Succeeds (outputFile? b op)) ∧
      ∀ f c, .file f c ∈ (generateOperations b).events ↔
        (∃ op ∈ b.operations, OperationFile b op f c) ∨
        (f = .index .input ∧ c = .code (index b .input)) ∨
        f = .index .output ∧ c = .code (index b .output) := by
  obtain ⟨r, hr, -⟩ := Trace.bind_result_eq_ok.mp h
  have hran := mapM_eq_ok.mp ((Trace.result_mapM ..).symm.trans hr)
  have heach : ∀ n ∈ b.usage.operations, ∃ op, b.service.operation? n = some op ∧
      Succeeds (inputFile b op) ∧ Succeeds (outputFile? b op) ∧
      ∀ f c, .file f c ∈ (generateOperation b n).events ↔ OperationFile b op f c := by
    intro n hn
    obtain ⟨m, -, hm⟩ := exists_right_of_forall₂ hran hn
    obtain ⟨op, hop, hinput, houtput, -, hfiles⟩ := generateOperation_ok hm
    exact ⟨op, hop, hinput, houtput, hfiles⟩
  have hinputs : r.map (·.1) = modules b .input := by
    rw [collected_operations hran, List.map_map]
    rfl
  have houtputs : r.filterMap (·.2) = modules b .output := by
    rw [collected_operations hran, List.filterMap_map]
    rfl
  refine ⟨fun op hop => ?_, fun f c => ?_⟩
  · obtain ⟨n, hn, hop⟩ := List.mem_filterMap.mp hop
    obtain ⟨op', hop', hinput, houtput, -⟩ := heach n hn
    obtain rfl := Option.some.inj (hop.symm.trans hop')
    exact ⟨hinput, houtput⟩
  · rw [generateOperations, Trace.mem_events_bind hr, Trace.mem_events_mapM hr,
      Trace.mem_events_bind rfl, hinputs, houtputs, generateIndex, generateIndex,
      mem_events_writeCode, mem_events_writeCode]
    refine or_congr_left ?_
    refine ⟨fun ⟨n, hn, hmem⟩ => ?_, fun ⟨op, hop, hfile⟩ => ?_⟩
    · obtain ⟨op, hop, -, -, hfiles⟩ := heach n hn
      exact ⟨op, List.mem_filterMap.mpr ⟨n, hn, hop⟩, (hfiles f c).mp hmem⟩
    · obtain ⟨n, hn, hop⟩ := List.mem_filterMap.mp hop
      obtain ⟨op', hop', -, -, hfiles⟩ := heach n hn
      obtain rfl := Option.some.inj (hop.symm.trans hop')
      exact ⟨n, hn, (hfiles f c).mpr hfile⟩

/-! ## Types -/

theorem generateStructure_ok {m : Module}
    (h : (generateStructure b n).result = .ok m) :
    m = typeModule b n ∧ ∃ t code, b.service.structure? n = some t ∧
      structureFile b t = .ok code ∧
      ∀ f c, .file f c ∈ (generateStructure b n).events ↔
        f = .item .types (b.moduleName n) ∧ c = .code code := by
  unfold generateStructure at h ⊢
  split at h
  next t ht =>
    obtain ⟨code, hcode, h⟩ := Trace.bind_result_eq_ok.mp h
    rw [ht]
    refine ⟨(Except.ok.inj h).symm, t, code, rfl, emitted_result_eq_ok.mp hcode,
      fun f c => ?_⟩
    rw [Trace.mem_events_bind hcode, Trace.mem_events_bind rfl, mem_events_writeCode]
    simp
  next hnone => cases h

theorem generateEnum_ok {m : Module} (h : (generateEnum b n).result = .ok m) :
    m = typeModule b n ∧ ∃ code, enumFile b n = .ok code ∧
      ∀ f c, .file f c ∈ (generateEnum b n).events ↔
        f = .item .types (b.moduleName n) ∧ c = .code code := by
  obtain ⟨code, hcode, h⟩ := Trace.bind_result_eq_ok.mp h
  refine ⟨(Except.ok.inj h).symm, code, emitted_result_eq_ok.mp hcode, fun f c => ?_⟩
  rw [generateEnum, Trace.mem_events_bind hcode, Trace.mem_events_bind rfl,
    mem_events_writeCode]
  simp

theorem collected_types {g : String → Trace Product Module} {names : List String}
    {r : List Module} (hr : (names.mapM g).result = .ok r)
    (hg : ∀ {n m}, (g n).result = .ok m → m = typeModule b n) :
    r = names.map (typeModule b) := by
  have heach := mapM_eq_ok.mp ((Trace.result_mapM ..).symm.trans hr)
  rw [← List.forall₂_eq_eq_eq, List.forall₂_map_right_iff]
  exact heach.flip.imp fun m n hm => hg hm

theorem generateTypes_ok (h : (generateTypes b).result = .ok ()) :
    (∀ n ∈ b.usage.structures, ∃ t, b.service.structure? n = some t ∧
      Succeeds (structureFile b t)) ∧
    (∀ n ∈ b.usage.enums, Succeeds (enumFile b n)) ∧
      ∀ f c, .file f c ∈ (generateTypes b).events ↔
        TypeFile b f c ∨ f = .index .types ∧ c = .code (index b .types) := by
  obtain ⟨structures, hstructures, h⟩ := Trace.bind_result_eq_ok.mp h
  obtain ⟨enums, henums, -⟩ := Trace.bind_result_eq_ok.mp h
  have hs : ∀ n ∈ b.usage.structures, ∃ t code, b.service.structure? n = some t ∧
      structureFile b t = .ok code ∧
      ∀ f c, .file f c ∈ (generateStructure b n).events ↔
        f = .item .types (b.moduleName n) ∧ c = .code code := by
    intro n hn
    have hran := mapM_eq_ok.mp ((Trace.result_mapM ..).symm.trans hstructures)
    obtain ⟨m, -, hm⟩ := exists_right_of_forall₂ hran hn
    exact (generateStructure_ok hm).2
  have he : ∀ n ∈ b.usage.enums, ∃ code, enumFile b n = .ok code ∧
      ∀ f c, .file f c ∈ (generateEnum b n).events ↔
        f = .item .types (b.moduleName n) ∧ c = .code code := by
    intro n hn
    have hran := mapM_eq_ok.mp ((Trace.result_mapM ..).symm.trans henums)
    obtain ⟨m, -, hm⟩ := exists_right_of_forall₂ hran hn
    exact (generateEnum_ok hm).2
  have hmodules : (structures ++ enums).mergeSort
      (fun m n => decide (m.name ≤ n.name)) = modules b .types := by
    rw [collected_types hstructures fun h => (generateStructure_ok h).1,
      collected_types henums fun h => (generateEnum_ok h).1, ← List.map_append]
    rfl
  refine ⟨fun n hn => ?_, fun n hn => ?_, fun f c => ?_⟩
  · obtain ⟨t, code, ht, hcode, -⟩ := hs n hn
    exact ⟨t, ht, code, hcode⟩
  · obtain ⟨code, hcode, -⟩ := he n hn
    exact ⟨code, hcode⟩
  rw [generateTypes, Trace.mem_events_bind hstructures, Trace.mem_events_mapM hstructures,
    Trace.mem_events_bind henums, Trace.mem_events_mapM henums, hmodules, generateIndex,
    mem_events_writeCode, ← or_assoc]
  refine or_congr_left ?_
  refine ⟨fun hmem => ?_, fun hfile => ?_⟩
  · rcases hmem with ⟨n, hn, hmem⟩ | ⟨n, hn, hmem⟩
    · obtain ⟨t, code, ht, hcode, hfiles⟩ := hs n hn
      obtain ⟨rfl, rfl⟩ := (hfiles f c).mp hmem
      exact .ofStructure hn ht hcode
    · obtain ⟨code, hcode, hfiles⟩ := he n hn
      obtain ⟨rfl, rfl⟩ := (hfiles f c).mp hmem
      exact .ofEnum hn hcode
  · cases hfile with
    | @ofStructure n t code hn ht hcode =>
        obtain ⟨t', code', ht', hcode', hfiles⟩ := hs n hn
        obtain rfl := Option.some.inj (ht.symm.trans ht')
        obtain rfl := Except.ok.inj (hcode.symm.trans hcode')
        exact .inl ⟨n, hn, (hfiles _ _).mpr ⟨rfl, rfl⟩⟩
    | @ofEnum n code hn hcode =>
        obtain ⟨code', hcode', hfiles⟩ := he n hn
        obtain rfl := Except.ok.inj (hcode.symm.trans hcode')
        exact .inr ⟨n, hn, (hfiles _ _).mpr ⟨rfl, rfl⟩⟩

/-! ## Pages, waiters and the package -/

/-- Warnings, and a file that is there if there is anything to put into it. -/
def noted {α β : Type} (warnings : List Warning) (l : List α) (g : File) (code : Code)
    (r : β) : Trace Product β where
  events := warnings.map .warning ++ if l.isEmpty then [] else [.file g (.code code)]
  result := .ok r

theorem mem_events_noted {α β : Type} {warnings : List Warning} {l : List α} {g : File}
    {code : Code} {r : β} :
    .file f c ∈ (noted warnings l g code r).events ↔ l ≠ [] ∧ f = g ∧ c = .code code := by
  cases l with
  | nil => simp [noted]
  | cons a rest => simp [noted]

theorem generatePages_eq : generatePages b =
    noted (pagesWarnings b) (allPages b) .pagination
      (pagesFile b ((allPages b).map (·.2))) ((allPages b).map (·.1.operation)) := by
  unfold generatePages
  cases allPages b with
  | nil => rfl
  | cons p rest => rfl

theorem generateWaiters_eq : generateWaiters b =
    noted (waiterWarnings b) (allWaiters b) .waiters
      (waitersFile b ((allWaiters b).map (·.2))) ((allWaiters b).map (·.1.name)) := by
  unfold generateWaiters
  cases allWaiters b with
  | nil => rfl
  | cons w rest => rfl

/-- Asking for no iterators is like having none, and the same with waiters; and the
support code is always there. -/
theorem generate_eq : generate b o = (do
    Trace.emitAll (folders.map .folder)
    writeFile .runtime (.text runtimeText)
    writeCode .client (clientFile b)
    generateOperations b
    generateTypes b
    let paginators ←
      noted (if o.paginators then pagesWarnings b else []) (wantedPages b o) .pagination
        (pagesFile b ((wantedPages b o).map (·.2)))
        ((wantedPages b o).map (·.1.operation))
    let waiters ←
      noted (if o.waiters then waiterWarnings b else []) (wantedWaiters b o) .waiters
        (waitersFile b ((wantedWaiters b o).map (·.2)))
        ((wantedWaiters b o).map (·.1.name))
    generatePackage (Package.of b o paginators waiters)) := by
  unfold generate wantedPages wantedWaiters
  rw [generatePages_eq, generateWaiters_eq, constantFile_runtime]
  cases o.paginators <;> cases o.waiters <;> rfl

theorem mem_events_generatePackage {p : Package} :
    .file f c ∈ (generatePackage p).events ↔
      (f = .library ∧ c = .code p.library) ∨
      (f = .package ∧ c = .lines p.manifest) ∨ f = .readme ∧ c = .lines p.readme := by
  rw [generatePackage, Trace.mem_events_bind rfl, Trace.mem_events_bind rfl,
    mem_events_writeCode, mem_events_writeFile, mem_events_writeFile]

/-- A crate that was generated to its end consists of the files that are listed
for it, and none of these is missing. -/
theorem generate_ok (h : (generate b o).result = .ok ()) :
    Complete b ∧ ∀ f c, .file f c ∈ (generate b o).events ↔ Written b o f c := by
  rw [generate_eq] at h ⊢
  obtain ⟨⟨⟩, hfolders, h⟩ := Trace.bind_result_eq_ok.mp h
  obtain ⟨⟨⟩, hruntime, h⟩ := Trace.bind_result_eq_ok.mp h
  obtain ⟨⟨⟩, hclient, h⟩ := Trace.bind_result_eq_ok.mp h
  obtain ⟨⟨⟩, hoperations, h⟩ := Trace.bind_result_eq_ok.mp h
  obtain ⟨⟨⟩, htypes, -⟩ := Trace.bind_result_eq_ok.mp h
  obtain ⟨hmade, hoperation⟩ := generateOperations_ok hoperations
  obtain ⟨hstructures, henums, htype⟩ := generateTypes_ok htypes
  refine ⟨⟨hmade, hstructures, henums⟩, fun f c => ?_⟩
  rw [Trace.mem_events_bind hfolders, Trace.mem_events_bind hruntime,
    Trace.mem_events_bind hclient, Trace.mem_events_bind hoperations,
    Trace.mem_events_bind htypes, Trace.mem_events_bind rfl, Trace.mem_events_bind rfl,
    mem_events_writeFile, mem_events_writeCode, hoperation, htype, mem_events_noted,
    mem_events_noted, mem_events_generatePackage]
  have hfolder : .file f c ∉ (Trace.emitAll (folders.map Product.folder)).events := by
    simp
  constructor
  · rintro (hmem | ⟨rfl, rfl⟩ | ⟨rfl, rfl⟩ | (⟨op, hop, hfile⟩ | ⟨rfl, rfl⟩ | ⟨rfl, rfl⟩) |
      (hfile | ⟨rfl, rfl⟩) | ⟨hpages, rfl, rfl⟩ | ⟨hwaiters, rfl, rfl⟩ |
      ⟨rfl, rfl⟩ | ⟨rfl, rfl⟩ | ⟨rfl, rfl⟩)
    · exact absurd hmem hfolder
    · exact .runtime
    · exact .client
    · exact .operation hop hfile
    · exact .index .input
    · exact .index .output
    · exact .type hfile
    · exact .index .types
    · exact .pages hpages
    · exact .waiters hwaiters
    · exact .library
    · exact .package
    · exact .readme
  · intro hfile
    refine .inr ?_
    cases hfile with
    | runtime => simp
    | client => simp
    | operation hop h => exact .inr (.inr (.inl (.inl ⟨_, hop, h⟩)))
    | type h => exact .inr (.inr (.inr (.inl (.inl h))))
    | index a => cases a <;> simp
    | pages h => simp [h]
    | waiters h => simp [h]
    | library => simp [package]
    | package => simp [package]
    | readme => simp [package]

/-- So every module of an area has its file. -/
theorem Complete.exists_written (hb : Complete b) {a : Area} {m : Module}
    (hm : m ∈ modules b a) : ∃ c, Written b o (.item a m.name) c := by
  cases a with
  | input =>
      obtain ⟨op, hop, rfl⟩ := List.mem_map.mp hm
      obtain ⟨⟨code, hcode⟩, -⟩ := hb.operations op hop
      rw [inputModule_name]
      exact ⟨_, .operation hop (.input hcode)⟩
  | output =>
      obtain ⟨op, hop, hm⟩ := List.mem_filterMap.mp hm
      obtain ⟨-, r, hr⟩ := hb.operations op hop
      rw [outputModule?_eq hr] at hm
      obtain ⟨code, rfl, hmodule⟩ := Option.map_eq_some_iff.mp hm
      rw [← hmodule, outputModule_name]
      exact ⟨_, .operation hop (.output hr)⟩
  | types =>
      rw [modules, List.mem_mergeSort] at hm
      obtain ⟨n, hn, rfl⟩ := List.mem_map.mp hm
      rw [typeModule_name]
      rcases List.mem_append.mp hn with hn | hn
      · obtain ⟨t, ht, code, hcode⟩ := hb.structures n hn
        exact ⟨_, .type (.ofStructure hn ht hcode)⟩
      · obtain ⟨code, hcode⟩ := hb.enums n hn
        exact ⟨_, .type (.ofEnum hn hcode)⟩

/-- And the files in an area's folder are its index and those of its modules. -/
theorem Written.mem_modules {a : Area} (h : Written b o f c) (hfolder : f.folder = .area a) :
    f = .index a ∨ ∃ m ∈ modules b a, f = .item a m.name := by
  cases h with
  | @operation op _ _ hop h =>
      cases h with
      | input h =>
          cases hfolder
          have hm : inputModule op ∈ modules b .input := List.mem_map_of_mem hop
          exact .inr ⟨inputModule op, hm, by rw [inputModule_name]⟩
      | output h =>
          cases hfolder
          have hm : outputModule op ∈ modules b .output := by
            rw [modules, List.mem_filterMap]
            exact ⟨op, hop, by rw [outputModule?_eq h, Option.map_some]⟩
          exact .inr ⟨outputModule op, hm, by rw [outputModule_name]⟩
  | type h =>
      have hm : ∀ n ∈ b.usage.structures ++ b.usage.enums,
          typeModule b n ∈ modules b .types := by
        intro n hn
        rw [modules, List.mem_mergeSort]
        exact List.mem_map_of_mem hn
      cases h with
      | @ofStructure n t code hn ht h =>
          cases hfolder
          refine .inr ⟨typeModule b n, hm n (List.mem_append_left _ hn), ?_⟩
          rw [typeModule_name]
      | @ofEnum n code hn h =>
          cases hfolder
          refine .inr ⟨typeModule b n, hm n (List.mem_append_right _ hn), ?_⟩
          rw [typeModule_name]
  | index a' =>
      cases hfolder
      exact .inl rfl
  | runtime | client | pages | waiters | library | package | readme => cases hfolder

end Crate

end Clientwright
