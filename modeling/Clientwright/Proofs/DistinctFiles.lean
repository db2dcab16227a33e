import Clientwright.Proofs.Faults
import Clientwright.Proofs.ModuleNames

/-!
# Files that keep apart

A file that is written over an earlier one of the same run is lost. Whether that
can happen is a question about names: the folders of a crate are fixed, a name
without a slash stays in its folder, and so the path of a file says which file it
is (`path_inj`).

What is left is that no file is made twice, and here the two kinds of modules
part. The modules of types were made unique when they were named, over all the
shapes of the service and not only over those that are used. The modules of
operations were not, and names that differ in their case alone make one module.
`nodup_files_iff` says that this is the only way in which a file can be lost.
-/

namespace Clientwright

open Outcome

/-! ## Modules of types -/

namespace TypeNames

variable {s : Service} {n n' : String}

theorem nodup_generatedShapes (s : Service) : (generatedShapes s).Nodup := by
  refine List.Nodup.sublist ?_ s.shapes.nodup_keys
  exact List.filter_sublist.map _

theorem mem_generatedShapes_iff {shape : Shape} (h : s.shape? n = some shape) :
    n ∈ generatedShapes s ↔ isGenerated shape = true := by
  rw [generatedShapes, List.mem_map]
  constructor
  · rintro ⟨⟨n, shape'⟩, hmem, rfl⟩
    rw [List.mem_filter, ← Table.get?_eq_some_iff] at hmem
    obtain ⟨hshape, hgenerated⟩ := hmem
    obtain rfl := Option.some.inj (h.symm.trans hshape)
    exact hgenerated
  · intro hgenerated
    exact ⟨(n, shape), List.mem_filter.mpr ⟨Table.get?_eq_some_iff.mp h, hgenerated⟩, rfl⟩

theorem keys_assign (s : Service) : (assign s).map (·.1) = generatedShapes s := by
  refine List.map_fst_zip ?_
  simp [Naming.length_uniqueAll]

/-- The names are paired as they were found, those of types with those of modules. -/
theorem map_snd_assign (s : Service) : (assign s).map (·.2) =
    ((Naming.uniqueAll [] ((generatedShapes s).map wantedTypeName)).zip
      (Naming.uniqueAll [] ((generatedShapes s).map Naming.moduleName))).map
        (Function.uncurry TypeNames.mk) := by
  rw [List.map_uncurry_zip_eq_zipWith]
  refine List.map_snd_zip ?_
  simp [Naming.length_uniqueAll]

theorem typeNames_assign (s : Service) : (assign s).map (·.2.typeName) =
    Naming.uniqueAll [] ((generatedShapes s).map wantedTypeName) := by
  have hsplit : (assign s).map (·.2.typeName) = ((assign s).map (·.2)).map (·.typeName) :=
    List.map_map.symm
  rw [hsplit, map_snd_assign, List.map_map]
  refine List.map_fst_zip ?_
  simp [Naming.length_uniqueAll]

theorem modules_assign (s : Service) : (assign s).map (·.2.moduleName) =
    Naming.uniqueAll [] ((generatedShapes s).map Naming.moduleName) := by
  have hsplit : (assign s).map (·.2.moduleName) = ((assign s).map (·.2)).map (·.moduleName) :=
    List.map_map.symm
  rw [hsplit, map_snd_assign, List.map_map]
  refine List.map_snd_zip ?_
  simp [Naming.length_uniqueAll]

/-- What a shape is called, if it is generated as a type. -/
theorem exists_lookup_assign (h : n ∈ generatedShapes s) :
    ∃ t, (assign s).lookup n = some t ∧ (n, t) ∈ assign s := by
  rw [← keys_assign, List.mem_map] at h
  obtain ⟨⟨n, t⟩, hmem, rfl⟩ := h
  refine ⟨t, (Table.lookup_eq_some_iff ?_).mpr hmem, hmem⟩
  rw [keys_assign]
  exact nodup_generatedShapes s

/-- A shape gets the names that are wanted for it, with a number or as they are. -/
theorem exists_candidates {t : TypeNames} (h : (n, t) ∈ assign s) :
    (∃ k, t.typeName = Naming.candidate (wantedTypeName n) k) ∧
      ∃ k, t.moduleName = Naming.candidate (Naming.moduleName n) k := by
  have htypes := Naming.forall₂_uniqueAll [] ((generatedShapes s).map wantedTypeName)
  have hmodules := Naming.forall₂_uniqueAll [] ((generatedShapes s).map Naming.moduleName)
  rw [← typeNames_assign, ← keys_assign, List.map_map, List.forall₂_map_left_iff,
    List.forall₂_map_right_iff, List.forall₂_same] at htypes
  rw [← modules_assign, ← keys_assign, List.map_map, List.forall₂_map_left_iff,
    List.forall₂_map_right_iff, List.forall₂_same] at hmodules
  simp only [Function.comp_apply] at htypes hmodules
  exact ⟨htypes (n, t) h, hmodules (n, t) h⟩

end TypeNames

namespace Blueprint

variable {b : Blueprint} {n n' : String}

theorem names_of {s : Service} {selection : List String} (h : Blueprint.of s selection = .ok b) :
    b.names = TypeNames.assign b.service := by
  obtain ⟨usage, -, h⟩ := bind_eq_ok.mp h
  obtain rfl := pure_eq_ok.mp h
  rfl

section Modules

variable (hnames : b.names = TypeNames.assign b.service)
include hnames

theorem exists_moduleName (hn : n ∈ TypeNames.generatedShapes b.service) :
    ∃ t, (n, t) ∈ TypeNames.assign b.service ∧ b.moduleName n = t.moduleName := by
  obtain ⟨t, hlookup, hmem⟩ := TypeNames.exists_lookup_assign hn
  refine ⟨t, hmem, ?_⟩
  rw [moduleName, hnames, hlookup]

/-- The module of a type belongs to no other. -/
theorem moduleName_inj (hn : n ∈ TypeNames.generatedShapes b.service)
    (hn' : n' ∈ TypeNames.generatedShapes b.service)
    (h : b.moduleName n = b.moduleName n') : n = n' := by
  obtain ⟨t, ht, hmodule⟩ := exists_moduleName hnames hn
  obtain ⟨t', ht', hmodule'⟩ := exists_moduleName hnames hn'
  have hnodup : ((TypeNames.assign b.service).map (·.2.moduleName)).Nodup := by
    rw [TypeNames.modules_assign]
    exact Naming.nodup_uniqueAll ..
  have hentry := List.inj_on_of_nodup_map hnodup ht ht' (hmodule ▸ hmodule' ▸ h)
  exact (Prod.mk.inj hentry).1

theorem exists_candidate_moduleName (hn : n ∈ TypeNames.generatedShapes b.service) :
    ∃ k, b.moduleName n = Naming.candidate (Naming.moduleName n) k := by
  obtain ⟨t, ht, hmodule⟩ := exists_moduleName hnames hn
  obtain ⟨-, k, hk⟩ := TypeNames.exists_candidates ht
  exact ⟨k, hmodule.trans hk⟩

end Modules

namespace Ready

/-- What is generated has a name of its own. -/
theorem mem_generatedShapes (hb : b.Ready) (hn : n ∈ b.usage.structures ++ b.usage.enums) :
    n ∈ TypeNames.generatedShapes b.service := by
  rcases List.mem_append.mp hn with hn | hn
  · obtain ⟨⟨t, ht⟩, -⟩ := hb.mem_structures_iff.mp hn
    exact (TypeNames.mem_generatedShapes_iff ht).mpr rfl
  · obtain ⟨⟨t, ht, henum⟩, -⟩ := hb.mem_enums_iff.mp hn
    exact (TypeNames.mem_generatedShapes_iff ht).mpr (Service.isEnum_iff.mpr henum)

/-- Nothing is generated both as a structure and as an enumerated text, nor twice. -/
theorem nodup_types (hb : b.Ready) : (b.usage.structures ++ b.usage.enums).Nodup := by
  obtain ⟨selection, -, hexact⟩ := hb.exact
  have hdistinct : ∀ {l : List String}, l.Pairwise (· < ·) → l.Nodup := fun h =>
    h.imp fun {m n} (hlt : m < n) (he : m = n) => String.lt_irrefl n (he ▸ hlt)
  have henums : b.usage.enums.Pairwise (· < ·) :=
    hexact.ascending _ (by simp)
  refine (hdistinct (pairwise_sortedNames _)).append (hdistinct henums) ?_
  intro n hn hn'
  obtain ⟨⟨t, ht⟩, -⟩ := hb.mem_structures_iff.mp hn
  obtain ⟨⟨t', ht', -⟩, -⟩ := hb.mem_enums_iff.mp hn'
  cases ht.symm.trans ht'

theorem nodup_typeModules (hb : b.Ready) (hnames : b.names = TypeNames.assign b.service) :
    ((b.usage.structures ++ b.usage.enums).map b.moduleName).Nodup := by
  refine List.Nodup.map_on (fun m hm n hn h => ?_) hb.nodup_types
  exact moduleName_inj hnames (hb.mem_generatedShapes hm) (hb.mem_generatedShapes hn) h

end Ready

end Blueprint

/-! ## Paths -/

namespace Files

variable {directory part : String}

/-- The directory, as it stands in front of a part of a path. -/
def opened (directory : String) : String :=
  if directory.isEmpty || directory.toList.getLast? = some '/' then directory
  else directory ++ "/"

theorem not_isAbsolute (h : '/' ∉ part.toList) : isAbsolute part = false := by
  rw [isAbsolute, decide_eq_false_iff_not]
  exact fun hhead => h (List.mem_of_head? hhead)

theorem join_eq (h : '/' ∉ part.toList) : join directory part = opened directory ++ part := by
  rw [join, not_isAbsolute h, opened]
  split
  next habsurd => cases habsurd
  next =>
    split
    · rfl
    · rfl

theorem opened_join (hne : part.toList ≠ []) (h : '/' ∉ part.toList) :
    opened (join directory part) = opened directory ++ (part ++ "/") := by
  rw [join_eq h, ← String.append_assoc, opened, if_neg]
  rw [Bool.or_eq_true, decide_eq_true_eq, String.toList_append,
    List.getLast?_append_of_ne_nil _ hne]
  rintro (hempty | hslash)
  · rw [String.isEmpty_iff, String.append_eq_empty_iff] at hempty
    exact hne (by rw [hempty.2]; rfl)
  · exact h (List.mem_of_getLast? hslash)

/-- A path is cut into folders and a name in one way only. -/
theorem folders_eq {folders folders' name name' : List Char}
    (h : folders ++ name = folders' ++ name')
    (hfolders : ∀ c, folders.getLast? = some c → c = '/')
    (hfolders' : ∀ c, folders'.getLast? = some c → c = '/')
    (hname : '/' ∉ name) (hname' : '/' ∉ name') : folders = folders' := by
  have hlonger : ∀ {shorter rest name : List Char}, '/' ∉ rest ++ name →
      (∀ c, (shorter ++ rest).getLast? = some c → c = '/') → rest = [] := by
    intro shorter rest name hrest hlast
    by_contra hne
    obtain ⟨c, hc⟩ := List.getLast?_isSome.mpr hne |> Option.isSome_iff_exists.mp
    obtain rfl := hlast c (by rw [List.getLast?_append_of_ne_nil _ hne, hc])
    exact hrest (List.mem_append_left _ (List.mem_of_getLast? hc))
  rcases List.append_eq_append_iff.mp h with ⟨rest, rfl, rfl⟩ | ⟨rest, rfl, rfl⟩
  · rw [hlonger hname hfolders', List.append_nil]
  · rw [hlonger hname' hfolders, List.append_nil]

end Files

namespace Crate

variable {f f' : File} {out : String}

/-- The way from the crate to a folder. -/
def Folder.route : Folder → String
  | root => ""
  | source => "src" ++ "/"
  | area a => "src" ++ "/" ++ (a.name ++ "/")

theorem Folder.opened_path (folder : Folder) :
    Files.opened (folder.path out) = Files.opened out ++ folder.route := by
  cases folder with
  | root => rw [path, route, String.append_empty]
  | source => exact Files.opened_join (by decide) (by decide)
  | area a =>
      have hname : a.name.toList ≠ [] ∧ '/' ∉ a.name.toList := by
        cases a <;> decide
      rw [path, Files.opened_join hname.1 hname.2,
        Files.opened_join (by decide) (by decide), route, String.append_assoc]

theorem Folder.route_inj {folder folder' : Folder} (h : folder.route = folder'.route) :
    folder = folder' := by
  rcases folder with _ | _ | ⟨_ | _ | _⟩ <;>
    rcases folder' with _ | _ | ⟨_ | _ | _⟩ <;>
      first
      | rfl
      | exact absurd h (by decide)

theorem Folder.getLast?_route (folder : Folder) :
    ∀ c, folder.route.toList.getLast? = some c → c = '/' := by
  intro c h
  cases folder with
  | root => cases h
  | source => exact (Option.some.inj h).symm
  | area a =>
      rw [route, ← String.append_assoc, String.toList_append,
        List.getLast?_append_of_ne_nil _ (by decide)] at h
      exact (Option.some.inj h).symm

/-- The file has a name of its own in its folder. -/
def File.Plain : File → Prop
  | item _ moduleName => '/' ∉ moduleName.toList ∧ moduleName ≠ "mod"
  | _ => True

theorem File.Plain.slash_not_mem_name (h : f.Plain) : '/' ∉ f.name.toList := by
  cases f with
  | item a moduleName =>
      rw [name, String.toList_append, List.mem_append, not_or]
      exact ⟨h.1, by decide⟩
  | index a =>
      rw [name]
      decide
  | _ => decide

theorem File.eq_of_name (hf : f.Plain) (hf' : f'.Plain) (hfolder : f.folder = f'.folder)
    (hname : f.name = f'.name) : f = f' := by
  have hmod : ∀ {m : String}, m ++ ".rs" = "mod.rs" → m = "mod" := fun {m} h =>
    (String.append_left_inj ".rs").mp (h.trans (by decide))
  cases f with
  | item a m =>
      cases f' with
      | item a' m' =>
          obtain rfl := Folder.area.inj hfolder
          rw [(String.append_left_inj ".rs").mp hname]
      | index a' => exact absurd (hmod hname) hf.2
      | _ => cases hfolder
  | index a =>
      cases f' with
      | item a' m' => exact absurd (hmod hname.symm) hf'.2
      | index a' => rw [Folder.area.inj hfolder]
      | _ => cases hfolder
  | _ =>
      cases f' <;>
        first
        | rfl
        | exact absurd hname (by decide)
        | cases hfolder

theorem File.path_eq (h : f.Plain) :
    f.path out = Files.opened out ++ (f.folder.route ++ f.name) := by
  rw [path, Files.join_eq h.slash_not_mem_name, Folder.opened_path, String.append_assoc]

/-- A path says which file it is the path of. -/
theorem File.path_inj (hf : f.Plain) (hf' : f'.Plain) (h : f.path out = f'.path out) :
    f = f' := by
  rw [path_eq hf, path_eq hf', String.append_right_inj] at h
  have hlist := congrArg String.toList h
  rw [String.toList_append, String.toList_append] at hlist
  have hroute := String.toList_inj.mp <| Files.folders_eq hlist
    f.folder.getLast?_route f'.folder.getLast?_route
    hf.slash_not_mem_name hf'.slash_not_mem_name
  rw [hroute, String.append_right_inj] at h
  exact eq_of_name hf hf' (Folder.route_inj hroute) h

/-! ## The files of a run -/

variable {b : Blueprint} {o : Options} {n : String} {op : Operation} {α β : Type}

/-- The file that a product is, if it is one. -/
def Product.file? : Product → Option File
  | file f _ => some f
  | folder _ | warning _ => none

/-- The files that are made, in order. -/
def made (t : Trace Product α) : List File := t.events.filterMap Product.file?

theorem made_bind {x : Trace Product α} {f : α → Trace Product β} {a : α}
    (h : x.result = .ok a) : made (x >>= f) = made x ++ made (f a) := by
  rw [made, Trace.events_bind h, List.filterMap_append, made, made]

theorem made_mapM {f : α → Trace Product β} {l : List α} {r : List β}
    (h : (l.mapM f).result = .ok r) : made (l.mapM f) = l.flatMap fun a => made (f a) := by
  rw [made, Trace.events_mapM h, List.filterMap_flatMap]
  rfl

@[simp]
theorem made_pure (a : α) : made (pure a : Trace Product α) = [] := rfl

@[simp]
theorem made_emitted (r : Except EmissionFault α) : made (emitted r) = [] := rfl

@[simp]
theorem made_writeFile (f : File) (c : Contents) : made (writeFile f c) = [f] := rfl

@[simp]
theorem made_writeCode (f : File) (c : Code) : made (writeCode f c) = [f] := rfl

/-- The files of an operation. -/
def operationFiles (b : Blueprint) (op : Operation) : List File :=
  .item .input (Naming.moduleName op.name) ::
    if (b.service.outputOf? op).isSome then [.item .output (Naming.moduleName op.name)] else []

/-- The file of a type. -/
def typeFile (b : Blueprint) (n : String) : File := .item .types (b.moduleName n)

/-- The files of a crate, stage by stage. -/
def stages (b : Blueprint) (o : Options) : List (List File) := [
  [.runtime, .client],
  b.operations.flatMap (operationFiles b),
  [.index .input, .index .output],
  (b.usage.structures ++ b.usage.enums).map (typeFile b),
  [.index .types],
  if (wantedPages b o).isEmpty then [] else [.pagination],
  if (wantedWaiters b o).isEmpty then [] else [.waiters],
  [.library, .package, .readme]]

theorem made_operation {r : Module × Option Module}
    (h : (generateOperation b n).result = .ok r) :
    ∃ op, b.service.operation? n = some op ∧
      made (generateOperation b n) = operationFiles b op := by
  unfold generateOperation at h ⊢
  split at h
  next op hop =>
    obtain ⟨input, hinput, h⟩ := Trace.bind_result_eq_ok.mp h
    obtain ⟨⟨⟩, hwrite, h⟩ := Trace.bind_result_eq_ok.mp h
    obtain ⟨output, houtput, -⟩ := Trace.bind_result_eq_ok.mp h
    have hmodule := outputModule?_eq (emitted_result_eq_ok.mp houtput)
    rw [hop]
    refine ⟨op, rfl, ?_⟩
    dsimp only
    rw [made_bind hinput, made_bind hwrite, made_bind houtput, made_emitted, made_emitted,
      made_writeCode, operationFiles]
    cases output with
    | none =>
        rw [outputModule?, Option.map_none, Option.map_eq_none_iff] at hmodule
        rw [hmodule]
        rfl
    | some code =>
        rw [outputModule?, Option.map_some, Option.map_eq_some_iff] at hmodule
        obtain ⟨t, ht, -⟩ := hmodule
        rw [ht]
        rfl
  next hnone => cases h

theorem made_operations (h : (generateOperations b).result = .ok ()) :
    made (generateOperations b) =
      b.operations.flatMap (operationFiles b) ++ [.index .input, .index .output] := by
  obtain ⟨r, hr, -⟩ := Trace.bind_result_eq_ok.mp h
  have heach : ∀ {names : List String} {r : List (Module × Option Module)},
      List.Forall₂ (fun n m => (generateOperation b n).result = .ok m) names r →
        names.flatMap (fun n => made (generateOperation b n)) =
          (names.filterMap b.service.operation?).flatMap (operationFiles b) := by
    intro names r hran
    induction hran with
    | nil => rfl
    | cons hn _ ih =>
        obtain ⟨op, hop, hmade⟩ := made_operation hn
        rw [List.flatMap_cons, List.filterMap_cons_some hop, List.flatMap_cons, hmade, ih]
  rw [generateOperations, made_bind hr, made_mapM hr,
    heach (mapM_eq_ok.mp ((Trace.result_mapM ..).symm.trans hr))]
  rfl

theorem made_structure {m : Module} (h : (generateStructure b n).result = .ok m) :
    made (generateStructure b n) = [typeFile b n] := by
  unfold generateStructure at h ⊢
  split at h
  next t ht =>
    obtain ⟨code, hcode, -⟩ := Trace.bind_result_eq_ok.mp h
    rw [made_bind hcode, made_bind rfl, made_emitted, made_writeCode, made_pure, typeFile]
    rfl
  next hnone => cases h

theorem made_enum {m : Module} (h : (generateEnum b n).result = .ok m) :
    made (generateEnum b n) = [typeFile b n] := by
  obtain ⟨code, hcode, -⟩ := Trace.bind_result_eq_ok.mp h
  rw [generateEnum, made_bind hcode, made_bind rfl, made_emitted, made_writeCode, made_pure,
    typeFile]
  rfl

theorem made_each {g : String → Trace Product Module} {names : List String}
    {r : List Module} (hr : (names.mapM g).result = .ok r)
    (hg : ∀ {n m}, (g n).result = .ok m → made (g n) = [typeFile b n]) :
    made (names.mapM g) = names.map (typeFile b) := by
  have hran := mapM_eq_ok.mp ((Trace.result_mapM ..).symm.trans hr)
  rw [made_mapM hr, List.map_eq_flatMap]
  refine List.flatMap_congr fun n hn => ?_
  obtain ⟨m, -, hm⟩ := exists_right_of_forall₂ hran hn
  exact hg hm

theorem made_types (h : (generateTypes b).result = .ok ()) :
    made (generateTypes b) =
      (b.usage.structures ++ b.usage.enums).map (typeFile b) ++ [.index .types] := by
  obtain ⟨structures, hstructures, h⟩ := Trace.bind_result_eq_ok.mp h
  obtain ⟨enums, henums, -⟩ := Trace.bind_result_eq_ok.mp h
  rw [generateTypes, made_bind hstructures, made_bind henums,
    made_each hstructures made_structure, made_each henums made_enum, List.map_append,
    List.append_assoc]
  rfl

theorem made_noted {warnings : List Warning} {l : List α} {g : File} {code : Code} {r : β} :
    made (noted warnings l g code r) = if l.isEmpty then [] else [g] := by
  have hwarnings : (warnings.map Product.warning).filterMap Product.file? = [] := by
    simp [Product.file?]
  rw [made, noted, List.filterMap_append, hwarnings, List.nil_append]
  split
  · rfl
  · rfl

/-- A run that came to its end made the files of the stages, one after the other. -/
theorem made_generate (h : (generate b o).result = .ok ()) :
    made (generate b o) = (stages b o).flatten := by
  rw [generate_eq] at h ⊢
  obtain ⟨⟨⟩, hfolders, h⟩ := Trace.bind_result_eq_ok.mp h
  obtain ⟨⟨⟩, hruntime, h⟩ := Trace.bind_result_eq_ok.mp h
  obtain ⟨⟨⟩, hclient, h⟩ := Trace.bind_result_eq_ok.mp h
  obtain ⟨⟨⟩, hoperations, h⟩ := Trace.bind_result_eq_ok.mp h
  obtain ⟨⟨⟩, htypes, -⟩ := Trace.bind_result_eq_ok.mp h
  rw [made_bind hfolders, made_bind hruntime, made_bind hclient, made_bind hoperations,
    made_bind htypes, made_bind rfl, made_bind rfl, made_operations hoperations,
    made_types htypes, made_noted, made_noted, stages]
  simp only [List.flatten_cons, List.append_assoc]
  rfl

/-! ## No file twice -/

theorem exists_of_mem_operationFiles (h : f ∈ operationFiles b op) :
    ∃ a, a ≠ .types ∧ f = .item a (Naming.moduleName op.name) := by
  rcases List.mem_cons.mp h with rfl | h
  · exact ⟨.input, nofun, rfl⟩
  · split at h
    next =>
      obtain rfl := List.mem_singleton.mp h
      exact ⟨.output, nofun, rfl⟩
    next => cases h

/-- Operations keep apart exactly if their modules do. -/
theorem nodup_operationFiles_iff (l : List Operation) :
    (l.flatMap (operationFiles b)).Nodup ↔
      (l.map fun op => Naming.moduleName op.name).Nodup := by
  have heach : ∀ op, (operationFiles b op).Nodup := by
    intro op
    rw [operationFiles]
    split
    next => simp
    next => exact List.nodup_singleton _
  have hpair : ∀ op op', (operationFiles b op).Disjoint (operationFiles b op') ↔
      Naming.moduleName op.name ≠ Naming.moduleName op'.name := by
    intro op op'
    constructor
    · intro hdisjoint hsame
      refine hdisjoint List.mem_cons_self ?_
      rw [hsame]
      exact List.mem_cons_self
    · intro hne f hf hf'
      obtain ⟨a, -, rfl⟩ := exists_of_mem_operationFiles hf
      obtain ⟨a', -, hitem⟩ := exists_of_mem_operationFiles hf'
      exact hne (File.item.inj hitem).2
  rw [List.nodup_flatMap, List.nodup_iff_pairwise_ne (l := l.map _), List.pairwise_map]
  constructor
  · rintro ⟨-, h⟩
    exact h.imp fun {op op'} => (hpair op op').mp
  · intro h
    exact ⟨fun op _ => heach op, h.imp fun {op op'} => (hpair op op').mpr⟩

/-- The stage at which a file is made. -/
def File.stage : File → Nat
  | runtime | client => 0
  | item .input _ | item .output _ => 1
  | index .input | index .output => 2
  | item .types _ => 3
  | index .types => 4
  | pagination => 5
  | waiters => 6
  | library | package | readme => 7

theorem stage_of_mem {i : Nat} {l : List File} (hl : (stages b o)[i]? = some l) (hf : f ∈ l) :
    f.stage = i := by
  have hitem : ∀ {m a}, a ≠ .types → (File.item a m).stage = 1 := by
    intro m a ha
    cases a with
    | types => exact absurd rfl ha
    | input => rfl
    | output => rfl
  match i with
  | 0 =>
      obtain rfl := Option.some.inj hl
      fin_cases hf <;> rfl
  | 1 =>
      obtain rfl := Option.some.inj hl
      obtain ⟨op, -, hf⟩ := List.mem_flatMap.mp hf
      obtain ⟨a, ha, rfl⟩ := exists_of_mem_operationFiles hf
      exact hitem ha
  | 2 =>
      obtain rfl := Option.some.inj hl
      fin_cases hf <;> rfl
  | 3 =>
      obtain rfl := Option.some.inj hl
      obtain ⟨n, -, rfl⟩ := List.mem_map.mp hf
      rfl
  | 4 =>
      obtain rfl := Option.some.inj hl
      fin_cases hf
      rfl
  | 5 =>
      obtain rfl := Option.some.inj hl
      obtain rfl : f = .pagination := by simpa using (List.mem_ite_nil_left.mp hf).2
      rfl
  | 6 =>
      obtain rfl := Option.some.inj hl
      obtain rfl : f = .waiters := by simpa using (List.mem_ite_nil_left.mp hf).2
      rfl
  | 7 =>
      obtain rfl := Option.some.inj hl
      fin_cases hf <;> rfl

/-- Files of different stages differ. -/
theorem nodup_stages_iff : (stages b o).flatten.Nodup ↔ ∀ l ∈ stages b o, l.Nodup := by
  rw [List.nodup_flatten, and_iff_left_iff_imp]
  intro _
  rw [List.pairwise_iff_getElem]
  intro i j hi hj hlt f hf hf'
  have hstage := stage_of_mem (List.getElem?_eq_getElem hi) hf
  have hstage' := stage_of_mem (List.getElem?_eq_getElem hj) hf'
  omega

theorem nodup_made_iff (hb : b.Ready) (hnames : b.names = TypeNames.assign b.service) :
    (stages b o).flatten.Nodup ↔
      (b.operations.map fun op => Naming.moduleName op.name).Nodup := by
  have htypes : ((b.usage.structures ++ b.usage.enums).map (typeFile b)).Nodup := by
    have hmodules := hb.nodup_typeModules hnames
    rw [List.nodup_iff_pairwise_ne, List.pairwise_map] at hmodules ⊢
    exact hmodules.imp fun {m n} hne h => hne (File.item.inj h).2
  rw [nodup_stages_iff, ← nodup_operationFiles_iff (b := b)]
  constructor
  · intro h
    exact h _ (by simp [stages])
  · intro h l hl
    simp only [stages, List.mem_cons, List.not_mem_nil, or_false] at hl
    rcases hl with rfl | rfl | rfl | rfl | rfl | rfl | rfl | rfl
    · decide
    · exact h
    · decide
    · exact htypes
    · decide
    · split <;> decide
    · split <;> decide
    · decide

theorem plain_of_mem (hb : b.Ready) (hnames : b.names = TypeNames.assign b.service)
    (h : f ∈ (stages b o).flatten) : f.Plain := by
  obtain ⟨l, hl, hf⟩ := List.mem_flatten.mp h
  obtain ⟨i, hi⟩ := List.mem_iff_getElem?.mp hl
  have hstage := stage_of_mem hi hf
  have hoperation : ∀ {a m}, .item a m ∈ b.operations.flatMap (operationFiles b) →
      (File.item a m).Plain := by
    intro a m hmem
    obtain ⟨op, -, hmem⟩ := List.mem_flatMap.mp hmem
    obtain ⟨a', -, hitem⟩ := exists_of_mem_operationFiles hmem
    obtain ⟨-, rfl⟩ := File.item.inj hitem
    exact ⟨Naming.slash_not_mem_moduleName _, Naming.moduleName_ne_mod _⟩
  cases f with
  | item a m =>
      cases a with
      | types =>
          obtain rfl : 3 = i := hstage
          obtain rfl := Option.some.inj hi
          obtain ⟨n, hn, hitem⟩ := List.mem_map.mp hf
          obtain ⟨-, rfl⟩ := File.item.inj hitem
          obtain ⟨k, hmodule⟩ :=
            Blueprint.exists_candidate_moduleName hnames (hb.mem_generatedShapes hn)
          rw [hmodule]
          exact ⟨Naming.slash_not_mem_candidate (Naming.slash_not_mem_moduleName _) k,
            Naming.candidate_ne_mod (Naming.moduleName_ne_mod _) k⟩
      | input | output =>
          obtain rfl : 1 = i := hstage
          obtain rfl := Option.some.inj hi
          exact hoperation hf
  | _ => trivial

end Crate

namespace Generator

theorem files_generate {g : Generator} {out : String} (h : (g.generate out).result = .ok ()) :
    (g.generate out).files =
      (Crate.stages g.blueprint g.options).flatten.map (Crate.File.path out) := by
  have hfile : ∀ p, Event.file? (Crate.Product.event out p) =
      p.file?.map (Crate.File.path out) := by
    intro p
    cases p with
    | folder f => rfl
    | file f c => rfl
    | warning w => rfl
  rw [← Crate.made_generate h, Crate.made, List.map_filterMap, Trace.files, generate,
    Trace.mapEvents, List.filterMap_map]
  exact List.filterMap_congr fun p _ => hfile p

/-- A run in which no two operations make the same module writes every file
once, and any other run loses one. -/
theorem nodup_files_iff {src : Sources} {s : Service} {o : Options} {g : Generator}
    {out : String} (h : src.toService.result = .ok s) (hg : Generator.of s o = .ok g)
    (hrun : (g.generate out).result = .ok ()) :
    (g.generate out).files.Nodup ↔
      (g.blueprint.operations.map fun op => Naming.moduleName op.name).Nodup := by
  obtain ⟨hb, -⟩ := of_eq_ok hg
  obtain ⟨hready, -⟩ := Blueprint.ready_of_of h hb
  have hnames := Blueprint.names_of hb
  rw [files_generate hrun, ← Crate.nodup_made_iff hready hnames]
  constructor
  · exact List.Nodup.of_map _
  · intro hmade
    refine hmade.map_on fun f hf f' hf' hpath => ?_
    exact Crate.File.path_inj (Crate.plain_of_mem hready hnames hf)
      (Crate.plain_of_mem hready hnames hf') hpath

end Generator

/-! ## An example

Two operations of a grove that take and give nothing. A file is made for each of
them, unless their names differ in their case alone. -/

/-- The definition of a grove with operations of the given names. -/
def Definition.grove (names : List String) : Definition where
  version := none
  metadata :=
    { apiVersion := "1", endpointPrefix := "grove",
      protocol := some "query", protocols := [], serviceId := none,
      serviceAbbreviation := none, serviceFullName := none, jsonVersion := none,
      targetPrefix := none, xmlNamespace := none, signingName := none,
      signatureVersion := none }
  operations := names.map fun name =>
    (name,
      { name := none, http := { method := "POST", requestUri := "/" },
        input := none, output := none,
        errors := [], documentation := none, deprecated := false })
  shapes := []
  documentation := none

/-- The documents of a grove. -/
def Sources.grove (names : List String) : Sources where
  definition := Definition.grove names
  givenName := none
  paginators := none
  waiters := none

namespace Generator

theorem generate_grove (names operations modules : List String)
    (husage : ((Sources.grove names).toService.result.map fun s => Usage.analyze s []) =
      .ok (.ok ⟨operations, [], [], []⟩))
    (hrun : ((Sources.grove names).toService.result.map fun s =>
      (Crate.generate ⟨s, ⟨operations, [], [], []⟩, TypeNames.assign s, s.boxedMembers⟩
        {}).result) = .ok (.ok ()))
    (hmodules : ((Sources.grove names).toService.result.map fun s =>
      (operations.filterMap s.operation?).map fun op => Naming.moduleName op.name) =
        .ok modules) :
    ∃ s g, (Sources.grove names).toService.result = .ok s ∧ Generator.of s {} = .ok g ∧
      (g.generate "out").result = .ok () ∧
        g.blueprint.operations.map (fun op => Naming.moduleName op.name) = modules := by
  obtain ⟨s, hs, husage⟩ := map_eq_ok.mp husage
  rw [hs] at hrun hmodules
  have hg : Generator.of s {} = .ok ⟨⟨s, ⟨operations, [], [], []⟩, TypeNames.assign s,
      s.boxedMembers⟩, {}⟩ :=
    bind_eq_ok.mpr ⟨_, bind_eq_ok.mpr ⟨_, husage, rfl⟩, rfl⟩
  exact ⟨s, _, hs, hg, Except.ok.inj hrun, Except.ok.inj hmodules⟩

/-- Two modules, each with a file. -/
theorem files_kept : ∃ s g,
    (Sources.grove ["GetTree", "ListTrees"]).toService.result = .ok s ∧
      Generator.of s {} = .ok g ∧ (g.generate "out").result = .ok () ∧
        (g.generate "out").files.Nodup := by
  obtain ⟨s, g, hs, hg, hrun, hmodules⟩ :=
    generate_grove ["GetTree", "ListTrees"] ["GetTree", "ListTrees"]
      ["get_tree", "list_trees"] (by cbv) (by decide) (by decide)
  refine ⟨s, g, hs, hg, hrun, (nodup_files_iff hs hg hrun).mpr ?_⟩
  rw [hmodules]
  decide

/-- One module, of which the second file is written over the first. -/
theorem files_lost : ∃ s g,
    (Sources.grove ["GetHTTPTree", "GetHttpTree"]).toService.result = .ok s ∧
      Generator.of s {} = .ok g ∧ (g.generate "out").result = .ok () ∧
        ¬ (g.generate "out").files.Nodup := by
  obtain ⟨s, g, hs, hg, hrun, hmodules⟩ :=
    generate_grove ["GetHTTPTree", "GetHttpTree"] ["GetHTTPTree", "GetHttpTree"]
      ["get_http_tree", "get_http_tree"] (by cbv) (by decide) (by decide)
  obtain ⟨hb, -⟩ := of_eq_ok hg
  obtain ⟨hready, -⟩ := Blueprint.ready_of_of hs hb
  refine ⟨s, g, hs, hg, hrun, fun hfiles => ?_⟩
  rw [files_generate hrun] at hfiles
  have hkept := (Crate.nodup_made_iff hready (Blueprint.names_of hb)).mp (hfiles.of_map _)
  rw [hmodules] at hkept
  exact absurd hkept (by decide)

end Generator

end Clientwright
