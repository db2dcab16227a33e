import Clientwright.Proofs.Identifiers

/-!
# Modules that can be declared

The index of an area has a line for each of its modules, and what stands in such a line
has to be an identifier. Fields and types get a letter in front where their name does
not begin with one. Modules do not: the name goes into lower case, a keyword gets an
underscore behind it, and that is all.

So it depends on the names, and on nothing else about them than their first letter or
digit. `modules_declarable_iff` says it for every index of a crate that was generated:
what it declares is never a keyword, and all of it is made of identifiers exactly if
every operation or shape behind it is named with a letter first. The number that a
module of a type may get changes nothing about this, for it comes at the end.
-/

namespace Clientwright

open Outcome Text

variable {name : String}

/-! ## One module -/

namespace Naming

/-- Is there a letter or digit in the name, and the first one a letter? -/
def beginsWithLetter (name : String) : Bool :=
  (name.toList.find? Char.isAlphanum).any Char.isAlpha

/-- Words in lower case keep a letter or a digit in front. -/
theorem any_head?_snake (h : IsAscii name.toList) :
    (snake name).toList.head?.any isWordStart = beginsWithLetter name := by
  rw [head?_snake h, beginsWithLetter]
  cases hfind : name.toList.find? Char.isAlphanum with
  | none => rfl
  | some c =>
      have hstart : c.isAlphanum = true → isWordStart c.toLower = c.isAlpha :=
        ascii_cases (h c (List.mem_of_find?_eq_some hfind)) (by decide)
      exact hstart (List.find?_some hfind)

theorem moduleName_eq (name : String) : moduleName name =
    if keywords.contains (snake name) || reserved.contains (snake name) then snake name ++ "_"
    else snake name := rfl

/-- What is escaped keeps its start and is no keyword any more. -/
theorem escaped_keyword : ∀ word ∈ keywords ++ reserved,
    (word ++ "_").toList.head? = word.toList.head? ∧ word ++ "_" ∉ languageKeywords := by decide

theorem moduleName_free (name : String) : moduleName name ∉ languageKeywords := by
  rw [moduleName_eq]
  simp only [Bool.or_eq_true, List.contains_iff_mem]
  split
  next hescaped => exact (escaped_keyword _ (List.mem_append.mpr hescaped)).2
  next hplain => exact fun hmem => hplain (mem_tables _ hmem).symm

theorem head?_moduleName (name : String) :
    (moduleName name).toList.head? = (snake name).toList.head? := by
  rw [moduleName_eq]
  simp only [Bool.or_eq_true, List.contains_iff_mem]
  split
  next hescaped => exact (escaped_keyword _ (List.mem_append.mpr hescaped)).1
  next => rfl

/-- A number at the end is no letter at the start. -/
theorem any_head?_candidate (base : String) (k : Nat) :
    (candidate base k).toList.head?.any isWordStart = base.toList.head?.any isWordStart := by
  cases k with
  | zero => rfl
  | succ k =>
      rw [candidate, String.toList_append]
      cases base.toList with
      | cons c rest => rw [List.cons_append, List.head?_cons, List.head?_cons]
      | nil =>
          rw [List.nil_append, List.head?_nil, Option.any_none, Option.any_eq_false]
          intro c hc
          have hdigit := isDigit_of_mem_toString (List.mem_of_head? hc)
          have hascii : c.toNat < 0x80 :=
            lt_of_isSnake (by rw [isSnake, hdigit, Bool.or_true, Bool.true_or])
          have hstart : c.isDigit = true → isWordStart c = false :=
            ascii_cases hascii (by decide)
          exact hstart hdigit

theorem identifier_moduleName (h : IsAscii name.toList) (hletter : beginsWithLetter name = true) :
    IsIdentifier (moduleName name) := by
  have hword := isWord_snake h (any_head?_snake h ▸ hletter)
  refine ⟨?_, moduleName_free name⟩
  rcases moduleName_cases name with ⟨hplain, -⟩ | hescaped
  · rwa [hplain]
  · rw [hescaped, String.toList_append]
    exact isWord_append hword (by decide)

/-- The module of a name is an identifier if the name begins with a letter, and it is none
otherwise. -/
theorem identifier_candidate_moduleName_iff (h : IsAscii name.toList) (k : Nat) :
    IsIdentifier (candidate (moduleName name) k) ↔ beginsWithLetter name = true := by
  constructor
  · intro hidentifier
    rw [← any_head?_snake h, ← head?_moduleName, ← any_head?_candidate _ k]
    exact (isWord_iff.mp hidentifier.word).1
  · exact fun hletter => (identifier_moduleName h hletter).candidate k

end Naming

/-! ## The modules of an index -/

namespace Crate

variable {b : Blueprint} {a : Area} {n m : String}

/-- The names that the modules of an area are made of. -/
def namesakes (b : Blueprint) : Area → List String
  | .input => b.operations.map (·.name)
  | .output => (b.operations.filter fun op => (b.service.outputOf? op).isSome).map (·.name)
  | .types => b.usage.structures ++ b.usage.enums

/-- The module that is made of one of them. -/
def stem (b : Blueprint) : Area → String → String
  | .input | .output => Naming.moduleName
  | .types => b.moduleName

/-- An index declares the modules of its names. -/
theorem declares_index_iff : (index b a).Declares m ↔ ∃ n ∈ namesakes b a, stem b a n = m := by
  rw [index, declares_moduleFile]
  cases a with
  | input => simp [modules, namesakes, stem, inputModule]
  | output =>
      have hmodule : ∀ op x, outputModule? b op = some x ↔
          (b.service.outputOf? op).isSome = true ∧ outputModule op = x := by
        intro op x
        rw [outputModule?, Option.map_eq_some_iff, Option.isSome_iff_exists, exists_and_right]
      simp only [modules, namesakes, stem, List.mem_filterMap, List.mem_map, List.mem_filter,
        hmodule]
      constructor
      · rintro ⟨x, ⟨op, hop, hsome, rfl⟩, rfl⟩
        exact ⟨op.name, ⟨op, ⟨hop, hsome⟩, rfl⟩, outputModule_name.symm⟩
      · rintro ⟨_, ⟨op, ⟨hop, hsome⟩, rfl⟩, rfl⟩
        exact ⟨outputModule op, ⟨op, hop, hsome, rfl⟩, outputModule_name⟩
  | types =>
      simp only [modules, namesakes, stem, List.mem_mergeSort, List.mem_map,
        exists_exists_and_eq_and, typeModule_name]

/-- A module is named as it is wanted, or it has a number behind that. -/
theorem exists_candidate_stem (hb : b.Ready) (hnames : b.names = TypeNames.assign b.service)
    (hn : n ∈ namesakes b a) :
    ∃ k, stem b a n = Naming.candidate (Naming.moduleName n) k := by
  cases a with
  | input | output => exact ⟨0, rfl⟩
  | types =>
      exact Blueprint.exists_candidate_moduleName hnames (hb.mem_generatedShapes hn)

theorem isAscii_namesake (hb : b.Ready)
    (hshapes : ∀ n ∈ b.service.shapes.keys, IsAscii n.toList)
    (hoperations : ∀ op ∈ b.service.operations.values, IsAscii op.name.toList)
    (hn : n ∈ namesakes b a) : IsAscii n.toList := by
  have hoperation : ∀ op ∈ b.operations, IsAscii op.name.toList := by
    intro op hop
    obtain ⟨key, -, hkey⟩ := Blueprint.mem_operations_iff.mp hop
    exact hoperations op (List.mem_map_of_mem (f := (·.2)) (Table.get?_eq_some_iff.mp hkey))
  cases a with
  | input =>
      obtain ⟨op, hop, rfl⟩ := List.mem_map.mp hn
      exact hoperation op hop
  | output =>
      obtain ⟨op, hop, rfl⟩ := List.mem_map.mp hn
      exact hoperation op (List.mem_of_mem_filter hop)
  | types => exact hshapes n ((List.filter_sublist.map _).subset (hb.mem_generatedShapes hn))

end Crate

namespace Generator

/-- Every index of a crate declares modules that are no keywords, and it declares nothing but
identifiers exactly if all the names behind its modules begin with a letter. -/
theorem modules_declarable_iff {src : Sources} {s : Service} {o : Options} {g : Generator}
    {out : String} (h : src.toService.result = .ok s) (hg : Generator.of s o = .ok g)
    (hrun : (g.generate out).result = .ok ())
    (hshapes : ∀ n ∈ s.shapes.keys, IsAscii n.toList)
    (hoperations : ∀ op ∈ s.operations.values, IsAscii op.name.toList) :
    ∃ products : List Crate.Product,
      (g.generate out).events = products.map (Crate.Product.event out) ∧
      ∀ a, ∃ index, (∀ c, .file (.index a) c ∈ products ↔ c = .code index) ∧
        (∀ m, index.Declares m → m ∉ languageKeywords) ∧
        ((∀ m, index.Declares m → IsIdentifier m) ↔
          ∀ n ∈ Crate.namesakes g.blueprint a, Naming.beginsWithLetter n = true) := by
  obtain ⟨hb, -⟩ := of_eq_ok hg
  obtain ⟨hready, rfl⟩ := Blueprint.ready_of_of h hb
  have hnames := Blueprint.names_of hb
  obtain ⟨-, hwritten⟩ := Crate.generate_ok (b := g.blueprint) (o := g.options) hrun
  refine ⟨_, rfl, fun a => ⟨Crate.index g.blueprint a,
    fun c => (hwritten _ _).trans Crate.written_index_iff, ?_, ?_⟩⟩
  · intro m hm
    obtain ⟨n, hn, rfl⟩ := Crate.declares_index_iff.mp hm
    obtain ⟨k, hk⟩ := Crate.exists_candidate_stem hready hnames hn
    rw [hk]
    exact candidate_free (Naming.moduleName_free n) k
  · have hstem : ∀ n ∈ Crate.namesakes g.blueprint a,
        (IsIdentifier (Crate.stem g.blueprint a n) ↔ Naming.beginsWithLetter n = true) := by
      intro n hn
      obtain ⟨k, hk⟩ := Crate.exists_candidate_stem hready hnames hn
      rw [hk]
      exact Naming.identifier_candidate_moduleName_iff
        (Crate.isAscii_namesake hready hshapes hoperations hn) k
    simp only [Crate.declares_index_iff, forall_exists_index, and_imp, forall_apply_eq_imp_iff₂]
    exact forall₂_congr hstem

/-- The names in the orchard begin with letters, those of operations and those of types. -/
theorem orchard_declarable : ∃ s g, Sources.orchard.toService.result = .ok s ∧
    Generator.of s { operations := ["GetTree"] } = .ok g ∧ (g.generate "out").result = .ok () ∧
      (∀ n ∈ s.shapes.keys, IsAscii n.toList) ∧
      (∀ op ∈ s.operations.values, IsAscii op.name.toList) ∧
      ∃ products : List Crate.Product,
        (g.generate "out").events = products.map (Crate.Product.event "out") ∧
        ∀ a, ∃ index, .file (.index a) (.code index) ∈ products ∧
          ∀ m, index.Declares m → IsIdentifier m := by
  obtain ⟨s, hs, hg, hrun⟩ := generate_ofOrchard
  have hfacts : (Sources.orchard.toService.result.map fun s =>
      (decide (∀ n ∈ s.shapes.keys, IsAscii n.toList),
        decide (∀ op ∈ s.operations.values, IsAscii op.name.toList),
        Crate.namesakes (ofOrchard s).blueprint .input,
        Crate.namesakes (ofOrchard s).blueprint .output)) =
      .ok (true, true, ["GetTree"], ["GetTree"]) := by
    rfl
  rw [hs] at hfacts
  obtain ⟨hshapes, hfacts⟩ := Prod.mk.inj (Except.ok.inj hfacts)
  obtain ⟨hoperations, hfacts⟩ := Prod.mk.inj hfacts
  obtain ⟨hinput, houtput⟩ := Prod.mk.inj hfacts
  have hshapes := of_decide_eq_true hshapes
  have hoperations := of_decide_eq_true hoperations
  obtain ⟨products, hproducts, hindex⟩ := modules_declarable_iff hs hg hrun hshapes hoperations
  refine ⟨s, _, hs, hg, hrun, hshapes, hoperations, products, hproducts, fun a => ?_⟩
  obtain ⟨index, hfile, -, hiff⟩ := hindex a
  refine ⟨index, (hfile _).mpr rfl, hiff.mpr ?_⟩
  have hoperation : ∀ n ∈ ["GetTree"], Naming.beginsWithLetter n = true := by decide
  have htype : ∀ n ∈ ["Tree", "Kind"], Naming.beginsWithLetter n = true := by decide
  cases a with
  | input => rw [hinput]; exact hoperation
  | output => rw [houtput]; exact hoperation
  | types => exact htype

/-- An operation that begins with a digit gets a module that begins with it. -/
theorem grove_undeclarable : ∃ s g,
    (Sources.grove ["GetTree", "3DTrees"]).toService.result = .ok s ∧
      Generator.of s {} = .ok g ∧ (g.generate "out").result = .ok () ∧
      (∀ n ∈ s.shapes.keys, IsAscii n.toList) ∧
      (∀ op ∈ s.operations.values, IsAscii op.name.toList) ∧
      ∃ products : List Crate.Product,
        (g.generate "out").events = products.map (Crate.Product.event "out") ∧
        ∃ index, .file (.index .input) (.code index) ∈ products ∧
          index.Declares "3_d_trees" ∧ ¬ IsIdentifier "3_d_trees" := by
  obtain ⟨s, g, hs, hg, hrun, hmodules⟩ :=
    generate_grove ["GetTree", "3DTrees"] ["3DTrees", "GetTree"] ["3_d_trees", "get_tree"]
      (by cbv) (by decide) (by decide)
  have hascii : ((Sources.grove ["GetTree", "3DTrees"]).toService.result.map fun s =>
      (decide (∀ n ∈ s.shapes.keys, IsAscii n.toList),
        decide (∀ op ∈ s.operations.values, IsAscii op.name.toList))) = .ok (true, true) := by
    rfl
  rw [hs] at hascii
  obtain ⟨hshapes, hoperations⟩ := Prod.mk.inj (Except.ok.inj hascii)
  have hshapes := of_decide_eq_true hshapes
  have hoperations := of_decide_eq_true hoperations
  obtain ⟨-, hwritten⟩ := Crate.generate_ok (b := g.blueprint) (o := g.options) hrun
  refine ⟨s, g, hs, hg, hrun, hshapes, hoperations, _, rfl, Crate.index g.blueprint .input,
    (hwritten _ _).mpr (.index .input), Crate.declares_index_iff.mpr ?_, by decide⟩
  have hmodule : "3_d_trees" ∈ g.blueprint.operations.map fun op => Naming.moduleName op.name :=
    hmodules ▸ List.mem_cons_self
  obtain ⟨op, hop, hname⟩ := List.mem_map.mp hmodule
  exact ⟨op.name, List.mem_map_of_mem hop, hname⟩

end Generator

end Clientwright
