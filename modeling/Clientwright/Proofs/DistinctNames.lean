import Clientwright.Proofs.DistinctFiles
import Clientwright.Proofs.NameSearches

/-!
# Names that keep apart

Every structure and every enumerated text of a service is given the name of a type
and the name of a module. Shapes may want the same name, a name that every module
knows with another meaning, or a name that is a keyword; and the number that one
shape takes to get out of the way may be the end of a name that another one wants
for itself.

A wanted name is put right before it is made unique, so the question is whether
the numbers bring anything back. They do not. None of the names to be avoided ends
in a digit, and the search for a free name keeps away from all that were given
before, whatever they are. `assign_apart` says so for any service, be it one that
the documents could describe or not.
-/

namespace Clientwright.TypeNames

variable {s : Service} {n : String} {t : TypeNames}

/-! ## Names of types -/

/-- What is added to a name that is known already makes none of the others. -/
theorem wantedTypeName_not_mem (shape : String) : wantedTypeName shape ∉ preludeNames := by
  have hlengthened : ∀ name ∈ preludeNames, name ++ "Value" ∉ preludeNames := by decide
  dsimp only [wantedTypeName]
  split
  next h => exact hlengthened _ (List.contains_iff_mem.mp h)
  next h => exact fun hmem => h (List.contains_iff_mem.mpr hmem)

/-- Nor does a number, for none of them ends in a digit. -/
theorem typeName_not_mem (h : (n, t) ∈ assign s) : t.typeName ∉ preludeNames := by
  obtain ⟨⟨k, hk⟩, -⟩ := exists_candidates h
  rw [hk]
  exact Naming.candidate_not_mem (by decide) (wantedTypeName_not_mem n) k

/-! ## Names of modules -/

theorem moduleName_ne_mod (h : (n, t) ∈ assign s) : t.moduleName ≠ "mod" := by
  obtain ⟨-, k, hk⟩ := exists_candidates h
  rw [hk]
  exact Naming.candidate_ne_mod (Naming.moduleName_ne_mod n) k

/-! ## All names -/

theorem exists_mem_assign_iff (s : Service) (n : String) :
    (∃ t, (n, t) ∈ assign s) ↔
      ∃ shape, s.shape? n = some shape ∧
        (shape.isStructure = true ∨ shape.isEnum = true) := by
  have hkeys : (∃ t, (n, t) ∈ assign s) ↔ n ∈ generatedShapes s := by
    rw [← keys_assign, List.mem_map]
    exact ⟨fun ⟨t, h⟩ => ⟨(n, t), h, rfl⟩, fun ⟨⟨_, t⟩, h, heq⟩ => ⟨t, heq ▸ h⟩⟩
  rw [hkeys]
  constructor
  · intro h
    obtain ⟨⟨_, shape⟩, hmem, rfl⟩ := List.mem_map.mp h
    obtain ⟨hentry, hgenerated⟩ := List.mem_filter.mp hmem
    exact ⟨shape, Table.get?_eq_some_iff.mpr hentry, Bool.or_eq_true _ _ ▸ hgenerated⟩
  · rintro ⟨shape, hshape, hgenerated⟩
    exact (mem_generatedShapes_iff hshape).mpr (Bool.or_eq_true _ _ ▸ hgenerated)

/-- The names of the generated types keep apart from each other and from all that has
a meaning of its own. -/
structure Apart (s : Service) : Prop where
  /-- the structures and the enumerated texts are named, and nothing else -/
  named : ∀ n, (∃ t, (n, t) ∈ assign s) ↔
    ∃ shape, s.shape? n = some shape ∧ (shape.isStructure = true ∨ shape.isEnum = true)
  /-- each of them once -/
  once : ((assign s).map (·.1)).Nodup
  types : ((assign s).map (·.2.typeName)).Nodup
  modules : ((assign s).map (·.2.moduleName)).Nodup
  typesFree : ∀ n t, (n, t) ∈ assign s → t.typeName ∉ preludeNames
  modulesFree : ∀ n t, (n, t) ∈ assign s → t.moduleName ≠ "mod"
  /-- the names are what searching without a bound comes to, from shape to shape -/
  searchedTypes : Naming.Searched [] ((generatedShapes s).map wantedTypeName)
    ((assign s).map (·.2.typeName))
  searchedModules : Naming.Searched [] ((generatedShapes s).map Naming.moduleName)
    ((assign s).map (·.2.moduleName))
  /-- and there is no search that does not end, whatever is taken and wanted -/
  ends : ∀ used base, Acc (fun next n => Naming.Turn used base n next) 0

theorem assign_apart (s : Service) : Apart s where
  named := exists_mem_assign_iff s
  once := keys_assign s ▸ nodup_generatedShapes s
  types := typeNames_assign s ▸ Naming.nodup_uniqueAll ..
  modules := modules_assign s ▸ Naming.nodup_uniqueAll ..
  typesFree _ _ := typeName_not_mem
  modulesFree _ _ := moduleName_ne_mod
  searchedTypes := typeNames_assign s ▸ Naming.searched_uniqueAll ..
  searchedModules := modules_assign s ▸ Naming.searched_uniqueAll ..
  ends used base := Naming.acc_turn used base 0

/-- A name with a number can be what a later shape wants; then the later one gets
the next number. -/
example : Naming.uniqueAll [] ["dynamo_db", "dynamo_db", "dynamo_db2"] =
    ["dynamo_db", "dynamo_db2", "dynamo_db22"] := by decide

end Clientwright.TypeNames
