import Clientwright.Proofs.ClientMethods
import Clientwright.Proofs.OutputTypes
import Clientwright.Proofs.WrittenFiles

/-!
# Names in a structure

Every structure of a crate is made of the members of a shape, one field and one function that sets
it for each, and both are named by the member alone. What is found here is when two of them are the
same. A field is an identifier, so words that give way to others can meet them; the function that
sets it begins like all of its kind and ends with the words as they are, so there it takes the same
words.
-/

namespace Clientwright

open Outcome

variable {b : Blueprint} {o : Options} {op : Operation} {t : StructureShape} {f : Crate.File}
  {code : Code} {type : String} {members : List Member} {fields : List Crate.Field}

/-! ## Fields in code -/

namespace Crate

/-- The type has these fields in the code, and functions that set them. -/
structure Fielded (code : Code) (type : String) (fields : List Field) : Prop where
  declared : code.bodyOf? ("pub struct " ++ type ++ " \x7b") =
    some (.all (fields.map Field.declaration))
  implemented : ∃ methods, code.bodyOf? ("impl " ++ type ++ " \x7b") =
    some (implemented type fields methods)

theorem fielded_structCode (type : String) (fields : List Field) (methods : Option Code) :
    Fielded (structCode type fields methods) type fields where
  declared := by
    rw [structCode, Code.bodyOf?_pass (List.forall_mem_nil _)]
    exact Code.bodyOf?_braces (opening_text _ _)
  implemented := ⟨methods, bodyOf?_structCode⟩

/-- The code has the blocks of a structure and no others. -/
def HasStructure (code : Code) (type : String) (fields : List Field) : Prop :=
  ∃ methods, code.blocks = (structCode type fields methods).blocks

theorem hasStructure_all (pieces : List Code) {methods : Option Code}
    (h : ∀ p ∈ pieces, p.blocks = []) :
    HasStructure (.all (pieces ++ [structCode type fields methods])) type fields := by
  refine ⟨methods, ?_⟩
  rw [Code.blocks_all, List.flatMap_append, List.flatMap_eq_nil_iff.mpr h, List.nil_append,
    List.flatMap_singleton]

theorem HasStructure.fielded (h : HasStructure code type fields) : Fielded code type fields := by
  obtain ⟨methods, hblocks⟩ := h
  obtain ⟨hdeclared, himplemented⟩ := fielded_structCode type fields methods
  rw [Code.bodyOf?, ← hblocks] at hdeclared
  simp only [Code.bodyOf?, ← hblocks] at himplemented
  exact ⟨hdeclared, himplemented⟩

/-- The fields are named by the members. -/
structure NamedBy (members : List Member) (fields : List Field) : Prop where
  idents : fields.map (·.ident) = members.map fun m => Naming.fieldIdent m.name
  setters : fields.map (·.setter) = members.map fun m => "with_" ++ Naming.snake m.name

theorem names_ofMember {m : Member} {f : Field} (h : Field.ofMember b t m = .ok f) :
    f.ident = Naming.fieldIdent m.name ∧ f.setter = "with_" ++ Naming.snake m.name := by
  obtain ⟨valueType, -, h⟩ := bind_eq_ok.mp h
  obtain rfl := pure_eq_ok.mp h
  dsimp only
  exact ⟨rfl, rfl⟩

theorem namedBy_of_fieldsOf (h : fieldsOf b t = .ok fields) : NamedBy t.members fields := by
  have hfields := (mapM_eq_ok.mp h).flip
  constructor
  · rw [← List.forall₂_eq_eq_eq, List.forall₂_map_left_iff, List.forall₂_map_right_iff]
    exact hfields.imp fun f m hf => (names_ofMember hf).1
  · rw [← List.forall₂_eq_eq_eq, List.forall₂_map_left_iff, List.forall₂_map_right_iff]
    exact hfields.imp fun f m hf => (names_ofMember hf).2

/-- The words of no two members meet. -/
def MembersApart (members : List Member) : Prop :=
  members.Pairwise fun m n => ¬ Naming.Meet (Naming.snake m.name) (Naming.snake n.name)

instance (members : List Member) : Decidable (MembersApart members) := by
  unfold MembersApart
  infer_instance

theorem NamedBy.nodup_idents_iff (h : NamedBy members fields) :
    (fields.map (·.ident)).Nodup ↔ MembersApart members := by
  rw [h.idents, List.Nodup, List.pairwise_map, MembersApart]
  simp only [ne_eq, Naming.fieldIdent_eq_iff]

theorem NamedBy.nodup_setters_iff (h : NamedBy members fields) : (fields.map (·.setter)).Nodup ↔
    members.Pairwise fun m n => Naming.snake m.name ≠ Naming.snake n.name := by
  rw [h.setters, List.Nodup, List.pairwise_map]
  simp only [ne_eq, String.append_right_inj]

/-! ## Structures of a crate -/

theorem namedBy_of_inputFields (h : inputFields b op = .ok fields) :
    NamedBy ((b.service.inputOf? op).elim [] (·.members)) fields := by
  rw [inputFields] at h
  split at h
  next t ht =>
    rw [ht]
    exact namedBy_of_fieldsOf h
  next hnone =>
    obtain rfl := Except.ok.inj h
    rw [hnone]
    exact ⟨rfl, rfl⟩

theorem hasStructure_inputFile (h : inputFile b op = .ok code) :
    ∃ fields, inputFields b op = .ok fields ∧ HasStructure code (inputType op) fields := by
  rw [inputFile_eq] at h
  obtain ⟨request, -, h⟩ := bind_eq_ok.mp h
  obtain ⟨fields, hfields, h⟩ := bind_eq_ok.mp h
  obtain rfl := pure_eq_ok.mp h
  refine ⟨fields, hfields, ?_⟩
  exact hasStructure_all
    [usingRuntime, .text ("/// Input of the `" ++ op.name ++ "` operation")]
    (by simp [usingRuntime])

theorem hasStructure_outputFile? (h : outputFile? b op = .ok (some code)) :
    ∃ t fields, b.service.outputOf? op = some t ∧ fieldsOf b t = .ok fields ∧
      HasStructure code (outputType op) fields := by
  rw [outputFile?] at h
  split at h
  next t ht =>
    obtain ⟨method, -, h⟩ := bind_eq_ok.mp h
    obtain ⟨fields, hfields, h⟩ := bind_eq_ok.mp h
    obtain rfl := Option.some.inj (pure_eq_ok.mp h)
    refine ⟨t, fields, ht, hfields, ?_⟩
    exact hasStructure_all
      [usingRuntime, .text ("/// Output of the `" ++ op.name ++ "` operation")]
      (by simp [usingRuntime])
  next => cases pure_eq_ok.mp h

theorem hasStructure_structureFile (h : structureFile b t = .ok code) :
    ∃ fields, fieldsOf b t = .ok fields ∧ HasStructure code (b.typeName t.name) fields := by
  rw [structureFile_eq] at h
  obtain ⟨written, -, h⟩ := bind_eq_ok.mp h
  obtain ⟨read, -, h⟩ := bind_eq_ok.mp h
  obtain ⟨fields, hfields, h⟩ := bind_eq_ok.mp h
  obtain rfl := pure_eq_ok.mp h
  refine ⟨fields, hfields, ?_⟩
  exact hasStructure_all
    [usingRuntime, documented t.documentation,
      .when t.union (.when (isDocumented t.documentation) (.text "///") ++
        .text "/// Exactly one member is expected to be set."),
      .when t.deprecated (.text "#[deprecated]")]
    (by simp [usingRuntime])

/-- The members that a structure of a crate is made of, and the file that it is in. -/
inductive MadeOf (b : Blueprint) : File → Code → String → List Member → Prop where
  | input {op : Operation} {code : Code} (hop : op ∈ b.operations)
      (h : inputFile b op = .ok code) :
      MadeOf b (.item .input (Naming.moduleName op.name)) code (inputType op)
        ((b.service.inputOf? op).elim [] (·.members))
  | output {op : Operation} {t : StructureShape} {code : Code} (hop : op ∈ b.operations)
      (ht : b.service.outputOf? op = some t) (h : outputFile? b op = .ok (some code)) :
      MadeOf b (.item .output (Naming.moduleName op.name)) code (outputType op) t.members
  | type {n : String} {t : StructureShape} {code : Code} (hn : n ∈ b.usage.structures)
      (ht : b.service.structure? n = some t) (h : structureFile b t = .ok code) :
      MadeOf b (.item .types (b.moduleName n)) code (b.typeName t.name) t.members

theorem MadeOf.written (h : MadeOf b f code type members) : Written b o f (.code code) := by
  cases h with
  | input hop h => exact .operation hop (.input h)
  | output hop ht h => exact .operation hop (.output h)
  | type hn ht h => exact .type (.ofStructure hn ht h)

/-- The members are those of a structure of the service, or there are none. -/
theorem MadeOf.members_eq (h : MadeOf b f code type members) :
    members = [] ∨ ∃ n t, b.service.structure? n = some t ∧ members = t.members := by
  cases h with
  | @input op code hop h =>
      cases ht : b.service.inputOf? op with
      | none => exact .inl rfl
      | some t =>
          obtain ⟨n, -, hn⟩ := Option.bind_eq_some_iff.mp ht
          exact .inr ⟨n, t, hn, rfl⟩
  | @output op t code hop ht h =>
      obtain ⟨n, -, hn⟩ := Option.bind_eq_some_iff.mp ht
      exact .inr ⟨n, t, hn, rfl⟩
  | type hn ht h => exact .inr ⟨_, _, ht, rfl⟩

/-- Each structure of a crate has its fields in its file, and they are named by its members. -/
theorem MadeOf.fielded (h : MadeOf b f code type members) :
    ∃ fields, Fielded code type fields ∧ NamedBy members fields := by
  cases h with
  | input hop h =>
      obtain ⟨fields, hfields, hcode⟩ := hasStructure_inputFile h
      exact ⟨fields, hcode.fielded, namedBy_of_inputFields hfields⟩
  | output hop ht h =>
      obtain ⟨t', fields, ht', hfields, hcode⟩ := hasStructure_outputFile? h
      obtain rfl := Option.some.inj (ht.symm.trans ht')
      exact ⟨fields, hcode.fielded, namedBy_of_fieldsOf hfields⟩
  | type hn ht h =>
      obtain ⟨fields, hfields, hcode⟩ := hasStructure_structureFile h
      exact ⟨fields, hcode.fielded, namedBy_of_fieldsOf hfields⟩

/-- The fields and the functions that set them have different names exactly if the members have
words that do not meet, and different words. -/
theorem MadeOf.apart_iff (h : MadeOf b f code type members) :
    ∃ fields, Fielded code type fields ∧ NamedBy members fields ∧
      ((fields.map (·.ident)).Nodup ↔ MembersApart members) ∧
      ((fields.map (·.setter)).Nodup ↔ members.Pairwise fun m n =>
        Naming.snake m.name ≠ Naming.snake n.name) := by
  obtain ⟨fields, hfielded, hnamed⟩ := h.fielded
  exact ⟨fields, hfielded, hnamed, hnamed.nodup_idents_iff, hnamed.nodup_setters_iff⟩

end Crate

end Clientwright
