import Clientwright.Crate.Enums
import Clientwright.Crate.Structures
import Clientwright.Proofs.Requests
import Clientwright.Proofs.Responses

/-!
# Files that hold one item

An input, an output and a structure are the same kind of item: fields with types,
a setter for each, and methods that convert. The types are the second place
where generated items are mentioned, after the reading of values, and a type
mentions exactly what its value does.

An enumerated text mentions nothing but itself. It has code if there is a scalar
of its name, which is all that is asked here.

What a type implements and what its functions do is looked up in the blocks of its
file, of which those that are in no other block are listed here.
-/

namespace Clientwright

open Outcome Service

variable {b : Blueprint} {P : Area → String → Prop} {v : ValueShape} {m : Member}
  {t : StructureShape} {o : Operation} {code : Code}

/-! ## Blocks -/

namespace Code

/-- The blocks of the code that are in no other block, as their heads and bodies. -/
def blocks : Code → List (Expr × Code)
  | block head _ body _ => [(head, body)]
  | seq a b => a.blocks ++ b.blocks
  | empty | line _ | bind _ _ | branch _ _ _ => []

variable {x : Expr × Code}

theorem blocks_all (pieces : List Code) : (all pieces).blocks = pieces.flatMap blocks := by
  induction pieces with
  | nil => rfl
  | cons c pieces ih => exact congrArg (c.blocks ++ ·) ih

theorem mem_blocks_all {pieces : List Code} :
    x ∈ (all pieces).blocks ↔ ∃ c ∈ pieces, x ∈ c.blocks := by
  rw [blocks_all, List.mem_flatMap]

theorem mem_blocks_spaced {pieces : List Code} :
    x ∈ (spaced pieces).blocks ↔ ∃ c ∈ pieces, x ∈ c.blocks := by
  induction pieces with
  | nil => simp [spaced, blocks]
  | cons c pieces ih =>
      cases pieces with
      | nil => simp [spaced]
      | cons c' pieces =>
          show x ∈ c.blocks ++ (spaced (c' :: pieces)).blocks ↔ _
          rw [List.mem_append, ih]
          simp only [List.exists_mem_cons_iff]

/-- What is in the first block with the given opening line. -/
def bodyOf? (c : Code) (head : String) : Option Code :=
  (c.blocks.find? fun b => b.1.text == head).map (·.2)

variable {c : Code} {rest : List Code} {head : Expr} {body : Code} {opening : String}

/-- Code is passed over if none of its blocks has the opening line. -/
theorem bodyOf?_pass (h : ∀ x ∈ c.blocks, x.1.text ≠ opening) :
    (all (c :: rest)).bodyOf? opening = (all rest).bodyOf? opening := by
  have hnone : (c.blocks.find? fun x => x.1.text == opening) = none :=
    List.find?_eq_none.mpr fun x hx => by simpa using h x hx
  show Option.map _ ((c.blocks ++ (all rest).blocks).find? _) = _
  rw [List.find?_append, hnone]
  rfl

theorem bodyOf?_pass_braces (h : head.text ++ " \x7b" ≠ opening) :
    (all (braces head body :: rest)).bodyOf? opening = (all rest).bodyOf? opening :=
  bodyOf?_pass fun _ hx => List.mem_singleton.mp hx ▸ h

theorem bodyOf?_all_singleton : (all [c]).bodyOf? opening = c.bodyOf? opening := by
  show Option.map _ ((c.blocks ++ []).find? _) = _
  rw [List.append_nil]
  rfl

theorem bodyOf?_braces (h : head.text ++ " \x7b" = opening) :
    (all (braces head body :: rest)).bodyOf? opening = some body := by
  show Option.map _ (List.find? _ ((head ++ Expr.plain " \x7b", body) :: (all rest).blocks)) = _
  rw [List.find?_cons, show ((head ++ Expr.plain " \x7b").text == opening) = true from
    beq_iff_eq.mpr h]
  rfl

end Code

/-! ## Types -/

theorem Blueprint.typeOf_meets (h : v.Fits b P) :
    Meets (fun type => type.expr.Within P) b.service.Permits (b.typeOf v) := by
  induction v with
  | «structure» k s => exact meets_ok (Q := fun type : ValueType => type.expr.Within P) h
  | scalar k s =>
      rw [Blueprint.typeOf]
      split
      next henum => exact meets_ok (Q := fun type : ValueType => type.expr.Within P) (h henum)
      next => exact meets_ok trivial
  | list k l item ih =>
      rw [Blueprint.typeOf]
      exact meets_map (ih h) fun type htype => by simp [ValueType.expr, htype]
  | map k m keys values _ ih =>
      rw [Blueprint.typeOf]
      exact meets_map (ih h.2) fun type htype => by simp [ValueType.expr, htype]
  | unknown k => exact absurd h id
  | endless k =>
      rw [Blueprint.typeOf]
      exact meets_error (permits_of_not_guarded h)

namespace Crate

/-- The types of a field mention nothing but what is given. -/
def Field.Within (P : Area → String → Prop) (f : Field) : Prop :=
  f.type.expr.Within P ∧ f.valueType.expr.Within P

theorem fieldsOf_meets (h : b.Covers P t) :
    Meets (fun fields => ∀ f ∈ fields, f.Within P) b.service.Permits (fieldsOf b t) := by
  refine meets_mapM fun m hm => ?_
  refine meets_bind (Blueprint.typeOf_meets (h m hm)) fun type htype => meets_pure ?_
  refine ⟨?_, htype⟩
  dsimp only
  split
  · simp [ValueType.expr, htype]
  · exact htype

@[simp]
theorem within_documented {html : Option String} : (documented html).Within P ↔ True := by
  simp [documented]

@[simp]
theorem within_usingRuntime : usingRuntime.Within P ↔ True := by
  simp [usingRuntime]

theorem within_structCode {name : String} {fields : List Field} {methods : Option Code}
    (hfields : ∀ f ∈ fields, f.Within P)
    (hmethods : ∀ c, methods = some c → c.Within P) :
    (structCode name fields methods).Within P := by
  have hdeclarations : ∀ f ∈ fields, f.declaration.Within P := by
    intro f hf
    simp [Field.declaration, (hfields f hf).1]
  have hsetters : ∀ f ∈ fields, f.method.Within P := by
    intro f hf
    dsimp only [Field.method]
    split <;> simp [(hfields f hf).2]
  simpa [structCode] using ⟨hdeclarations, hsetters, hmethods⟩

/-! ## What the files are made of -/

/-- What a structure implements. -/
def implemented (name : String) (fields : List Field) (methods : Option Code) : Code :=
  Code.all [
    .text ("/// Create an empty `" ++ name ++ "`"),
    .braces "pub fn new() -> Self" (.text "Self::default()"),
    Code.all (fields.map Field.method),
    .blank,
    .orBlank methods]

/-- The opening line of an item that is named by the type. -/
theorem opening_text (keywords type : String) :
    (Expr.of [.plain keywords, .plain type]).text ++ " \x7b" = keywords ++ type ++ " \x7b" := by
  show keywords ++ (type ++ "") ++ " \x7b" = _
  rw [String.append_empty]

/-- The functions among the methods are functions of the type. -/
theorem exists_implemented (name : String) (fields : List Field) {methods : Code}
    {f : Expr × Code} (hf : f ∈ methods.blocks) :
    ∃ b ∈ (structCode name fields methods).blocks,
      b.1.text = "impl " ++ name ++ " \x7b" ∧ f ∈ b.2.blocks := by
  have hblock : (Expr.of ["impl ", name] ++ Expr.plain " \x7b", implemented name fields methods) ∈
      (Code.braces (.of ["impl ", name]) (implemented name fields methods)).blocks :=
    List.mem_singleton_self _
  refine ⟨_, Code.mem_blocks_all.mpr ⟨_, ?_, hblock⟩, ?_, ?_⟩
  · exact List.mem_cons_of_mem _ (List.mem_cons_of_mem _ (List.mem_cons_of_mem _
      List.mem_cons_self))
  · show "impl " ++ (name ++ "") ++ " \x7b" = _
    rw [String.append_empty]
  · exact Code.mem_blocks_all.mpr ⟨Code.orBlank (some methods), by simp, hf⟩

/-- The methods of an input: the check of its members, if there is one, and the
request. -/
def inputMethods (input : Option StructureShape) (request : Code) : Code :=
  match input.bind Request.validation? with
  | some validation => Code.all [validation, .blank, request]
  | none => request

/-- The fields of an input; without an input in the definition there are none. -/
def inputFields (b : Blueprint) (o : Operation) : Except EmissionFault (List Field) :=
  match b.service.inputOf? o with
  | some t => fieldsOf b t
  | none => .ok []

theorem inputFile_eq : inputFile b o = (do
    let request ← Request.method b o (b.service.inputOf? o)
    let fields ← inputFields b o
    return Code.all [
      usingRuntime,
      .text ("/// Input of the `" ++ o.name ++ "` operation"),
      structCode (inputType o) fields (inputMethods (b.service.inputOf? o) request)]) := by
  rw [inputFile, inputFields]
  unfold inputMethods
  cases b.service.inputOf? o with
  | none => rfl
  | some t =>
      rw [Option.bind_some]
      cases Request.validation? t <;> rfl

theorem inputFile_ok (h : inputFile b o = .ok code) :
    ∃ request fields, Request.method b o (b.service.inputOf? o) = .ok request ∧
      code = Code.all [usingRuntime,
        .text ("/// Input of the `" ++ o.name ++ "` operation"),
        structCode (inputType o) fields (inputMethods (b.service.inputOf? o) request)] := by
  rw [inputFile_eq] at h
  obtain ⟨request, hrequest, h⟩ := bind_eq_ok.mp h
  obtain ⟨fields, -, h⟩ := bind_eq_ok.mp h
  exact ⟨request, fields, hrequest, (pure_eq_ok.mp h).symm⟩

/-- The code of a structure with its methods. -/
def structureCode (b : Blueprint) (t : StructureShape) (fields : List Field)
    (methods : List Code) : Code :=
  Code.all [
    usingRuntime,
    documented t.documentation,
    .when t.union (.when (isDocumented t.documentation) (.text "///") ++
      .text "/// Exactly one member is expected to be set."),
    .when t.deprecated (.text "#[deprecated]"),
    structCode (b.typeName t.name) fields
      (if methods.isEmpty then none else some (Code.spaced methods))]

/-- What is made on a condition, as a list. -/
def onlyIf {α : Type} (condition : Bool) (x : Except EmissionFault α) :
    Except EmissionFault (List α) :=
  if condition then x.map ([·]) else .ok []

theorem onlyIf_ok {α : Type} {condition : Bool} {x : Except EmissionFault α} {r : List α}
    (h : onlyIf condition x = .ok r) :
    (condition = true → Succeeds x) ∧ ∀ a, a ∈ r ↔ condition = true ∧ x = .ok a := by
  rw [onlyIf] at h
  split at h
  next hcondition =>
    obtain ⟨a, rfl, rfl⟩ := map_eq_ok.mp h
    exact ⟨fun _ => ⟨a, rfl⟩, fun a' => by simp [hcondition, eq_comm]⟩
  next hcondition =>
    obtain rfl := Except.ok.inj h
    exact ⟨fun h => absurd h hcondition, fun a => by simp [hcondition]⟩

theorem onlyIf_meets {α : Type} {condition : Bool} {x : Except EmissionFault α}
    {Q : α → Prop} {E : EmissionFault → Prop} (h : condition = true → Meets Q E x) :
    Meets (fun r => ∀ a ∈ r, Q a) E (onlyIf condition x) := by
  rw [onlyIf]
  split
  next hcondition => exact meets_map (h hcondition) fun a ha => by simpa using ha
  next => exact meets_ok (Q := fun r : List α => ∀ a ∈ r, Q a) nofun

theorem structureFile_eq : structureFile b t = (do
    let written ← onlyIf (b.usage.serialized.contains t.name) (writer b t)
    let read ← onlyIf (b.usage.parsed.contains t.name) (reader b t)
    let fields ← fieldsOf b t
    return structureCode b t fields
      ((Request.validation? t).toList ++ written ++ read)) := by
  dsimp only [structureFile, onlyIf]
  split
  · split <;> rfl
  · split <;> rfl

/-- The methods are the check and those conversions that the usage has. -/
theorem structureFile_ok (h : structureFile b t = .ok code) :
    ∃ fields methods, code = structureCode b t fields methods ∧
      (t.name ∈ b.usage.serialized → Succeeds (writer b t)) ∧
      (t.name ∈ b.usage.parsed → Succeeds (reader b t)) ∧
      ∀ c, c ∈ methods ↔ Request.validation? t = some c ∨
        (t.name ∈ b.usage.serialized ∧ writer b t = .ok c) ∨
        t.name ∈ b.usage.parsed ∧ reader b t = .ok c := by
  rw [structureFile_eq] at h
  obtain ⟨written, hwritten, h⟩ := bind_eq_ok.mp h
  obtain ⟨read, hread, h⟩ := bind_eq_ok.mp h
  obtain ⟨fields, -, h⟩ := bind_eq_ok.mp h
  obtain ⟨hwriter, hwritten⟩ := onlyIf_ok hwritten
  obtain ⟨hreader, hread⟩ := onlyIf_ok hread
  refine ⟨fields, _, (pure_eq_ok.mp h).symm, fun hmem => ?_, fun hmem => ?_, fun c => ?_⟩
  · exact hwriter (List.contains_iff_mem.mpr hmem)
  · exact hreader (List.contains_iff_mem.mpr hmem)
  · rw [List.append_assoc, List.mem_append, List.mem_append, hwritten, hread,
      List.contains_iff_mem, List.contains_iff_mem, Option.mem_toList]

/-! ## Inputs and outputs -/

theorem within_operationCode {title name : String} {fields : List Field} {methods : Code}
    (hfields : ∀ f ∈ fields, f.Within P) (hmethods : methods.Within P) :
    (Code.all [usingRuntime, .text title, structCode name fields methods]).Within P := by
  have hmethods : ∀ c, some methods = some c → c.Within P :=
    fun c hc => Option.some.inj hc ▸ hmethods
  exact ⟨within_usingRuntime.mpr trivial, trivial, within_structCode hfields hmethods,
    trivial⟩

theorem within_inputMethods {input : Option StructureShape} {request : Code}
    (h : request.Within P) : (inputMethods input request).Within P := by
  rw [inputMethods]
  split
  next validation hv =>
    obtain ⟨t, -, hv⟩ := Option.bind_eq_some_iff.mp hv
    simp [Request.within_validation? hv, h]
  next => exact h

theorem inputFields_meets (h : ∀ t, b.service.inputOf? o = some t → b.Covers P t) :
    Meets (fun fields => ∀ f ∈ fields, f.Within P) b.service.Permits (inputFields b o) := by
  rw [inputFields]
  split
  next t ht => exact fieldsOf_meets (h t ht)
  next => exact meets_ok (Q := fun fields : List Field => ∀ f ∈ fields, f.Within P) nofun

theorem inputFile_meets {o : Operation}
    (hbinds : Request.Binds b P o (b.service.inputOf? o))
    (h : ∀ t, b.service.inputOf? o = some t → b.Covers P t) :
    Meets (Code.Within P) b.service.Permits (inputFile b o) := by
  rw [inputFile_eq]
  refine meets_bind (Request.method_meets hbinds h) fun request hrequest => ?_
  exact meets_bind (inputFields_meets h) fun fields hfields =>
    meets_pure (within_operationCode hfields (within_inputMethods hrequest))

theorem outputFile?_meets {o : Operation}
    (h : ∀ t, b.service.outputOf? o = some t → b.Covers P t) :
    Meets (fun r => ∀ c, r = some c → c.Within P) b.service.Permits (outputFile? b o) := by
  rw [outputFile?]
  split
  next t ht =>
    refine meets_bind (Response.method_meets (h t ht)) fun method hmethod => ?_
    refine meets_bind (fieldsOf_meets (h t ht)) fun fields hfields => meets_pure ?_
    rintro c ⟨⟩
    exact within_operationCode hfields hmethod
  next => exact meets_pure nofun

/-! ## Structures -/

theorem writer_meets (h : b.Covers P t) :
    Meets (Code.Within P) b.service.Permits (writer b t) := by
  have hvalidated : (Request.validated t).Within P := Request.within_validated
  rw [writer]
  split
  · refine meets_bind (Request.JsonBody.members_meets h) fun object hobject => ?_
    exact meets_pure (by simp [hvalidated, hobject])
  · refine meets_bind (Request.XmlBody.attributes_meets h) fun attributes ha => ?_
    refine meets_bind (Request.XmlBody.elements_meets h) fun elements he => ?_
    exact meets_pure (by simp [hvalidated, ha, he])
  · refine meets_bind (Request.QueryBody.members_meets h) fun statements hs => ?_
    exact meets_pure (by simp [hvalidated, hs])

theorem within_fieldValue {value : Expr} (h : value.Within P) :
    (fieldValue m value).Within P := by
  simp [fieldValue, h]

theorem within_readValue {fields : List Code} (h : ∀ c ∈ fields, c.Within P) :
    (readValue fields).Within P := by
  simp [readValue, Code.within_all.mpr h]

theorem jsonReader_meets (h : b.Covers P t) :
    Meets (Code.Within P) b.service.Permits (jsonReader b t) := by
  refine meets_bind (meets_mapM (S := Code.Within P) fun m hm => ?_) fun fields hf => ?_
  · exact meets_map (Response.JsonBody.member_meets (h m hm)) fun e => within_fieldValue
  · refine meets_pure ?_
    split <;> simp [within_readValue hf]

theorem xmlReader_meets (h : b.Covers P t) :
    Meets (Code.Within P) b.service.Permits (xmlReader b t) := by
  refine meets_bind (meets_mapM (S := Code.Within P) fun m hm => ?_) fun fields hf => ?_
  · exact meets_map (Response.XmlBody.member_meets (h m hm)) fun e => within_fieldValue
  · refine meets_pure ?_
    split <;> simp [within_readValue hf]

theorem reader_meets (h : b.Covers P t) :
    Meets (Code.Within P) b.service.Permits (reader b t) := by
  rw [reader]
  split
  · exact jsonReader_meets h
  · exact xmlReader_meets h
  · exact xmlReader_meets h

theorem within_methods {methods : List Code} (h : ∀ c ∈ methods, c.Within P) :
    ∀ c, (if methods.isEmpty then none else some (Code.spaced methods)) = some c →
      c.Within P := by
  intro c hc
  split at hc
  · cases hc
  · exact Option.some.inj hc ▸ Code.within_spaced.mpr h

theorem structureFile_meets (h : b.Covers P t) :
    Meets (Code.Within P) b.service.Permits (structureFile b t) := by
  rw [structureFile_eq]
  refine meets_bind (onlyIf_meets fun _ => writer_meets h) fun written hwritten => ?_
  refine meets_bind (onlyIf_meets fun _ => reader_meets h) fun read hread => ?_
  refine meets_bind (fieldsOf_meets h) fun fields hfields => meets_pure ?_
  have hmethods : ∀ c ∈ (Request.validation? t).toList ++ written ++ read,
      c.Within P := by
    intro c hc
    rcases List.mem_append.mp hc with hc | hc
    · rcases List.mem_append.mp hc with hc | hc
      · exact Request.within_validation? (Option.mem_toList.mp hc)
      · exact hwritten c hc
    · exact hread c hc
  exact ⟨within_usingRuntime.mpr trivial, within_documented.mpr trivial, by simp,
    by simp, within_structCode hfields (within_methods hmethods), trivial⟩

/-! ## Enumerated texts -/

theorem within_enumCode {name : String} {documentation : Option String}
    {all : List Variant} : (enumCode name documentation all).Within P := by
  simp [enumCode]

theorem enumFile_meets {k : String} {s : ScalarShape}
    (h : b.service.shape? k = some (.scalar s)) :
    Meets (Code.Within P) b.service.Permits (enumFile b k) := by
  rw [enumFile, h]
  exact meets_ok within_enumCode

end Crate

end Clientwright
