import Clientwright.Crate.Generation
import Clientwright.Proofs.BodyComments
import Clientwright.Proofs.Linked

/-!
# Comments in files

What each file says in its comments. Documentation comes with a marker for each of its
lines, whatever it says (`documented_contained`), and identifiers have no line feeds. What is
left of a file are the texts that it quotes, and the comments of the file are kept exactly
if these are harmless.

For the files of inputs, outputs and page iterators this is the name of the operation, for
an enumeration its values, for the client the name of the service, its version and the
codes of errors, and for a waiter its description. The file of a structure quotes nothing.
-/

namespace Clientwright

open Outcome Comment

variable {b : Blueprint} {t : StructureShape} {o : Operation} {code : Code}

/-! ## Documentation -/

namespace Text

theorem mem_splitAt_of_mem_lines {s line : List Char} (h : line ∈ lines s) :
    line ∈ splitAt (· = '\n') s := by
  dsimp only [lines] at h
  split at h
  · exact List.mem_of_mem_dropLast h
  · exact h

/-- A line has no line feeds. -/
theorem feed_not_mem_of_mem_lines {s line : List Char} (h : line ∈ lines s) : '\n' ∉ line :=
  fun hfeed => absurd (not_cut_of_mem_splitAt (mem_splitAt_of_mem_lines h) hfeed) (by decide)

end Text

namespace Crate

/-- Documentation has a marker for each of its lines. -/
@[simp]
theorem documented_contained {html : Option String} : (documented html).Contained := by
  rw [documented, Code.contained_texts]
  cases html with
  | none => exact List.forall_mem_nil _
  | some html =>
      intro s hs
      obtain ⟨line, hline, rfl⟩ := List.mem_map.mp hs
      have hfree := Text.feed_not_mem_of_mem_lines hline
      refine kept_iff.mpr fun _ => harmless_of_free ?_
      rw [String.toList_ofList, Docs.commentLine]
      split <;> simp [hfree]

@[simp]
theorem usingRuntime_contained : usingRuntime.Contained := by
  simp +decide [usingRuntime]

/-! ## Structures in general -/

theorem Field.declaration_contained {f : Field} : f.declaration.Contained := by
  simp +decide [declaration]

theorem Field.method_contained {f : Field} (h : Harmless f.ident) : f.method.Contained := by
  simp +decide [method, h]

/-- The comments in a structure say its name and those of its fields. -/
theorem structCode_contained {name : String} {fields : List Field} {methods : Option Code}
    (hname : Harmless name) (hfields : ∀ f ∈ fields, Harmless f.ident) :
    (structCode name fields methods).Contained ↔ ∀ c, methods = some c → c.Contained := by
  have hdeclarations : (Code.all (fields.map Field.declaration)).Contained :=
    Code.contained_all_map.mpr fun _ _ => Field.declaration_contained
  have hsetters : (Code.all (fields.map Field.method)).Contained :=
    Code.contained_all_map.mpr fun f hf => Field.method_contained (hfields f hf)
  simp +decide [structCode, hname, hdeclarations, hsetters, -Code.contained_all_map]

theorem fieldsOf_harmless :
    Yields (fun fields => ∀ f ∈ fields, Harmless f.ident) (fieldsOf b t) := by
  refine meets_mapM fun m _ => yields_bind fun type => meets_pure ?_
  dsimp only
  exact harmless_fieldIdent m.name

/-! ## Inputs and outputs -/

theorem inputFile_contained : Yields (fun c => c.Contained ↔ Harmless o.name) (inputFile b o) := by
  have hfile : ∀ {fields : List Field} {methods : Code}, (∀ f ∈ fields, Harmless f.ident) →
      (methods.Contained ↔ Harmless o.name) → ((Code.all [usingRuntime,
        .text ("/// Input of the `" ++ o.name ++ "` operation"),
        structCode (inputType o) fields methods]).Contained ↔ Harmless o.name) := by
    intro fields methods hfields hmethods
    simp +decide [structCode_contained (harmless_inputType o) hfields, hmethods]
  refine meets_bind Request.method_contained fun request hrequest => ?_
  cases b.service.inputOf? o with
  | none => exact meets_pure (hfile (List.forall_mem_nil _) hrequest)
  | some t =>
      dsimp only [Option.bind_some]
      refine meets_bind fieldsOf_harmless fun fields hfields => meets_pure ?_
      split
      next validation hv =>
        have hchecked := Request.validation?_contained hv
        exact hfile hfields (by simp [hchecked, hrequest])
      next => exact hfile hfields hrequest

theorem outputFile?_contained :
    Yields (fun c => ∀ code, c = some code → (code.Contained ↔ Harmless o.name))
      (outputFile? b o) := by
  rw [outputFile?]
  split
  · refine meets_bind Response.method_contained fun method hmethod => ?_
    refine meets_bind fieldsOf_harmless fun fields hfields => meets_pure ?_
    rintro code ⟨⟩
    simp +decide [structCode_contained (harmless_outputType o) hfields, hmethod]
  · refine meets_pure ?_
    rintro code ⟨⟩

/-! ## Types -/

theorem writer_contained : Yields Code.Contained (writer b t) := by
  rw [writer]
  split
  · refine meets_bind Request.JsonBody.members_contained fun object hobject => ?_
    exact meets_pure (by simp +decide [hobject])
  · refine meets_bind Request.XmlBody.attributes_contained fun attributes ha => ?_
    refine meets_bind Request.XmlBody.elements_contained fun elements he => ?_
    exact meets_pure (by simp +decide [ha, he])
  · refine meets_bind Request.QueryBody.members_contained fun statements hs => ?_
    exact meets_pure (by simp +decide [hs])

theorem fieldValue_contained {m : Member} {value : Expr} : (fieldValue m value).Contained := by
  refine Code.contained_line ?_
  exact startsCode_of_wordlike (Naming.wordlike_fieldIdent m.name)
    (startsCode_append (by decide))

theorem readValue_contained {fields : List Code} (h : ∀ c ∈ fields, c.Contained) :
    (readValue fields).Contained := by
  simp +decide [readValue, Code.contained_all.mpr h]

theorem reader_contained : Yields Code.Contained (reader b t) := by
  have hfields : ∀ f : Member → Except EmissionFault Expr,
      Yields (fun codes => ∀ c ∈ codes, c.Contained)
        (t.members.mapM fun m => (f m).map (fieldValue m)) :=
    fun f => meets_mapM fun m _ => Code.contained_map fun _ => fieldValue_contained
  rw [reader]
  split
  · refine meets_bind (hfields _) fun fields hf => meets_pure ?_
    split <;> simp +decide [readValue_contained hf]
  all_goals
    refine meets_bind (hfields _) fun fields hf => meets_pure ?_
    split <;> simp +decide [readValue_contained hf]

theorem structureCode_contained {fields : List Field} {methods : List Code}
    (hname : Harmless (b.typeName t.name)) (hfields : ∀ f ∈ fields, Harmless f.ident)
    (hmethods : ∀ c ∈ methods, c.Contained) : (structureCode b t fields methods).Contained := by
  have hstruct : (structCode (b.typeName t.name) fields
      (if methods.isEmpty then none else some (Code.spaced methods))).Contained := by
    refine (structCode_contained hname hfields).mpr fun c hc => ?_
    split at hc
    · cases hc
    · obtain rfl := Option.some.inj hc
      exact Code.contained_spaced.mpr hmethods
  rw [structureCode]
  simp +decide only [Code.contained_all_cons, hstruct, usingRuntime_contained, documented_contained,
    Code.contained_when, Code.contained_append, Code.contained_text, Code.contained_all_nil,
    implies_true, and_self]

theorem structureFile_contained (hname : Harmless (b.typeName t.name)) :
    Yields Code.Contained (structureFile b t) := by
  rw [structureFile_eq]
  refine meets_bind (onlyIf_meets fun _ => writer_contained) fun written hwritten => ?_
  refine meets_bind (onlyIf_meets fun _ => reader_contained) fun read hread => ?_
  refine meets_bind fieldsOf_harmless fun fields hfields => meets_pure ?_
  refine structureCode_contained hname hfields fun c hc => ?_
  rw [List.append_assoc, List.mem_append, List.mem_append, Option.mem_toList] at hc
  rcases hc with hc | hc | hc
  · exact Request.validation?_contained hc
  · exact hwritten c hc
  · exact hread c hc

/-- The comments in an enumeration say the values. -/
theorem enumCode_contained {name : String} {doc : Option String} {all : List Variant}
    (hname : Wordlike name.toList) (hall : ∀ v ∈ all, Wordlike v.name.toList) :
    (enumCode name doc all).Contained ↔ ∀ v ∈ all, Harmless v.value := by
  have hvariants : (Code.all (all.map fun v => .texts ["/// `" ++ v.value ++ "`",
      v.name ++ ","])).Contained ↔ ∀ v ∈ all, Harmless v.value := by
    refine Code.contained_all_map.trans (forall₂_congr fun v hv => ?_)
    have hline : Kept (v.name ++ ",") :=
      kept_of_startsCode (startsCode_of_wordlike (hall v hv) (by decide))
    rw [Code.contained_texts_cons, Code.contained_texts_cons,
      and_iff_left ⟨hline, Code.contained_texts_nil⟩]
    simp +decide
  have hgives : (Code.all (all.map fun v => .line (.of [name, "::", v.name, " => ",
      .quoted v.value, ","]))).Contained :=
    Code.contained_all_map.mpr fun v _ => Code.contained_line <|
      startsCode_of_wordlike hname (startsCode_append (by decide))
  have htakes : (Code.all (all.map fun v => .line (.of [.quoted v.value, " => ", name, "::",
      v.name, ","]))).Contained :=
    Code.contained_all_map.mpr fun v _ =>
      Code.contained_line (Expr.leads_of_cons Expr.leads_quoted)
  have hname := harmless_of_wordlike hname
  simp +decide [enumCode, hvariants, hgives, htakes, hname, -Code.contained_all_map]

/-! ## The client and the library -/

theorem errorDocumentation_contained {s : Service} :
    (errorDocumentation s o).Contained ↔ ∀ code ∈ errorCodes s o, Harmless code := by
  have hcodes : (Code.texts ((errorCodes s o).map fun code => "/// * `" ++ code ++ "`")).Contained ↔
      ∀ code ∈ errorCodes s o, Harmless code := by
    rw [Code.contained_texts, List.forall_mem_map]
    exact forall₂_congr fun code _ => by simp +decide
  by_cases hnone : o.errors = []
  · simp [errorDocumentation, errorCodes, hnone]
  · simp +decide [errorDocumentation, hnone, hcodes]

/-- The comments of an operation's method say the codes of its errors. -/
theorem operationMethod_contained {s : Service} :
    (operationMethod s o).Contained ↔ ∀ code ∈ errorCodes s o, Harmless code := by
  have hread : (Code.line (.of [outputItem o, "::from_response(&response)"])).Contained :=
    Code.contained_line (Expr.leads_of_cons Expr.leads_item)
  dsimp only [operationMethod]
  split <;> simp +decide [errorDocumentation_contained, hread]

theorem clientFile_contained : (clientFile b).Contained ↔ Harmless b.service.metadata.fullName ∧
    Harmless b.service.metadata.apiVersion ∧
      ∀ o ∈ b.operations, ∀ code ∈ errorCodes b.service o, Harmless code := by
  have hprotocol : Harmless b.protocol.name := by
    cases b.protocol <;> decide
  simp +decide [clientFile, sendMethod, operationMethod_contained, hprotocol]

theorem library_contained {p : Package} :
    p.library.Contained ↔ Harmless p.fullName ∧ Harmless p.apiVersion := by
  simp +decide [Package.library]

theorem moduleFile_contained {title : String} {modules : List Module} :
    (moduleFile title modules).Contained ↔ Harmless title := by
  simp +decide [moduleFile, Code.contained_texts]

/-! ## Page iterators -/

namespace Pages

variable {p : Pages} {client : String}

/-- The comments of an iterator say the name of its operation, in two places or in three. -/
theorem code_contained (hclient : Wordlike client.toList) (hmethod : Wordlike p.method.toList)
    (hlimit : ∀ field, p.limit = some field → Wordlike field.toList) :
    (p.code client).Contained ↔ Harmless p.operation.name := by
  have hbare := harmless_of_wordlike (wordlike_bareIdent hmethod)
  have hclient := harmless_of_wordlike hclient
  have hassign : (Code.all (p.assignments.map fun a =>
      .line (.of ["next.", .field a.field, " = ", a.token.expr, ".cloned();"]))).Contained :=
    Code.contained_all_map.mpr fun a _ => Code.contained_line (Expr.leads_of_plain (by decide))
  have hnext : p.next.Contained := by
    simp +decide [next, hassign, -Code.contained_all_map]
  have hiterator : (p.iterator client).Contained := by
    simp +decide [iterator, hnext, hbare, hclient]
  have hpages : p.pagesMethod.Contained ↔ Harmless p.operation.name := by
    have htype : (Expr.plain p.type).Leads :=
      Expr.leads_plain (startsCode_of_wordlike (Naming.wordlike_typeIdent p.operation.name)
        (by decide))
    dsimp only [pagesMethod]
    split
    next field hfield =>
      have hfield := harmless_of_wordlike (wordlike_bareIdent (hlimit field hfield))
      simp +decide [hfield, Code.contained_braces htype]
    next => simp +decide [Code.contained_braces htype]
  have hitems : ((p.items.map p.itemsMethod).getD .empty).Contained ↔
      ∀ items, p.items = some items → Harmless p.operation.name := by
    rw [Code.contained_getD]
    cases p.items with
    | none => simp
    | some items => simp +decide [itemsMethod]
  have hall : (p.code client).Contained ↔ Harmless p.operation.name ∧
      ∀ items, p.items = some items → Harmless p.operation.name := by
    simp +decide only [code, Code.contained_all_cons, Code.contained_all_nil, Code.contained_blank,
      Code.contained_braces (Expr.leads_of_plain _), Code.contained_append, hiterator, hpages,
      hitems, true_and, and_true]
  rw [hall]
  exact and_iff_left_of_imp fun h _ _ => h

end Pages

theorem pagesFile_contained {l : List Pages} (hmethod : ∀ p ∈ l, Wordlike p.method.toList)
    (hlimit : ∀ p ∈ l, ∀ field, p.limit = some field → Wordlike field.toList) :
    (pagesFile b l).Contained ↔ ∀ p ∈ l, Harmless p.operation.name := by
  have hpages : (Code.spaced (l.map fun p => p.code (clientType b.service))).Contained ↔
      ∀ p ∈ l, Harmless p.operation.name := by
    rw [Code.contained_spaced, List.forall_mem_map]
    exact forall₂_congr fun p hp =>
      Pages.code_contained (wordlike_clientType b.service) (hmethod p hp) (hlimit p hp)
  simp +decide [pagesFile, hpages]

/-! ## Waiters -/

theorem questionsCode_contained {index : Nat} {l : List Guarded} :
    (questionsCode index l).Contained := by
  induction l generalizing index with
  | nil => exact Code.contained_empty
  | cons g l ih =>
      refine Code.contained_append.mpr ⟨?_, ih⟩
      have hend : ∀ s : AcceptorState, (endIn s).Contained := by
        intro s
        cases s <;> simp +decide [endIn]
      dsimp only [Guarded.code]
      split
      next => exact hend g.state
      next code _ =>
        have hstatus : startsCode ("if response.status == " ++ toString code) = true :=
          startsCode_append (by decide)
        exact (Code.contained_braces (Expr.leads_plain hstatus)).mpr (hend g.state)
      all_goals simp +decide [hend, collect]

theorem poll_contained {p : Poll} {words : String} : (p.code b o words).Contained := by
  have hformat : Harmless (errorFormat b) := by
    rw [errorFormat]
    split <;> decide
  simp +decide [Poll.code, Poll.failedCode, Poll.succeededCode, questionsCode_contained, hformat]

/-- What the comment of a waiter says: its description, or what it waits for. -/
def waiterTexts (w : Waiter) (o : Operation) : List String :=
  match w.description with
  | some description => [Text.trimmed description]
  | none => [o.name, w.name]

theorem waiterCode_contained {w : Waiter} {p : Poll} :
    (waiterCode b w o p).Contained ↔ ∀ text ∈ waiterTexts w o, Harmless text := by
  have hdocumentation : (waiterDocumentation w o).Contained ↔
      ∀ text ∈ waiterTexts w o, Harmless text := by
    have hnumbers : Harmless ("/// Polls every " ++ toString w.delay ++
        " seconds, giving up after " ++ toString w.maxAttempts ++ " attempts.") :=
      harmless_of_free (by simp [feed_not_mem_toDigits])
    have hkept := kept_iff.mpr fun _ => hnumbers
    rw [waiterDocumentation, Code.contained_texts_cons, Code.contained_texts_cons,
      Code.contained_texts_cons, and_iff_left ⟨by decide, hkept, Code.contained_texts_nil⟩,
      waiterTexts]
    cases w.description with
    | none => simp +decide
    | some description => simp +decide
  simp +decide [waiterCode, hdocumentation, poll_contained]

theorem waitersFile_contained {l : List Code} :
    (waitersFile b l).Contained ↔ ∀ c ∈ l, c.Contained := by
  simp +decide [waitersFile, Code.contained_spaced]

end Crate

end Clientwright
