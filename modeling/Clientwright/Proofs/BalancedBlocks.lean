import Clientwright.Proofs.FileComments
import Clientwright.Proofs.LineBuilder
import Clientwright.Proofs.PathTemplates

/-!
# Blocks that are closed again

Every emitter leaves the indentation as it found it: each block that it opens is closed again,
the innermost first, and none is closed that was open before. This holds for whatever the
emitter decides on the way, and the lines are the same at every indentation that it may start
from.

What there is to see is that no line of the code is taken for the beginning or the end of a
block. Most of a line is the same each time, and the rest, be it a name, a literal or another
expression, stands between what is the same. Comments may quote anything. So each emitter has
one statement about its code (`Code.Framed`), and where it calls itself the induction is on the
value that is written.
-/

namespace Clientwright

open Outcome Comment

variable {b : Blueprint} {v : ValueShape} {m : Member} {l : List Member}
  {t : StructureShape} {o : Operation} {name : String} {format : TimestampFormat}

theorem Code.framed_mapM {α : Type} {f : α → Except EmissionFault Code} {l : List α}
    (h : ∀ a ∈ l, Yields Code.Framed (f a)) : Yields Code.Framed ((l.mapM f).map Code.all) :=
  meets_map (meets_mapM h) fun _ => framed_all.mpr

theorem Code.framed_map {x : Except EmissionFault Expr} {f : Expr → Code}
    (h : ∀ e, (f e).Framed) : Yields Code.Framed (x.map f) := by
  cases x with
  | ok e => exact h e
  | error fault => trivial

/-! ## Requests -/

namespace Request

theorem JsonBody.framed_members : Yields Code.Framed (JsonBody.members b l) := by
  rw [JsonBody.members]
  split
  · exact meets_pure (by simp +decide)
  · refine meets_bind (meets_mapM (S := Code.Framed) fun m hm => ?_) fun r hr => ?_
    · exact yields_bind fun inner => meets_pure (by simp +decide)
    · exact meets_pure (by simp +decide [Code.framed_all.mpr hr])

theorem XmlBody.framed_tagged {tag : String} {c : Code} :
    (XmlBody.tagged tag c).Framed ↔ c.Framed := by
  simp +decide [XmlBody.tagged, XmlBody.push]

theorem XmlBody.framed_value {element : XmlBody.Element} {depth : Nat} :
    Yields Code.Framed (XmlBody.value b v name element format depth) := by
  induction v generalizing name element format depth with
  | «structure» k s =>
      rw [XmlBody.value]
      exact meets_ok (by simp +decide)
  | scalar k s =>
      rw [XmlBody.value]
      exact yields_bind fun e => meets_pure (by simp +decide)
  | list k l item ih =>
      rw [XmlBody.value]
      refine meets_bind ih fun inner hinner => meets_pure ?_
      split
      · simp [hinner]
      · simp [XmlBody.framed_tagged, hinner]
  | map k m keys values _ ih =>
      rw [XmlBody.value]
      refine meets_bind ih fun inner hinner => meets_pure ?_
      split
      · simp +decide [XmlBody.framed_tagged, hinner]
      · simp +decide [XmlBody.framed_tagged, hinner]
  | unknown k | endless k => exact meets_error trivial

theorem XmlBody.framed_attributes : Yields Code.Framed (XmlBody.attributes b l) :=
  Code.framed_mapM fun _ _ => yields_bind fun e => meets_pure (by simp +decide)

theorem XmlBody.framed_elements : Yields Code.Framed (XmlBody.elements b l) :=
  Code.framed_mapM fun _ _ => meets_bind XmlBody.framed_value fun _ hc =>
    meets_pure (Code.framed_ifSet.mpr hc)

theorem QueryBody.framed_value {key : Expr} {flattened : Bool} {depth : Nat} :
    Yields Code.Framed (QueryBody.value b v name key flattened format depth) := by
  induction v generalizing name key flattened format depth with
  | «structure» k s =>
      rw [QueryBody.value]
      exact meets_ok (by simp +decide)
  | scalar k s =>
      rw [QueryBody.value]
      exact yields_bind fun e => meets_pure (by simp +decide)
  | list k l item ih =>
      rw [QueryBody.value]
      refine meets_bind ih fun inner hinner => meets_pure ?_
      simp +decide [hinner]
  | map k m keys values _ ih =>
      rw [QueryBody.value]
      refine meets_bind ih fun inner hinner => meets_pure ?_
      simp +decide [hinner]
  | unknown k | endless k => exact meets_error trivial

theorem QueryBody.framed_members {around : String} :
    Yields Code.Framed (QueryBody.members b around l) :=
  Code.framed_mapM fun _ _ => yields_bind fun _ =>
    meets_bind QueryBody.framed_value fun _ hc => meets_pure (Code.framed_ifSet.mpr hc)

theorem framed_queryString : Yields Code.Framed (queryString v name format) := by
  unfold queryString
  split
  all_goals exact yields_bind fun e =>
    meets_pure (by simp +decide [forEntries, forItems, queryParameter])

theorem framed_binding : Yields Code.Framed (binding b m) := by
  rw [binding]
  split
  · exact yields_bind fun e => meets_pure (by simp +decide [whenSet])
  · split
    · exact yields_bind fun e => meets_pure (by simp +decide [whenSet, forEntries])
    · exact meets_error trivial
    · exact meets_ok (by simp)
  · exact meets_map framed_queryString fun c hc => Code.framed_ifSet.mpr hc
  all_goals exact meets_ok (by simp)

theorem framed_bindings : Yields Code.Framed (bindings b t) :=
  Code.framed_mapM fun _ _ => framed_binding

theorem framed_label {input : Option StructureShape} {index : Nat} {p : Placeholder} :
    Yields (fun label => label.statement.Framed) (label b o input index p) := by
  rw [label]
  split
  · exact yields_bind fun e => meets_pure Code.framed_bind
  · exact meets_error trivial

theorem framed_pathOf {input : Option StructureShape} :
    Yields (fun r => r.1.Framed) (pathOf b o input) :=
  meets_pathOf (fun _ _ _ => framed_label) Code.framed_empty
    fun _ _ hall => Code.framed_all_map.mpr hall

/-! ### Bodies -/

@[simp]
theorem framed_fixedHeader {text : String} : (fixedHeader name text).Framed := by
  simp +decide [fixedHeader]

@[simp]
theorem framed_rawPayload {kind : ScalarKind} : (rawPayload kind).Framed := by
  cases kind <;> simp +decide [rawPayload]

theorem framed_payloadBody {structured : Code} (h : structured.Framed) :
    Yields Code.Framed (payloadBody b m structured) := by
  rw [payloadBody]
  split
  · exact meets_ok (Code.framed_ifSet.mpr framed_rawPayload)
  · exact meets_error trivial
  · exact meets_ok (Code.framed_ifSet.mpr h)

theorem framed_queryBody : Yields Code.Framed (queryBody b o l) := by
  refine meets_bind QueryBody.framed_members fun statements hs => meets_pure ?_
  have hblock : ∀ inner : Code, inner.Framed → (Code.block (if l.isEmpty then
      "let params = vec![" else "let mut params = vec![") [] inner "];").Framed := by
    intro inner hinner
    split <;> exact (Code.framed_block (Expr.leads_plain (by decide)) (c := '[') rfl rfl
      (by decide)).mpr hinner
  refine Code.framed_all_cons.mpr ⟨hblock _ (by simp +decide), ?_⟩
  simp +decide [hs]

theorem framed_body {input : Option StructureShape} : Yields Code.Framed (body b o input) := by
  have hjson : ∀ t, Yields Code.Framed (restJsonBody b t) := by
    intro t
    rw [restJsonBody]
    split
    · exact framed_payloadBody (by simp +decide)
    · split
      · exact meets_pure Code.framed_empty
      · exact meets_bind JsonBody.framed_members fun c hc =>
          meets_pure (by simp +decide [objectBody, hc])
  have hxml : ∀ t, Yields Code.Framed (restXmlBody b t) := by
    intro t
    rw [restXmlBody]
    split
    · exact framed_payloadBody (by simp +decide [xmlSent])
    · split
      · exact meets_pure Code.framed_empty
      · refine meets_bind XmlBody.framed_attributes fun a ha => ?_
        refine meets_bind XmlBody.framed_elements fun e he => meets_pure ?_
        split <;> simp +decide [XmlBody.push, xmlSent, ha, he]
  dsimp only [body]
  split
  · refine meets_bind JsonBody.framed_members fun object hobject => meets_pure ?_
    split <;> simp +decide [objectBody, hobject]
  · exact framed_queryBody
  · exact framed_queryBody
  · exact meets_map (meets_mapM_option fun t _ => hjson t) fun r => Code.framed_getD.mpr
  · exact meets_map (meets_mapM_option fun t _ => hxml t) fun r => Code.framed_getD.mpr

/-! ### Methods -/

theorem framed_validation? {c : Code} (h : validation? t = some c) : c.Framed := by
  dsimp only [validation?] at h
  split at h
  · cases h
  · obtain rfl := Option.some.inj h
    simp +decide

@[simp]
theorem framed_validated : (validated t).Framed := by
  simp +decide [validated]

@[simp]
theorem framed_idempotencyTokens : (idempotencyTokens t).Framed := by
  dsimp only [idempotencyTokens]
  split
  · simp
  · rw [Code.framed_braces (Expr.leads_of_plain (by decide)), Code.framed_all_cons,
      Code.framed_all_cons]
    refine ⟨by simp +decide, ?_, by simp +decide⟩
    split <;> simp +decide

@[simp]
theorem framed_staticQuery : (staticQuery o).Framed := by
  simp +decide [staticQuery, queryParameter]

theorem framed_methodCode {input : Option StructureShape} {labels contents : Code} {path : Expr}
    (hlabels : labels.Framed) (hcontents : contents.Framed) :
    (Code.all [
      .text ("/// Build the HTTP request of the `" ++ o.name ++ "` operation"),
      .braces "pub fn request(&self) -> Result<runtime::Request, runtime::Error>" <| Code.all [
        (input.map idempotencyTokens).getD .empty,
        (input.map validated).getD .empty,
        labels,
        .line (.of [if contents.isEmpty then "let request" else "let mut request",
          " = runtime::Request::new(", .quoted o.http.method, ", ", path, ");"]),
        contents,
        .text "Ok(request)"]]).Framed := by
  have htokens : ∀ t, input = some t → (idempotencyTokens t).Framed :=
    fun t _ => framed_idempotencyTokens
  have hchecks : ∀ t, input = some t → (validated t).Framed := fun t _ => framed_validated
  simp +decide [hlabels, hcontents]

theorem framed_method {input : Option StructureShape} :
    Yields Code.Framed (method b o input) := by
  refine meets_bind framed_pathOf fun (labels, path) hlabels => ?_
  have hcontents : ∀ bound sent : Code, bound.Framed → sent.Framed →
      (Code.all [staticQuery o, bound, sent]).Framed := by
    intro bound sent hbound hsent
    simp [hbound, hsent]
  have hunbound : Yields Code.Framed (.ok .empty : Except EmissionFault Code) :=
    meets_ok Code.framed_empty
  dsimp only
  split
  · split
    · refine meets_bind framed_bindings fun bound hbound => ?_
      refine meets_bind framed_body fun sent hsent => meets_pure ?_
      exact framed_methodCode hlabels (hcontents bound sent hbound hsent)
    · refine meets_bind hunbound fun bound hbound => ?_
      refine meets_bind framed_body fun sent hsent => meets_pure ?_
      exact framed_methodCode hlabels (hcontents bound sent hbound hsent)
  · refine meets_bind hunbound fun bound hbound => ?_
    refine meets_bind framed_body fun sent hsent => meets_pure ?_
    exact framed_methodCode hlabels (hcontents bound sent hbound hsent)

end Request

/-! ## Responses -/

namespace Response

theorem framed_assign {value : Expr} : (assign m value).Framed := by
  simp +decide [assign]

theorem framed_withDocument {inner : Code} : (withDocument inner).Framed ↔ inner.Framed := by
  rw [withDocument, Code.framed_append, and_iff_right (Code.framed_text.mpr (by decide))]
  exact Code.framed_block (Expr.leads_plain (by decide)) (c := '\x7b') rfl rfl (by decide)

theorem framed_payload : Yields Code.Framed (payload b t m) := by
  rw [payload]
  split
  · refine meets_ok ?_
    split
    · exact framed_assign
    · exact framed_assign
    · split <;> exact framed_assign
  · split
    · exact meets_ok framed_assign
    · exact meets_ok (framed_withDocument.mpr framed_assign)
  all_goals exact meets_error trivial

theorem framed_body : Yields Code.Framed (body b o t) := by
  have hassign : ∀ (f : Member → Except EmissionFault Expr) (l : List Member),
      Yields (fun codes => ∀ c ∈ codes, c.Framed)
        (l.mapM fun m => (f m).map (assign m)) :=
    fun f l => meets_mapM fun m _ => Code.framed_map fun _ => framed_assign
  dsimp only [body]
  split
  · exact meets_ok Code.framed_empty
  · split
    · refine meets_bind (hassign _ _) fun codes hcodes => meets_pure ?_
      simp +decide [Code.framed_all.mpr hcodes]
    · refine meets_bind (hassign _ _) fun codes hcodes => meets_pure ?_
      simp [framed_withDocument, Code.framed_all.mpr hcodes]

theorem framed_binding : Yields Code.Framed (binding b t m) := by
  rw [binding]
  split
  · exact yields_bind fun inner => meets_pure framed_assign
  · split
    · exact yields_bind fun inner => meets_pure (by simp +decide [framed_assign])
    · exact meets_error trivial
    · exact meets_error trivial
  all_goals exact meets_ok (by simp [framed_assign])

theorem framed_method : Yields Code.Framed (method b o t) := by
  have hbound := meets_mapM (E := fun _ => True) (S := Code.Framed) (f := binding b t)
    (l := t.members) fun m _ => framed_binding
  rw [method]
  dsimp only
  split
  · exact meets_pure (by simp +decide)
  · split
    · refine meets_bind framed_payload fun read hread => meets_bind hbound fun bound hb => ?_
      exact meets_pure (by simp +decide [hread, Code.framed_all.mpr hb])
    · refine meets_bind framed_body fun read hread => meets_bind hbound fun bound hb => ?_
      exact meets_pure (by simp +decide [hread, Code.framed_all.mpr hb])

end Response

/-! ## Structures -/

namespace Crate

theorem framed_jsonWriter : Yields Code.Framed (jsonWriter b t) :=
  meets_bind Request.JsonBody.framed_members fun object hobject =>
    meets_pure (by simp +decide [hobject])

theorem framed_xmlWriter : Yields Code.Framed (xmlWriter b t) := by
  refine meets_bind Request.XmlBody.framed_attributes fun attributes ha => ?_
  refine meets_bind Request.XmlBody.framed_elements fun elements he => ?_
  exact meets_pure (by simp +decide [ha, he])

theorem framed_queryWriter : Yields Code.Framed (queryWriter b t) :=
  meets_bind Request.QueryBody.framed_members fun statements hs =>
    meets_pure (by simp +decide [hs])

theorem framed_fieldValue {value : Expr} : (fieldValue m value).Framed := by
  simp +decide [fieldValue]

theorem framed_readValue {fields : List Code} (h : ∀ c ∈ fields, c.Framed) :
    (readValue fields).Framed :=
  (Code.framed_block (Expr.leads_plain (by decide)) (c := '\x7b') rfl rfl (by decide)).mpr
    (Code.framed_all.mpr h)

theorem framed_jsonReader : Yields Code.Framed (jsonReader b t) := by
  refine meets_bind (meets_mapM fun m _ => Code.framed_map fun _ => framed_fieldValue)
    fun fields hf => meets_pure ?_
  split <;> simp +decide [framed_readValue hf]

theorem framed_xmlReader : Yields Code.Framed (xmlReader b t) := by
  refine meets_bind (meets_mapM fun m _ => Code.framed_map fun _ => framed_fieldValue)
    fun fields hf => meets_pure ?_
  split <;> simp +decide [framed_readValue hf]

/-! ## Page iterators -/

namespace Pages

variable {p : Pages} {client : String}

theorem framed_next : p.next.Framed := by
  have hmatch : ∀ inner : Code, inner.Framed → (Code.block (.of ["let output = match self.client.",
      p.method, "(&input) \x7b"]) [] inner "\x7d;").Framed := fun inner hinner =>
    (Code.framed_block_of (Expr.leads_of_plain (by decide)) (c := '\x7b') rfl rfl rfl
      (by decide)).mpr hinner
  simp +decide [next, hmatch]

theorem framed_pagesMethod : p.pagesMethod.Framed := by
  have htype : (Expr.plain p.type).Leads :=
    Expr.leads_plain (startsCode_of_wordlike (Naming.wordlike_typeIdent p.operation.name)
      (by decide))
  dsimp only [pagesMethod]
  split <;> simp +decide [Code.framed_braces htype]

theorem framed_itemsMethod {items : Items} : (p.itemsMethod items).Framed := by
  have hmap : ∀ inner : Code, inner.Framed → (Code.block (.of ["self.", bareIdent p.method,
      "_pages(input).flat_map(|page| match page \x7b"]) [] inner "\x7d)").Framed :=
    fun inner hinner => (Code.framed_block_of (Expr.leads_of_plain (by decide)) (c := '\x7b')
      rfl rfl rfl (by decide)).mpr hinner
  simp +decide [itemsMethod, hmap]

theorem framed_code : (p.code client).Framed := by
  simp +decide [code, iterator, framed_next, framed_pagesMethod, framed_itemsMethod]

end Pages

/-! ## Waiters -/

theorem framed_questionsCode {index : Nat} {l : List Guarded} :
    (questionsCode index l).Framed := by
  induction l generalizing index with
  | nil => exact Code.framed_empty
  | cons g l ih =>
      refine Code.framed_append.mpr ⟨?_, ih⟩
      have hend : ∀ s : AcceptorState, (endIn s).Framed := by
        intro s
        cases s <;> simp +decide [endIn]
      dsimp only [Guarded.code]
      split
      next => exact hend g.state
      next code _ =>
        have hstatus : startsCode ("if response.status == " ++ toString code) = true :=
          startsCode_append (by decide)
        exact (Code.framed_braces (Expr.leads_plain hstatus)).mpr (hend g.state)
      all_goals simp +decide [hend, collect]

theorem framed_poll {p : Poll} {words : String} : (p.code b o words).Framed := by
  simp +decide [Poll.code, Poll.failedCode, Poll.succeededCode, framed_questionsCode]

theorem framed_waiterCode {w : Waiter} {p : Poll} : (waiterCode b w o p).Framed := by
  simp +decide [waiterCode, waiterDocumentation, framed_poll]

theorem framed_waiterAttempt {w : Waiter} : Yields Code.Framed (waiterAttempt b w) := by
  rw [waiterAttempt]
  dsimp only
  split
  · exact meets_error trivial
  · split
    · exact yields_bind fun p => meets_pure framed_waiterCode
    · exact meets_error trivial

end Crate

/-! ## All emitters -/

/-- The code that an emitter gives for a service. -/
inductive Emitted (b : Blueprint) : Code → Prop
  | validation {t : StructureShape} {c : Code} (h : Request.validation? t = some c) : Emitted b c
  | jsonMembers {l : List Member} {c : Code} (h : Request.JsonBody.members b l = .ok c) :
    Emitted b c
  | queryValue {v : ValueShape} {name : String} {key : Expr} {flattened : Bool}
    {format : TimestampFormat} {depth : Nat} {c : Code}
    (h : Request.QueryBody.value b v name key flattened format depth = .ok c) : Emitted b c
  | queryMembers {around : String} {l : List Member} {c : Code}
    (h : Request.QueryBody.members b around l = .ok c) : Emitted b c
  | xmlValue {v : ValueShape} {name : String} {element : Request.XmlBody.Element}
    {format : TimestampFormat} {depth : Nat} {c : Code}
    (h : Request.XmlBody.value b v name element format depth = .ok c) : Emitted b c
  | xmlAttributes {l : List Member} {c : Code} (h : Request.XmlBody.attributes b l = .ok c) :
    Emitted b c
  | xmlElements {l : List Member} {c : Code} (h : Request.XmlBody.elements b l = .ok c) :
    Emitted b c
  | request {o : Operation} {input : Option StructureShape} {c : Code}
    (h : Request.method b o input = .ok c) : Emitted b c
  | response {o : Operation} {t : StructureShape} {c : Code}
    (h : Response.method b o t = .ok c) : Emitted b c
  | jsonWriter {t : StructureShape} {c : Code} (h : Crate.jsonWriter b t = .ok c) : Emitted b c
  | xmlWriter {t : StructureShape} {c : Code} (h : Crate.xmlWriter b t = .ok c) : Emitted b c
  | queryWriter {t : StructureShape} {c : Code} (h : Crate.queryWriter b t = .ok c) : Emitted b c
  | jsonReader {t : StructureShape} {c : Code} (h : Crate.jsonReader b t = .ok c) : Emitted b c
  | xmlReader {t : StructureShape} {c : Code} (h : Crate.xmlReader b t = .ok c) : Emitted b c
  | waiter {w : Waiter} {c : Code} (h : Crate.waiterAttempt b w = .ok c) : Emitted b c
  | pages {o : Operation} {p : Pagination} {r : Crate.Pages} (h : Crate.pagesOf b o p = .ok r) :
    Emitted b (r.code (Crate.clientType b.service))
  /-- The waiters of a service, or its iterators, are one after the other. -/
  | spaced {pieces : List Code} (h : ∀ c ∈ pieces, Emitted b c) : Emitted b (Code.spaced pieces)

variable {c : Code}

theorem Emitted.framed (h : Emitted b c) : c.Framed := by
  induction h with
  | validation h => exact Request.framed_validation? h
  | jsonMembers h => exact Request.JsonBody.framed_members.value h
  | queryValue h => exact Request.QueryBody.framed_value.value h
  | queryMembers h => exact Request.QueryBody.framed_members.value h
  | xmlValue h => exact Request.XmlBody.framed_value.value h
  | xmlAttributes h => exact Request.XmlBody.framed_attributes.value h
  | xmlElements h => exact Request.XmlBody.framed_elements.value h
  | request h => exact Request.framed_method.value h
  | response h => exact Response.framed_method.value h
  | jsonWriter h => exact Crate.framed_jsonWriter.value h
  | xmlWriter h => exact Crate.framed_xmlWriter.value h
  | queryWriter h => exact Crate.framed_queryWriter.value h
  | jsonReader h => exact Crate.framed_jsonReader.value h
  | xmlReader h => exact Crate.framed_xmlReader.value h
  | waiter h => exact Crate.framed_waiterAttempt.value h
  | pages h => exact Crate.Pages.framed_code
  | spaced _ ih => exact Code.framed_spaced.mpr ih

/-- What an emitter gives opens and closes its blocks in order, at any indentation. -/
theorem blocks_balanced (h : Emitted b c) : c.Balanced := h.framed.balanced

/-! A waiter that ends at once when there is no error, in front of a question that is not asked
any more. -/

/-- Waits until a parcel is found. -/
def parcelFound : Waiter where
  name := "ParcelFound"
  operation := "FindParcel"
  delay := 5
  maxAttempts := 20
  description := some "Waits \x7b"
  acceptors := [⟨.failure, .errorCode "Lost"⟩, ⟨.retry, .status 404⟩, ⟨.success, .anyError false⟩,
    ⟨.failure, .status 500⟩]

theorem blocks_balanced_parcelFound : ∃ c,
    Crate.waiterAttempt Request.parcels parcelFound = .ok c ∧
    Emitted Request.parcels (Code.spaced [c, c]) ∧ (Code.spaced [c, c]).Balanced := by
  obtain ⟨c, hc⟩ : Succeeds (Crate.waiterAttempt Request.parcels parcelFound) := ⟨_, rfl⟩
  have hemitted : Emitted Request.parcels (Code.spaced [c, c]) :=
    .spaced (by simpa using Emitted.waiter hc)
  exact ⟨c, hc, hemitted, blocks_balanced hemitted⟩

end Clientwright
