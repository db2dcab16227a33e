import Clientwright.Crate.Structures
import Clientwright.Proofs.NameCharacters
import Clientwright.Proofs.Outcomes
import Clientwright.Proofs.PathTemplates

/-!
# Comments in methods

A method that builds a request or reads a response is code, and has no comments in it.
What remains to be seen is that none of its statements starts like one. Most start with
something that is written out, and the others with the name of a variable or of a field.

There is one comment above a method that builds a request, and it has the name of the
operation in it, as it is in the definition.
-/

namespace Clientwright

open Outcome Comment

variable {b : Blueprint} {v : ValueShape} {m : Member} {l : List Member}
  {t : StructureShape} {o : Operation} {name : String} {format : TimestampFormat}

@[simp]
theorem startsCode_localName {role : String} {depth : Nat} (h : startsCode role = true) :
    startsCode (localName role depth) = true := startsCode_append h

@[simp]
theorem Expr.leads_of_var {rest : List Expr} (h : startsCode name = true) :
    (Expr.of (.var name :: rest)).Leads :=
  leads_of_cons h

@[simp]
theorem Code.contained_getD {c : Option Code} :
    (c.getD .empty).Contained ↔ ∀ code, c = some code → code.Contained := by
  cases c with
  | none => simp
  | some c => simp

theorem Code.contained_mapM {α : Type} {f : α → Except EmissionFault Code} {l : List α}
    (h : ∀ a ∈ l, Yields Code.Contained (f a)) : Yields Code.Contained ((l.mapM f).map Code.all) :=
  meets_map (meets_mapM h) fun _ => contained_all.mpr

theorem Code.contained_map {x : Except EmissionFault Expr} {f : Expr → Code}
    (h : ∀ e, (f e).Contained) : Yields Code.Contained (x.map f) := by
  cases x with
  | ok e => exact h e
  | error fault => trivial

namespace Request

/-! ## JSON -/

theorem JsonBody.members_contained : Yields Code.Contained (JsonBody.members b l) := by
  rw [JsonBody.members]
  split
  · exact meets_pure (by simp +decide)
  · refine meets_bind (meets_mapM (S := Code.Contained) fun m hm => ?_) fun r hr => ?_
    · exact yields_bind fun inner => meets_pure (by simp +decide)
    · exact meets_pure (by simp +decide [Code.contained_all.mpr hr])

/-! ## XML -/

theorem XmlBody.tagged_contained {tag : String} {c : Code} :
    (XmlBody.tagged tag c).Contained ↔ c.Contained := by
  simp +decide [XmlBody.tagged, XmlBody.push]

theorem XmlBody.value_contained {element : XmlBody.Element} {depth : Nat}
    (hname : startsCode name = true) :
    Yields Code.Contained (XmlBody.value b v name element format depth) := by
  induction v generalizing name element format depth with
  | «structure» k s =>
      rw [XmlBody.value]
      exact meets_ok (by simp [hname])
  | scalar k s =>
      rw [XmlBody.value]
      exact yields_bind fun e => meets_pure (by simp +decide)
  | list k l item ih =>
      rw [XmlBody.value]
      refine meets_bind (ih (by simp +decide)) fun inner hinner => meets_pure ?_
      split
      · simp [hinner]
      · simp [XmlBody.tagged_contained, hinner]
  | map k m keys values _ ih =>
      rw [XmlBody.value]
      refine meets_bind (ih (by simp +decide)) fun inner hinner => meets_pure ?_
      split
      · simp +decide [XmlBody.tagged_contained, hinner]
      · simp +decide [XmlBody.tagged_contained, hinner]
  | unknown k | endless k => exact meets_error trivial

theorem XmlBody.attributes_contained : Yields Code.Contained (XmlBody.attributes b l) :=
  Code.contained_mapM fun _ _ => yields_bind fun e => meets_pure (by simp +decide)

theorem XmlBody.elements_contained : Yields Code.Contained (XmlBody.elements b l) :=
  Code.contained_mapM fun _ _ => meets_bind (XmlBody.value_contained (by decide)) fun c hc =>
    meets_pure (Code.contained_ifSet.mpr hc)

/-! ## Form parameters -/

theorem QueryBody.value_contained {key : Expr} {flattened : Bool} {depth : Nat}
    (hname : startsCode name = true) :
    Yields Code.Contained (QueryBody.value b v name key flattened format depth) := by
  induction v generalizing name key flattened format depth with
  | «structure» k s =>
      rw [QueryBody.value]
      exact meets_ok (by simp [hname])
  | scalar k s =>
      rw [QueryBody.value]
      exact yields_bind fun e => meets_pure (by simp +decide)
  | list k l item ih =>
      rw [QueryBody.value]
      refine meets_bind (ih (by simp +decide)) fun inner hinner => meets_pure ?_
      simp +decide [hinner]
  | map k m keys values _ ih =>
      rw [QueryBody.value]
      refine meets_bind (ih (by simp +decide)) fun inner hinner => meets_pure ?_
      simp +decide [hinner]
  | unknown k | endless k => exact meets_error trivial

theorem QueryBody.members_contained {around : String} :
    Yields Code.Contained (QueryBody.members b around l) :=
  Code.contained_mapM fun _ _ => yields_bind fun key =>
    meets_bind (QueryBody.value_contained (by decide)) fun c hc =>
      meets_pure (Code.contained_ifSet.mpr hc)

/-! ## Headers, the query string and the path -/

theorem queryString_contained : Yields Code.Contained (queryString v name format) := by
  unfold queryString
  split
  all_goals exact yields_bind fun e =>
    meets_pure (by simp +decide [forEntries, forItems, queryParameter])

theorem binding_contained : Yields Code.Contained (binding b m) := by
  rw [binding]
  split
  · exact yields_bind fun e => meets_pure (by simp +decide [whenSet])
  · split
    · exact yields_bind fun e => meets_pure (by simp +decide [whenSet, forEntries])
    · exact meets_error trivial
    · exact meets_ok (by simp)
  · exact meets_map queryString_contained fun c hc => Code.contained_ifSet.mpr hc
  all_goals exact meets_ok (by simp)

theorem bindings_contained : Yields Code.Contained (bindings b t) :=
  Code.contained_mapM fun _ _ => binding_contained

theorem label_contained {input : Option StructureShape} {index : Nat} {p : Placeholder} :
    Yields (fun label => label.statement.Contained) (label b o input index p) := by
  rw [label]
  split
  · exact yields_bind fun e => meets_pure Code.contained_bind
  · exact meets_error trivial

theorem pathOf_contained {input : Option StructureShape} :
    Yields (fun r => r.1.Contained) (pathOf b o input) :=
  meets_pathOf (fun _ _ _ => label_contained) Code.contained_empty
    fun _ _ hall => Code.contained_all_map.mpr hall

/-! ## Bodies -/

@[simp]
theorem fixedHeader_contained {text : String} : (fixedHeader name text).Contained := by
  simp +decide [fixedHeader]

@[simp]
theorem rawPayload_contained {kind : ScalarKind} : (rawPayload kind).Contained := by
  cases kind <;> simp +decide [rawPayload]

theorem payloadBody_contained {structured : Code} (h : structured.Contained) :
    Yields Code.Contained (payloadBody b m structured) := by
  rw [payloadBody]
  split
  · exact meets_ok (Code.contained_ifSet.mpr rawPayload_contained)
  · exact meets_error trivial
  · exact meets_ok (Code.contained_ifSet.mpr h)

theorem body_contained {input : Option StructureShape} :
    Yields Code.Contained (body b o input) := by
  have hjson : ∀ t, Yields Code.Contained (restJsonBody b t) := by
    intro t
    rw [restJsonBody]
    split
    · exact payloadBody_contained (by simp +decide)
    · split
      · exact meets_pure Code.contained_empty
      · exact meets_bind JsonBody.members_contained fun c hc =>
          meets_pure (by simp +decide [objectBody, hc])
  have hxml : ∀ t, Yields Code.Contained (restXmlBody b t) := by
    intro t
    rw [restXmlBody]
    split
    · exact payloadBody_contained (by simp +decide [xmlSent])
    · split
      · exact meets_pure Code.contained_empty
      · refine meets_bind XmlBody.attributes_contained fun a ha => ?_
        refine meets_bind XmlBody.elements_contained fun e he => meets_pure ?_
        split <;> simp +decide [XmlBody.push, xmlSent, ha, he]
  dsimp only [body]
  split
  · refine meets_bind JsonBody.members_contained fun object hobject => meets_pure ?_
    split <;> simp +decide [objectBody, hobject]
  · refine meets_bind QueryBody.members_contained fun statements hs => meets_pure ?_
    split <;> simp +decide [hs]
  · refine meets_bind QueryBody.members_contained fun statements hs => meets_pure ?_
    split <;> simp +decide [hs]
  · exact meets_map (meets_mapM_option fun t _ => hjson t) fun r => Code.contained_getD.mpr
  · exact meets_map (meets_mapM_option fun t _ => hxml t) fun r => Code.contained_getD.mpr

/-! ## Requests -/

theorem validation?_contained {c : Code} (h : validation? t = some c) : c.Contained := by
  dsimp only [validation?] at h
  split at h
  · cases h
  · obtain rfl := Option.some.inj h
    simp +decide

@[simp]
theorem validated_contained : (validated t).Contained := by
  simp +decide [validated]

@[simp]
theorem idempotencyTokens_contained : (idempotencyTokens t).Contained := by
  dsimp only [idempotencyTokens]
  split
  · simp
  · rw [Code.contained_braces (Expr.leads_of_plain (by decide)), Code.contained_all_cons,
      Code.contained_all_cons]
    refine ⟨by simp +decide, ?_, by simp +decide⟩
    split <;> simp +decide

@[simp]
theorem staticQuery_contained : (staticQuery o).Contained := by
  simp +decide [staticQuery, queryParameter]

/-- The comment above the method says the name of the operation. -/
theorem methodCode_contained {input : Option StructureShape} {labels contents : Code} {path : Expr}
    (hlabels : labels.Contained) (hcontents : contents.Contained) :
    (Code.all [
      .text ("/// Build the HTTP request of the `" ++ o.name ++ "` operation"),
      .braces "pub fn request(&self) -> Result<runtime::Request, runtime::Error>" <| Code.all [
        (input.map idempotencyTokens).getD .empty,
        (input.map validated).getD .empty,
        labels,
        .line (.of [if contents.isEmpty then "let request" else "let mut request",
          " = runtime::Request::new(", .quoted o.http.method, ", ", path, ");"]),
        contents,
        .text "Ok(request)"]]).Contained ↔ Harmless o.name := by
  have htokens : ∀ t, input = some t → (idempotencyTokens t).Contained :=
    fun t _ => idempotencyTokens_contained
  have hchecks : ∀ t, input = some t → (validated t).Contained := fun t _ => validated_contained
  have hstart : (Expr.of [if contents.isEmpty then "let request" else "let mut request",
      " = runtime::Request::new(", .quoted o.http.method, ", ", path, ");"]).Leads := by
    refine Expr.leads_of_cons ?_
    split <;> exact Expr.leads_plain (by decide)
  simp +decide [hlabels, hcontents, Code.contained_line hstart]

theorem method_contained {input : Option StructureShape} :
    Yields (fun c => c.Contained ↔ Harmless o.name) (method b o input) := by
  refine meets_bind pathOf_contained fun (labels, path) hlabels => ?_
  have hmethod : ∀ bound sent : Code, bound.Contained → sent.Contained →
      (Code.all [staticQuery o, bound, sent]).Contained := by
    intro bound sent hbound hsent
    simp [hbound, hsent]
  dsimp only
  split
  · split
    · refine meets_bind bindings_contained fun bound hbound => ?_
      refine meets_bind body_contained fun sent hsent => meets_pure ?_
      exact methodCode_contained hlabels (hmethod bound sent hbound hsent)
    · refine meets_bind (Q := Code.Contained) (meets_ok Code.contained_empty) fun bound hbound => ?_
      refine meets_bind body_contained fun sent hsent => meets_pure ?_
      exact methodCode_contained hlabels (hmethod bound sent hbound hsent)
  · refine meets_bind (Q := Code.Contained) (meets_ok Code.contained_empty) fun bound hbound => ?_
    refine meets_bind body_contained fun sent hsent => meets_pure ?_
    exact methodCode_contained hlabels (hmethod bound sent hbound hsent)

end Request

/-! ## Responses -/

namespace Response

theorem assign_contained {value : Expr} : (assign m value).Contained := by
  simp +decide [assign]

theorem withDocument_contained {inner : Code} :
    (withDocument inner).Contained ↔ inner.Contained := by
  simp +decide [withDocument]

theorem payload_contained : Yields Code.Contained (payload b t m) := by
  rw [payload]
  split
  · refine meets_ok ?_
    split
    · exact assign_contained
    · exact assign_contained
    · split <;> exact assign_contained
  · split
    · exact meets_ok assign_contained
    · exact meets_ok (withDocument_contained.mpr assign_contained)
  all_goals exact meets_error trivial

theorem body_contained : Yields Code.Contained (body b o t) := by
  have hassign : ∀ (f : Member → Except EmissionFault Expr) (l : List Member),
      Yields (fun codes => ∀ c ∈ codes, c.Contained)
        (l.mapM fun m => (f m).map (assign m)) :=
    fun f l => meets_mapM fun m _ => Code.contained_map fun _ => assign_contained
  dsimp only [body]
  split
  · exact meets_ok Code.contained_empty
  · split
    · refine meets_bind (hassign _ _) fun codes hcodes => meets_pure ?_
      simp +decide [Code.contained_all.mpr hcodes]
    · refine meets_bind (hassign _ _) fun codes hcodes => meets_pure ?_
      simp [withDocument_contained, Code.contained_all.mpr hcodes]

theorem binding_contained : Yields Code.Contained (binding b t m) := by
  rw [binding]
  split
  · exact yields_bind fun inner => meets_pure assign_contained
  · split
    · exact yields_bind fun inner => meets_pure (by simp +decide [assign_contained])
    · exact meets_error trivial
    · exact meets_error trivial
  all_goals exact meets_ok (by simp [assign_contained])

theorem method_contained : Yields Code.Contained (method b o t) := by
  have hbound := meets_mapM (E := fun _ => True) (S := Code.Contained) (f := binding b t)
    (l := t.members) fun m _ => binding_contained
  rw [method]
  dsimp only
  split
  · exact meets_pure (by simp +decide)
  · split
    · refine meets_bind payload_contained fun read hread => meets_bind hbound fun bound hb => ?_
      exact meets_pure (by simp +decide [hread, Code.contained_all.mpr hb])
    · refine meets_bind body_contained fun read hread => meets_bind hbound fun bound hb => ?_
      exact meets_pure (by simp +decide [hread, Code.contained_all.mpr hb])

end Response

end Clientwright
