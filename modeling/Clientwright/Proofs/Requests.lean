import Clientwright.Proofs.Fitting
import Clientwright.Proofs.PathTemplates
import Clientwright.Proofs.References
import Clientwright.Request.Message

/-!
# Code that writes requests

One statement for each function that writes a part of a request: given members
whose values fit, it ends with code that mentions nothing but what these values
may mention, or with a fault that the service permits.

The functions on values recurse with the value, so their statements are by
induction on it, with the names, formats and depths left free. Where one of
them ends without code for some value, the value decides which fault it is: a
cut value makes the endless one, and every other fault is about a binding. The
one look-up by name that a request makes is the member behind a placeholder, and
that it is there is part of what it means for an operation to fit its shapes.
-/

namespace Clientwright

open Outcome Service

namespace Request

variable {b : Blueprint} {P : Area → String → Prop} {v : ValueShape} {m : Member}
  {l : List Member} {t : StructureShape} {name : String} {format : TimestampFormat}

/-! ## Text -/

theorem within_scalarText {kind : ScalarKind} :
    (scalarText kind name format).Within P := by
  cases kind <;> simp [scalarText]

/-- A value that is no scalar cannot be written as text, which is a fault of the
binding. -/
theorem textOf_meets (h : v.Fits b P) :
    Meets (Expr.Within P) b.service.Permits (textOf v name format) := by
  cases v with
  | scalar k t => exact meets_ok within_scalarText
  | unknown k => exact absurd h id
  | «structure» _ _ | list _ _ _ | map _ _ _ _ | endless _ =>
      exact meets_error (permits_of_isBinding trivial)

theorem headerOf_meets (h : v.Fits b P) :
    Meets (Expr.Within P) b.service.Permits (headerOf v name format) := by
  cases v with
  | list k l item =>
      refine meets_bind (textOf_meets (v := item) h) fun e he => ?_
      exact meets_pure (by simp [he])
  | scalar k t => exact textOf_meets h
  | unknown k => exact absurd h id
  | «structure» _ _ | map _ _ _ _ | endless _ =>
      exact meets_error (permits_of_isBinding trivial)

/-! ## JSON -/

theorem JsonBody.within_scalar {s : ScalarShape} :
    (JsonBody.scalar s name format).Within P := by
  rw [JsonBody.scalar]
  split
  · simp
  · split <;> simp

theorem JsonBody.value_meets {depth : Nat} (h : v.Fits b P) :
    Meets (Expr.Within P) b.service.Permits (JsonBody.value b v name format depth) := by
  induction v generalizing name format depth with
  | «structure» k s =>
      rw [JsonBody.value]
      exact meets_ok (by simp)
  | scalar k s =>
      rw [JsonBody.value]
      exact meets_ok JsonBody.within_scalar
  | list k l item ih =>
      rw [JsonBody.value]
      exact meets_bind (ih h) fun inner hinner => meets_pure (by simp [hinner])
  | map k m keys values _ ih =>
      rw [JsonBody.value]
      exact meets_bind (ih h.2) fun inner hinner => meets_pure (by simp [hinner])
  | unknown k => exact absurd h id
  | endless k =>
      rw [JsonBody.value]
      exact meets_error (permits_of_not_guarded h)

theorem JsonBody.member_meets (h : (b.value m.shape).Fits b P) :
    Meets (Code.Within P) b.service.Permits (JsonBody.member b m) :=
  meets_bind (JsonBody.value_meets h) fun inner hinner => meets_pure (by simp [hinner])

theorem JsonBody.members_meets (h : ∀ m ∈ l, (b.value m.shape).Fits b P) :
    Meets (Code.Within P) b.service.Permits (JsonBody.members b l) := by
  rw [JsonBody.members]
  split
  · exact meets_pure (by simp)
  · refine meets_bind (meets_mapM fun m hm => JsonBody.member_meets (h m hm)) ?_
    exact fun statements hstatements =>
      meets_pure ⟨trivial, Code.within_all.mpr hstatements⟩

/-! ## XML -/

theorem XmlBody.within_namespaceArgument {n : Option XmlNamespace} :
    (XmlBody.namespaceArgument n).Within P := by
  cases n <;> simp [XmlBody.namespaceArgument]

theorem XmlBody.within_tagged {tag : String} {c : Code} :
    (XmlBody.tagged tag c).Within P ↔ c.Within P := by
  simp [XmlBody.tagged, XmlBody.push]

theorem XmlBody.value_meets {element : XmlBody.Element} {depth : Nat} (h : v.Fits b P) :
    Meets (Code.Within P) b.service.Permits
      (XmlBody.value b v name element format depth) := by
  induction v generalizing name element format depth with
  | «structure» k s =>
      rw [XmlBody.value]
      exact meets_ok (by simp [XmlBody.within_namespaceArgument])
  | scalar k s =>
      rw [XmlBody.value]
      refine meets_bind (textOf_meets (v := .scalar k s) h) fun e he => ?_
      exact meets_pure (by simp [he])
  | list k l item ih =>
      rw [XmlBody.value]
      refine meets_bind (ih h) fun inner hinner => meets_pure ?_
      split
      · simp [hinner]
      · simp [XmlBody.within_tagged, hinner]
  | map k m keys values _ ih =>
      rw [XmlBody.value]
      refine meets_bind (ih h.2) fun inner hinner => meets_pure ?_
      split
      · simp [XmlBody.within_tagged, hinner]
      · simp [XmlBody.within_tagged, hinner]
  | unknown k => exact absurd h id
  | endless k =>
      rw [XmlBody.value]
      exact meets_error (permits_of_not_guarded h)

theorem XmlBody.attributes_meets (h : ∀ m ∈ l, (b.value m.shape).Fits b P) :
    Meets (Code.Within P) b.service.Permits (XmlBody.attributes b l) := by
  refine meets_map (meets_mapM (S := Code.Within P) fun m hm => ?_) fun r => Code.within_all.mpr
  refine meets_bind (textOf_meets (h m (List.mem_of_mem_filter hm))) fun e he => ?_
  exact meets_pure (by simp [he])

theorem XmlBody.elements_meets (h : ∀ m ∈ l, (b.value m.shape).Fits b P) :
    Meets (Code.Within P) b.service.Permits (XmlBody.elements b l) := by
  refine meets_map (meets_mapM (S := Code.Within P) fun m hm => ?_) fun r => Code.within_all.mpr
  refine meets_bind (XmlBody.value_meets (h m (List.mem_of_mem_filter hm))) fun c hc => ?_
  exact meets_pure (by simp [hc])

/-! ## Form parameters -/

theorem QueryBody.memberKey_meets (h : (b.value m.shape).Fits b P) :
    Meets (fun _ => True) b.service.Permits (QueryBody.memberKey b m) := by
  rw [QueryBody.memberKey]
  split
  · exact meets_ok trivial
  · split
    next k hk =>
      rw [hk] at h
      exact absurd h id
    next => exact meets_ok trivial
    next => exact meets_ok trivial

theorem QueryBody.value_meets {key : Expr} {flattened : Bool} {depth : Nat}
    (h : v.Fits b P) (hkey : key.Within P) :
    Meets (Code.Within P) b.service.Permits
      (QueryBody.value b v name key flattened format depth) := by
  induction v generalizing name key flattened format depth with
  | «structure» k s =>
      rw [QueryBody.value]
      exact meets_ok (by simp [hkey])
  | scalar k s =>
      rw [QueryBody.value]
      refine meets_bind (textOf_meets (v := .scalar k s) h) fun e he => ?_
      exact meets_pure (by simp [hkey, he])
  | list k l item ih =>
      rw [QueryBody.value]
      refine meets_bind (ih h (by simp [QueryBody.numberedKey])) fun inner hinner => ?_
      exact meets_pure (by simp [hkey, hinner])
  | map k m keys values _ ih =>
      rw [QueryBody.value]
      refine meets_bind (ih h.2 (by simp [QueryBody.namedKey])) fun inner hinner => ?_
      refine meets_pure ?_
      simp [QueryBody.namedKey, QueryBody.numberedKey, hkey, hinner]
  | unknown k => exact absurd h id
  | endless k =>
      rw [QueryBody.value]
      exact meets_error (permits_of_not_guarded h)

theorem QueryBody.members_meets {around : String}
    (h : ∀ m ∈ l, (b.value m.shape).Fits b P) :
    Meets (Code.Within P) b.service.Permits (QueryBody.members b around l) := by
  refine meets_map (meets_mapM (S := Code.Within P) fun m hm => ?_) fun r => Code.within_all.mpr
  refine meets_bind (QueryBody.memberKey_meets (h m hm)) fun key _ => ?_
  have hkey : (QueryBody.namedKey around key).Within P := by simp [QueryBody.namedKey]
  refine meets_bind (QueryBody.value_meets (h m hm) hkey) fun c hc => ?_
  exact meets_pure (by simp [hc])

/-! ## Headers and the query string -/

theorem queryString_meets (h : v.Fits b P) :
    Meets (Code.Within P) b.service.Permits (queryString v name format) := by
  unfold queryString
  split
  next k l item =>
    refine meets_bind (textOf_meets (v := item) h) fun e he => ?_
    exact meets_pure (by simp [forItems, queryParameter, he])
  next k m keys j l item =>
    refine meets_bind (textOf_meets (v := item) h.2) fun e he => ?_
    exact meets_pure (by simp [forEntries, forItems, queryParameter, he])
  next k m keys values _ =>
    refine meets_bind (textOf_meets (v := values) h.2) fun e he => ?_
    exact meets_pure (by simp [forEntries, queryParameter, he])
  next v _ _ _ =>
    refine meets_bind (textOf_meets h) fun e he => ?_
    exact meets_pure (by simp [queryParameter, he])

theorem within_whenSet {c : Code} : (whenSet m c).Within P ↔ c.Within P := by
  simp [whenSet]

theorem binding_meets (h : (b.value m.shape).Fits b P) :
    Meets (Code.Within P) b.service.Permits (binding b m) := by
  rw [binding]
  split
  · refine meets_bind (headerOf_meets h) fun e he => ?_
    exact meets_pure (by simp [within_whenSet, he])
  · split
    next k map keys values hv =>
      rw [hv] at h
      refine meets_bind (textOf_meets (v := values) h.2) fun e he => ?_
      exact meets_pure (by simp [within_whenSet, forEntries, he])
    next k hv =>
      rw [hv] at h
      exact absurd h id
    next => exact meets_ok trivial
  · exact meets_map (queryString_meets h) fun c hc => within_whenSet.mpr hc
  all_goals exact meets_ok trivial

theorem bindings_meets (h : b.Covers P t) :
    Meets (Code.Within P) b.service.Permits (bindings b t) := by
  refine meets_map (meets_mapM (S := Code.Within P) fun m hm => ?_) fun r => Code.within_all.mpr
  exact binding_meets (h m hm)

/-! ## Paths -/

/-- Every placeholder of the path is bound to a member that fits. -/
def Binds (b : Blueprint) (P : Area → String → Prop) (o : Operation)
    (input : Option StructureShape) : Prop :=
  ∀ p ∈ o.http.placeholders, ∃ m, boundMember? input p = some m ∧
    (b.value m.shape).Fits b P

theorem label_meets {o : Operation} {input : Option StructureShape} (h : Binds b P o input)
    {index : Nat} {p : Placeholder} (hp : p ∈ o.http.placeholders) :
    Meets (fun label => label.statement.Within P ∧ label.argument.Within P)
      b.service.Permits (label b o input index p) := by
  obtain ⟨m, hm, hfits⟩ := h p hp
  rw [label, hm]
  refine meets_bind (textOf_meets hfits) fun e he => meets_pure ⟨by simp, ?_⟩
  split <;> simp [he]

theorem pathOf_meets {o : Operation} {input : Option StructureShape}
    (h : Binds b P o input) :
    Meets (fun r => r.1.Within P ∧ r.2.Within P) b.service.Permits (pathOf b o input) := by
  refine meets_pathOf (fun index p hp => label_meets h hp) ⟨by simp, by simp⟩
    fun template all hall => ?_
  simp only [Code.within_all_map, Expr.within_of_cons, Expr.within_separated_map]
  exact ⟨fun label hlabel => (hall label hlabel).1, trivial, trivial, trivial,
    fun label hlabel => (hall label hlabel).2, trivial, trivial⟩

/-! ## Bodies -/

theorem payloadBody_meets {structured : Code} (h : (b.value m.shape).Fits b P)
    (hstructured : structured.Within P) :
    Meets (Code.Within P) b.service.Permits (payloadBody b m structured) := by
  rw [payloadBody]
  split
  next k s hv =>
    have hraw : (rawPayload s.kind).Within P := by
      cases s.kind <;> simp [rawPayload, fixedHeader]
    exact meets_ok (Code.within_ifSet.mpr hraw)
  next k hv =>
    rw [hv] at h
    exact absurd h id
  next => exact meets_ok (Code.within_ifSet.mpr hstructured)

theorem mem_of_payloadMember? (h : t.payloadMember? = some m) : m ∈ t.members := by
  obtain ⟨name, -, hm⟩ := Option.bind_eq_some_iff.mp h
  exact List.mem_of_find?_eq_some hm

theorem covers_bodyMembers (h : b.Covers P t) :
    ∀ m ∈ t.bodyMembers, (b.value m.shape).Fits b P :=
  fun m hm => h m (List.mem_of_mem_filter hm)

theorem jsonBody_meets {o : Operation} (h : ∀ m ∈ l, (b.value m.shape).Fits b P) :
    Meets (Code.Within P) b.service.Permits (jsonBody b o l) := by
  refine meets_bind (JsonBody.members_meets h) fun object hobject => meets_pure ?_
  split <;> simp [fixedHeader, objectBody, hobject]

theorem queryBody_meets {o : Operation} (h : ∀ m ∈ l, (b.value m.shape).Fits b P) :
    Meets (Code.Within P) b.service.Permits (queryBody b o l) := by
  refine meets_bind (QueryBody.members_meets h) fun statements hs => meets_pure ?_
  split <;> simp [fixedHeader, hs]

theorem restJsonBody_meets (h : b.Covers P t) :
    Meets (Code.Within P) b.service.Permits (restJsonBody b t) := by
  rw [restJsonBody]
  split
  next m hm =>
    exact payloadBody_meets (h m (mem_of_payloadMember? hm)) (by simp [fixedHeader])
  next =>
    split
    · exact meets_pure trivial
    · refine meets_bind (JsonBody.members_meets (covers_bodyMembers h)) fun c hc => ?_
      exact meets_pure (by simp [fixedHeader, objectBody, hc])

theorem restXmlBody_meets (h : b.Covers P t) :
    Meets (Code.Within P) b.service.Permits (restXmlBody b t) := by
  rw [restXmlBody]
  split
  next m hm =>
    refine payloadBody_meets (h m (mem_of_payloadMember? hm)) ?_
    simp [xmlSent, fixedHeader, XmlBody.within_namespaceArgument]
  next =>
    split
    · exact meets_pure trivial
    · refine meets_bind (XmlBody.attributes_meets (covers_bodyMembers h)) fun a ha => ?_
      refine meets_bind (XmlBody.elements_meets (covers_bodyMembers h)) fun e he => ?_
      refine meets_pure ?_
      split <;> simp [XmlBody.push, xmlSent, fixedHeader, ha, he]

theorem within_getD_empty {c : Option Code} (h : ∀ code, c = some code → code.Within P) :
    (c.getD .empty).Within P := by
  cases c with
  | none => trivial
  | some c => exact h c rfl

theorem body_meets {o : Operation} {input : Option StructureShape}
    (h : ∀ t, input = some t → b.Covers P t) :
    Meets (Code.Within P) b.service.Permits (body b o input) := by
  have hmembers : ∀ m ∈ (input.map (·.bodyMembers)).getD [],
      (b.value m.shape).Fits b P := by
    cases input with
    | none => simp
    | some t =>
        rw [Option.map_some, Option.getD_some]
        exact covers_bodyMembers (h t rfl)
  dsimp only [body]
  split
  · exact jsonBody_meets hmembers
  · exact queryBody_meets hmembers
  · exact queryBody_meets hmembers
  · exact meets_map (meets_mapM_option fun t ht => restJsonBody_meets (h t ht))
      fun r hr => within_getD_empty hr
  · exact meets_map (meets_mapM_option fun t ht => restXmlBody_meets (h t ht))
      fun r hr => within_getD_empty hr

/-! ## Requests -/

theorem within_validation? {c : Code} (h : validation? t = some c) : c.Within P := by
  dsimp only [validation?] at h
  split at h
  · cases h
  · obtain rfl := Option.some.inj h
    simp

theorem within_validated : (validated t).Within P := by
  simp [validated]

theorem within_idempotencyTokens : (idempotencyTokens t).Within P := by
  dsimp only [idempotencyTokens]
  split
  · trivial
  · simp only [Code.within_braces, Code.within_all_cons]
    split <;> simp

theorem within_staticQuery {o : Operation} : (staticQuery o).Within P := by
  simp [staticQuery, queryParameter]

theorem method_meets {o : Operation} {input : Option StructureShape}
    (hbinds : Binds b P o input) (h : ∀ t, input = some t → b.Covers P t) :
    Meets (Code.Within P) b.service.Permits (method b o input) := by
  have hstatic : (staticQuery o).Within P := within_staticQuery
  have hbody := body_meets (o := o) h
  refine meets_bind (pathOf_meets hbinds) fun (labels, path) ⟨hlabels, hpath⟩ => ?_
  cases input with
  | none =>
      refine meets_bind (Q := Code.Within P) (meets_ok trivial) fun bound hbound => ?_
      refine meets_bind hbody fun sent hsent => meets_pure ?_
      split <;> simp [hstatic, hbound, hsent, hlabels, hpath]
  | some t =>
      dsimp only
      split
      · refine meets_bind (bindings_meets (h t rfl)) fun bound hbound => ?_
        refine meets_bind hbody fun sent hsent => meets_pure ?_
        split <;> simp [hstatic, hbound, hsent, hlabels, hpath, within_idempotencyTokens,
          within_validated]
      · refine meets_bind (Q := Code.Within P) (meets_ok trivial) fun bound hbound => ?_
        refine meets_bind hbody fun sent hsent => meets_pure ?_
        split <;> simp [hstatic, hbound, hsent, hlabels, hpath, within_idempotencyTokens,
          within_validated]

end Request

end Clientwright
