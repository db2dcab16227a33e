import Clientwright.Proofs.Calls
import Clientwright.Proofs.Requests

/-!
# Calls in requests

A request asks the structures in its values to write themselves, and that is all
it calls. Texts, headers, labels and query parameters hold no structures. Each
encoding has one conversion, so what is said of an emitter is that it calls this
one on the structures of its values.

The exception is a payload in the rest protocols. It is converted as a whole, and
nobody asks whether it is a structure: a list or map is told to write itself under
the name of its shape. `payloadName` is that name, and the statements about bodies
carry it along.
-/

namespace Clientwright

open Outcome

namespace Blueprint

/-- The names of the structures in the members are among these. -/
def Holds (b : Blueprint) (Q : String → Prop) (l : List Member) : Prop :=
  ∀ m ∈ l, ∀ s ∈ (b.value m.shape).structures, Q s.name

variable {b : Blueprint} {Q R : String → Prop} {l l' : List Member}

theorem Holds.mono (h : b.Holds Q l) (hQ : ∀ n, Q n → R n) : b.Holds R l :=
  fun m hm s hs => hQ s.name (h m hm s hs)

theorem Holds.subset (h : b.Holds Q l) (hl : l' ⊆ l) : b.Holds Q l' :=
  fun m hm => h m (hl hm)

end Blueprint

/-- The conversion that writes structures. -/
def Protocol.writing (p : Protocol) : Conversion :=
  match p.requestEncoding with
  | .json => .toJson
  | .xml => .writeXml
  | .query => .toQuery

namespace Request

variable {b : Blueprint} {S : Call → Prop} {v : ValueShape} {m : Member}
  {l : List Member} {t : StructureShape} {o : Operation} {name : String}
  {format : TimestampFormat}

/-! ## Text -/

theorem scalarText_calls {kind : ScalarKind} : (scalarText kind name format).Calls S := by
  intro q
  cases kind <;> simp [scalarText]

theorem textOf_calls : Yields (Expr.Calls S) (textOf v name format) := by
  cases v with
  | scalar k t => exact meets_ok scalarText_calls
  | «structure» _ _ | list _ _ _ | map _ _ _ _ | unknown _ | endless _ =>
      exact meets_error trivial

theorem headerOf_calls : Yields (Expr.Calls S) (headerOf v name format) := by
  cases v with
  | list k l item =>
      refine meets_bind (textOf_calls (S := S) (v := item)) fun e he => ?_
      exact meets_pure fun q => by simp [he]
  | scalar k t => exact textOf_calls (v := .scalar k t)
  | «structure» _ _ | map _ _ _ _ | unknown _ | endless _ => exact meets_error trivial

/-! ## JSON -/

theorem JsonBody.scalar_calls {s : ScalarShape} :
    (JsonBody.scalar s name format).Calls S := by
  intro q
  rw [JsonBody.scalar]
  split
  · simp
  · split <;> simp

theorem JsonBody.value_calls {depth : Nat}
    (h : ∀ s ∈ v.structures, S (.method .toJson s.name)) :
    Yields (Expr.Calls S) (JsonBody.value b v name format depth) := by
  induction v generalizing name format depth with
  | «structure» k s =>
      have hcall := h s (List.mem_singleton_self s)
      rw [JsonBody.value]
      exact meets_ok fun q => by simp [hcall]
  | scalar k s =>
      rw [JsonBody.value]
      exact meets_ok JsonBody.scalar_calls
  | list k l item ih =>
      rw [JsonBody.value]
      exact meets_bind (ih h) fun inner hinner => meets_pure fun q => by simp [hinner]
  | map k m keys values _ ih =>
      have hvalues := fun s hs => h s (List.mem_append_right _ hs)
      rw [JsonBody.value]
      exact meets_bind (ih hvalues) fun inner hinner => meets_pure fun q => by
        simp [hinner]
  | unknown k | endless k => exact meets_error trivial

theorem JsonBody.members_calls (h : b.Holds (fun n => S (.method .toJson n)) l) :
    Yields (Code.Calls S) (JsonBody.members b l) := by
  rw [JsonBody.members]
  split
  · exact meets_pure (by simp)
  · refine meets_bind (meets_mapM (S := Code.Calls S) fun m hm => ?_) fun r hr => ?_
    · refine meets_bind (JsonBody.value_calls (h m hm)) fun inner hinner => ?_
      exact meets_pure (by simp [hinner])
    · exact meets_pure (by simp [Code.calls_all.mpr hr])

/-! ## XML -/

theorem XmlBody.namespaceArgument_calls {n : Option XmlNamespace} :
    (XmlBody.namespaceArgument n).Calls S := by
  intro q
  cases n <;> simp [XmlBody.namespaceArgument]

theorem XmlBody.tagged_calls {tag : String} {c : Code} :
    (XmlBody.tagged tag c).Calls S ↔ c.Calls S := by
  simp [XmlBody.tagged, XmlBody.push]

theorem XmlBody.value_calls {element : XmlBody.Element} {depth : Nat}
    (h : ∀ s ∈ v.structures, S (.method .writeXml s.name)) :
    Yields (Code.Calls S) (XmlBody.value b v name element format depth) := by
  induction v generalizing name element format depth with
  | «structure» k s =>
      have hcall := h s (List.mem_singleton_self s)
      rw [XmlBody.value]
      exact meets_ok (by simp [hcall, XmlBody.namespaceArgument_calls (S := S) _])
  | scalar k s =>
      rw [XmlBody.value]
      refine meets_bind (textOf_calls (S := S) (v := .scalar k s)) fun e he => ?_
      exact meets_pure (by simp [he])
  | list k l item ih =>
      rw [XmlBody.value]
      refine meets_bind (ih h) fun inner hinner => meets_pure ?_
      split
      · simp [hinner]
      · simp [XmlBody.tagged_calls, hinner]
  | map k m keys values _ ih =>
      have hvalues := fun s hs => h s (List.mem_append_right _ hs)
      rw [XmlBody.value]
      refine meets_bind (ih hvalues) fun inner hinner => meets_pure ?_
      split
      · simp [XmlBody.tagged_calls, hinner]
      · simp [XmlBody.tagged_calls, hinner]
  | unknown k | endless k => exact meets_error trivial

theorem XmlBody.attributes_calls : Yields (Code.Calls S) (XmlBody.attributes b l) := by
  refine meets_map (meets_mapM (S := Code.Calls S) fun m hm => ?_)
    fun _ => Code.calls_all.mpr
  refine meets_bind (textOf_calls (S := S)) fun e he => ?_
  exact meets_pure (by simp [he])

theorem XmlBody.elements_calls (h : b.Holds (fun n => S (.method .writeXml n)) l) :
    Yields (Code.Calls S) (XmlBody.elements b l) := by
  refine meets_map (meets_mapM (S := Code.Calls S) fun m hm => ?_)
    fun _ => Code.calls_all.mpr
  refine meets_bind (XmlBody.value_calls (h m (List.mem_of_mem_filter hm))) fun c hc => ?_
  exact meets_pure (by simp [hc])

/-! ## Form parameters -/

theorem QueryBody.value_calls {key : Expr} {flattened : Bool} {depth : Nat}
    (h : ∀ s ∈ v.structures, S (.method .toQuery s.name)) (hkey : key.Calls S) :
    Yields (Code.Calls S) (QueryBody.value b v name key flattened format depth) := by
  induction v generalizing name key flattened format depth with
  | «structure» k s =>
      have hcall := h s (List.mem_singleton_self s)
      rw [QueryBody.value]
      exact meets_ok (by simp [hcall, hkey])
  | scalar k s =>
      rw [QueryBody.value]
      refine meets_bind (textOf_calls (S := S) (v := .scalar k s)) fun e he => ?_
      exact meets_pure (by simp [hkey, he])
  | list k l item ih =>
      rw [QueryBody.value]
      refine meets_bind (ih h fun q => by simp [QueryBody.numberedKey])
        fun inner hinner => ?_
      exact meets_pure (by simp [hkey, hinner])
  | map k m keys values _ ih =>
      have hvalues := fun s hs => h s (List.mem_append_right _ hs)
      rw [QueryBody.value]
      refine meets_bind (ih hvalues fun q => by simp [QueryBody.namedKey])
        fun inner hinner => ?_
      refine meets_pure ?_
      simp [QueryBody.namedKey, QueryBody.numberedKey, hkey, hinner]
  | unknown k | endless k => exact meets_error trivial

theorem QueryBody.members_calls {around : String}
    (h : b.Holds (fun n => S (.method .toQuery n)) l) :
    Yields (Code.Calls S) (QueryBody.members b around l) := by
  refine meets_map (meets_mapM (S := Code.Calls S) fun m hm => ?_)
    fun _ => Code.calls_all.mpr
  refine yields_bind fun key => ?_
  have hkey : (QueryBody.namedKey around key).Calls S :=
    fun q => by simp [QueryBody.namedKey]
  refine meets_bind (QueryBody.value_calls (h m hm) hkey) fun c hc => ?_
  exact meets_pure (by simp [hc])

/-! ## Headers, the query string and the path -/

theorem queryString_calls : Yields (Code.Calls S) (queryString v name format) := by
  unfold queryString
  split
  next k l item =>
    refine meets_bind (textOf_calls (S := S) (v := item)) fun e he => ?_
    exact meets_pure (by simp [forItems, queryParameter, he])
  next k m keys j l item =>
    refine meets_bind (textOf_calls (S := S) (v := item)) fun e he => ?_
    exact meets_pure (by simp [forEntries, forItems, queryParameter, he])
  next k m keys values _ =>
    refine meets_bind (textOf_calls (S := S) (v := values)) fun e he => ?_
    exact meets_pure (by simp [forEntries, queryParameter, he])
  next =>
    refine meets_bind (textOf_calls (S := S)) fun e he => ?_
    exact meets_pure (by simp [queryParameter, he])

theorem whenSet_calls {c : Code} : (whenSet m c).Calls S ↔ c.Calls S := by
  simp [whenSet]

theorem binding_calls : Yields (Code.Calls S) (binding b m) := by
  rw [binding]
  split
  · refine meets_bind (headerOf_calls (S := S)) fun e he => ?_
    exact meets_pure (by simp [whenSet_calls, he])
  · split
    next k map keys values hv =>
      refine meets_bind (textOf_calls (S := S) (v := values)) fun e he => ?_
      exact meets_pure (by simp [whenSet_calls, forEntries, he])
    next => exact meets_error trivial
    next => exact meets_ok (by simp)
  · exact meets_map (queryString_calls (S := S)) fun c hc => whenSet_calls.mpr hc
  all_goals exact meets_ok (by simp)

theorem bindings_calls : Yields (Code.Calls S) (bindings b t) :=
  meets_map (meets_mapM fun _ _ => binding_calls) fun _ => Code.calls_all.mpr

theorem label_calls {input : Option StructureShape} {index : Nat} {p : Placeholder} :
    Yields (fun label => label.statement.Calls S ∧ label.argument.Calls S)
      (label b o input index p) := by
  rw [label]
  split
  · refine meets_bind (textOf_calls (S := S)) fun e he => meets_pure ⟨by simp, fun q => ?_⟩
    split <;> simp [he]
  · exact meets_error trivial

theorem pathOf_calls {input : Option StructureShape} :
    Yields (fun r => r.1.Calls S ∧ r.2.Calls S) (pathOf b o input) := by
  refine meets_pathOf (fun index p _ => label_calls (S := S)) ⟨by simp, fun q => by simp⟩
    fun template all hall => ⟨?_, fun q => ?_⟩
  · rw [Code.calls_all_map]
    exact fun label hlabel => (hall label hlabel).1
  · have harguments : (Expr.separated ", " (all.map (·.argument))).Calls S :=
      Expr.calls_separated (List.forall_mem_map.mpr fun label hlabel =>
        (hall label hlabel).2)
    simp [harguments]

/-! ## Bodies -/

/-- The calls that the request for an input may make. -/
structure Calling (b : Blueprint) (S : Call → Prop) (t : StructureShape) : Prop where
  members : b.Holds (fun n => S (.method b.protocol.writing n)) t.members
  /-- the payload, where it is converted -/
  payload : ∀ m, b.protocol.isRest = true → t.payloadMember? = some m →
    (∀ k s, b.value m.shape ≠ .scalar k s) → S (.method b.protocol.writing (payloadName b m))

theorem Calling.bodyMembers (h : Calling b S t) :
    b.Holds (fun n => S (.method b.protocol.writing n)) t.bodyMembers :=
  h.members.subset fun _ hm => List.mem_of_mem_filter hm

theorem rawPayload_calls {kind : ScalarKind} : (rawPayload kind).Calls S := by
  cases kind <;> simp [rawPayload, fixedHeader]

theorem payloadBody_calls {structured : Code}
    (h : (∀ k s, b.value m.shape ≠ .scalar k s) → structured.Calls S) :
    Yields (Code.Calls S) (payloadBody b m structured) := by
  rw [payloadBody]
  split
  next => exact meets_ok (Code.calls_ifSet.mpr rawPayload_calls)
  next => exact meets_error trivial
  next hscalar _ => exact meets_ok (Code.calls_ifSet.mpr (h hscalar))

theorem jsonBody_calls (h : b.Holds (fun n => S (.method .toJson n)) l) :
    Yields (Code.Calls S) (jsonBody b o l) := by
  refine meets_bind (JsonBody.members_calls h) fun object hobject => meets_pure ?_
  split <;> simp [fixedHeader, objectBody, hobject]

theorem queryBody_calls (h : b.Holds (fun n => S (.method .toQuery n)) l) :
    Yields (Code.Calls S) (queryBody b o l) := by
  refine meets_bind (QueryBody.members_calls h) fun statements hs => meets_pure ?_
  split <;> simp [fixedHeader, hs]

theorem restJsonBody_calls (h : Calling b S t) (hb : b.protocol = .restJson) :
    Yields (Code.Calls S) (restJsonBody b t) := by
  obtain ⟨hpayload, hmembers⟩ := And.intro h.payload h.bodyMembers
  rw [hb] at hpayload hmembers
  rw [restJsonBody]
  split
  next m hm =>
    refine payloadBody_calls fun hv => ?_
    have hcall : S (.method .toJson _) := hpayload m rfl hm hv
    simp [fixedHeader, hcall]
  next =>
    split
    · exact meets_pure (by simp)
    · refine meets_bind (JsonBody.members_calls hmembers) fun c hc => ?_
      exact meets_pure (by simp [fixedHeader, objectBody, hc])

theorem restXmlBody_calls (h : Calling b S t) (hb : b.protocol = .restXml) :
    Yields (Code.Calls S) (restXmlBody b t) := by
  obtain ⟨hpayload, hmembers⟩ := And.intro h.payload h.bodyMembers
  rw [hb] at hpayload hmembers
  rw [restXmlBody]
  split
  next m hm =>
    refine payloadBody_calls fun hv => ?_
    have hcall : S (.method .writeXml _) := hpayload m rfl hm hv
    simp [xmlSent, fixedHeader, hcall, XmlBody.namespaceArgument_calls (S := S) _]
  next =>
    split
    · exact meets_pure (by simp)
    · refine meets_bind (XmlBody.attributes_calls (S := S)) fun a ha => ?_
      refine meets_bind (XmlBody.elements_calls hmembers) fun e he => meets_pure ?_
      split <;> simp [XmlBody.push, xmlSent, fixedHeader, ha, he]

theorem getD_empty_calls {c : Option Code} (h : ∀ code, c = some code → code.Calls S) :
    (c.getD .empty).Calls S := by
  cases c with
  | none => exact Code.calls_empty.mpr trivial
  | some c => exact h c rfl

theorem body_calls {input : Option StructureShape}
    (h : ∀ t, input = some t → Calling b S t) :
    Yields (Code.Calls S) (body b o input) := by
  have hmembers : b.Holds (fun n => S (.method b.protocol.writing n))
      ((input.map (·.bodyMembers)).getD []) := by
    cases input with
    | none => exact fun m hm => absurd hm List.not_mem_nil
    | some t => exact (h t rfl).bodyMembers
  dsimp only [body]
  split
  next hb =>
    rw [hb] at hmembers
    exact jsonBody_calls hmembers
  next hb =>
    rw [hb] at hmembers
    exact queryBody_calls hmembers
  next hb =>
    rw [hb] at hmembers
    exact queryBody_calls hmembers
  next hb =>
    exact meets_map (meets_mapM_option fun t ht => restJsonBody_calls (h t ht) hb)
      fun r => getD_empty_calls
  next hb =>
    exact meets_map (meets_mapM_option fun t ht => restXmlBody_calls (h t ht) hb)
      fun r => getD_empty_calls

/-! ## Requests -/

theorem validation?_calls {c : Code} (h : validation? t = some c) : c.Calls S := by
  dsimp only [validation?] at h
  split at h
  · cases h
  · obtain rfl := Option.some.inj h
    simp

theorem validated_calls : (validated t).Calls S := by
  simp [validated]

theorem idempotencyTokens_calls : (idempotencyTokens t).Calls S := by
  dsimp only [idempotencyTokens]
  split
  · simp
  · simp only [Code.calls_braces, Code.calls_all_cons]
    refine ⟨by simp, ?_⟩
    split <;> simp

theorem staticQuery_calls : (staticQuery o).Calls S := by
  simp [staticQuery, queryParameter]

theorem method_calls {input : Option StructureShape}
    (h : ∀ t, input = some t → Calling b S t) :
    Yields (Code.Calls S) (method b o input) := by
  have hbody := body_calls (o := o) h
  have hsilent : (staticQuery o).Calls S := staticQuery_calls
  refine meets_bind (pathOf_calls (S := S)) fun (labels, path) ⟨hlabels, hpath⟩ => ?_
  cases input with
  | none =>
      refine meets_bind (Q := Code.Calls S) (meets_ok (by simp)) fun bound hbound => ?_
      refine meets_bind hbody fun sent hsent => meets_pure ?_
      split <;> simp [hsilent, hbound, hsent, hlabels, hpath]
  | some t =>
      dsimp only
      split
      · refine meets_bind (bindings_calls (S := S)) fun bound hbound => ?_
        refine meets_bind hbody fun sent hsent => meets_pure ?_
        split <;> simp [hsilent, hbound, hsent, hlabels, hpath, idempotencyTokens_calls,
          validated_calls]
      · refine meets_bind (Q := Code.Calls S) (meets_ok (by simp)) fun bound hbound => ?_
        refine meets_bind hbody fun sent hsent => meets_pure ?_
        split <;> simp [hsilent, hbound, hsent, hlabels, hpath, idempotencyTokens_calls,
          validated_calls]

/-! ## Payloads

The other way round: a payload that is no scalar is converted, whatever else may
be called. -/

theorem payloadBody_converts {structured c : Code}
    (hv : ∀ k s, b.value m.shape ≠ .scalar k s) (h : payloadBody b m structured = .ok c)
    (hc : c.Calls S) : structured.Calls S := by
  rw [payloadBody] at h
  split at h
  next k s heq => exact absurd heq (hv k s)
  next => cases h
  next =>
    obtain rfl := Except.ok.inj h
    exact Code.calls_ifSet.mp hc

theorem body_converts {c : Code} (hrest : b.protocol.isRest = true)
    (hm : t.payloadMember? = some m) (hv : ∀ k s, b.value m.shape ≠ .scalar k s)
    (h : body b o (some t) = .ok c) (hc : c.Calls S) :
    S (.method b.protocol.writing (payloadName b m)) := by
  dsimp only [body] at h
  cases hb : b.protocol with
  | json | query | ec2 =>
      rw [hb] at hrest
      cases hrest
  | restJson =>
      rw [hb] at h
      obtain ⟨r, hr, rfl⟩ := map_eq_ok.mp h
      obtain ⟨c, hbody, rfl⟩ := map_eq_ok.mp hr
      rw [restJsonBody, hm] at hbody
      have hcalls := payloadBody_converts hv hbody hc
      simp only [Code.calls_all_cons, Code.calls_line, Expr.callsAfter_of_cons] at hcalls
      exact Expr.callsAfter_convert.mp hcalls.2.1.2.2.2.1
  | restXml =>
      rw [hb] at h
      obtain ⟨r, hr, rfl⟩ := map_eq_ok.mp h
      obtain ⟨c, hbody, rfl⟩ := map_eq_ok.mp hr
      rw [restXmlBody, hm] at hbody
      have hcalls := payloadBody_converts hv hbody hc
      simp only [Code.calls_all_cons, Code.calls_line, Expr.callsAfter_of_cons] at hcalls
      exact Expr.callsAfter_convert.mp hcalls.2.1.2.2.1

theorem method_converts {c : Code} (hrest : b.protocol.isRest = true)
    (hm : t.payloadMember? = some m) (hv : ∀ k s, b.value m.shape ≠ .scalar k s)
    (h : method b o (some t) = .ok c) (hc : c.Calls S) :
    S (.method b.protocol.writing (payloadName b m)) := by
  obtain ⟨path, -, h⟩ := bind_eq_ok.mp h
  dsimp only at h
  rw [if_pos hrest] at h
  obtain ⟨bound, -, h⟩ := bind_eq_ok.mp h
  obtain ⟨sent, hsent, h⟩ := bind_eq_ok.mp h
  obtain rfl := pure_eq_ok.mp h
  have hcalls : sent.Calls S := by
    simp only [Code.calls_all_cons, Code.calls_braces] at hc
    exact hc.2.1.2.2.2.2.2.1.2.2.1
  exact body_converts hrest hm hv hsent hcalls

end Request

end Clientwright
