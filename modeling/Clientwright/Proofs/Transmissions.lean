import Clientwright.Proofs.Flows
import Clientwright.Proofs.Layouts

/-!
# What requests are made of

A request is put together by several emitters that share the members of the input
among themselves, each with a filter of its own. Here each of them says of the
members that it takes that their fields arrive.

The emitters for texts and JSON yield expressions that read the variable of the
value. Those for XML and forms yield statements, by recursion on the value, and the
variable is carried into the one that collects the body. A member is a statement for
when its field is set, and a list of members is carried as far as its members are,
since no statement of another member drops what is held.
-/

namespace Clientwright

open Outcome Code

namespace Request

variable {b : Blueprint} {v : ValueShape} {m : Member} {l : List Member}
  {t : StructureShape} {o : Operation} {ident name y : String} {format : TimestampFormat}
  {channel : Channel} {given : List String}

/-! ## Text -/

theorem scalarText_reads {kind : ScalarKind} : name ∈ (scalarText kind name format).reads := by
  cases kind <;> exact Expr.mem_reads_of_var (by simp)

theorem textOf_reads : Yields (fun e : Expr => name ∈ e.reads) (textOf v name format) := by
  cases v with
  | scalar k s => exact meets_ok (Q := fun e : Expr => name ∈ e.reads) scalarText_reads
  | «structure» _ _ | list _ _ _ | map _ _ _ _ | unknown _ | endless _ =>
      exact meets_error trivial

theorem headerOf_reads : Yields (fun e : Expr => name ∈ e.reads) (headerOf v name format) := by
  cases v with
  | list k l item => exact yields_bind fun e => meets_pure (Expr.mem_reads_of_var (by simp))
  | scalar k s => exact textOf_reads (v := .scalar k s)
  | «structure» _ _ | map _ _ _ _ | unknown _ | endless _ => exact meets_error trivial

/-! ## JSON -/

theorem JsonBody.scalar_reads {s : ScalarShape} :
    name ∈ (JsonBody.scalar s name format).reads := by
  rw [JsonBody.scalar]
  split
  · exact Expr.mem_reads_of_var (by simp)
  · split <;> exact Expr.mem_reads_of_var (by simp)

theorem JsonBody.value_reads {depth : Nat} :
    Yields (fun e : Expr => name ∈ e.reads) (JsonBody.value b v name format depth) := by
  cases v with
  | «structure» k s => exact meets_ok (Expr.mem_reads_of_var (by simp))
  | scalar k s => exact meets_ok (Q := fun e : Expr => name ∈ e.reads) JsonBody.scalar_reads
  | list k l item => exact yields_bind fun e => meets_pure (Expr.mem_reads_of_var (by simp))
  | map k m keys values =>
      exact yields_bind fun e => meets_pure (Expr.mem_reads_of_var (by simp))
  | unknown k | endless k => exact meets_error trivial

theorem JsonBody.member_carries :
    Yields (Carries (Naming.fieldIdent m.name) [] Collector.object.name)
      (JsonBody.member b m) := by
  refine meets_bind JsonBody.value_reads fun inner hinner => meets_pure ?_
  exact carries_ifSet (carries_line (Expr.mem_reads_of (by simp) hinner)
    (Expr.mem_filled_of_start List.mem_cons_self List.prefix_rfl))

theorem JsonBody.members_carries (hm : m ∈ l) :
    Yields (Carries (Naming.fieldIdent m.name) [] Collector.object.name)
      (JsonBody.members b l) := by
  rw [JsonBody.members, if_neg (by simpa using List.ne_nil_of_mem hm)]
  refine meets_bind (carries_mapM hm JsonBody.member_carries fun m' _ => ?_)
    fun r hr => meets_pure (carries_seq_right hr)
  exact yields_bind fun inner => meets_pure keeps_block

/-! ## XML -/

theorem XmlBody.tagged_carries {tag : String} {c : Code} (h : c.Carries ident [name] y) :
    (XmlBody.tagged tag c).Carries ident [name] y :=
  carries_seq (keeps_line ident) (carries_seq h (carries_seq (keeps_line ident)
    (keeps_empty ident)))

/-- A loop is written as it is where the list or map is flattened. -/
theorem XmlBody.loop_carries {tag : String} {flattened : Bool} {c : Code}
    (h : c.Carries ident [name] y) :
    (if flattened then c else XmlBody.tagged tag c).Carries ident [name] y := by
  split
  · exact h
  · exact XmlBody.tagged_carries h

theorem XmlBody.value_carries {element : XmlBody.Element} {depth : Nat} :
    Yields (Carries ident [name] Collector.text.name)
      (XmlBody.value b v name element format depth) := by
  induction v generalizing name element format depth with
  | «structure» k s =>
      refine meets_ok (carries_line (Expr.mem_reads_of_var List.mem_cons_self) ?_)
      exact Expr.mem_filled_of_ending List.mem_cons_self rfl
  | scalar k s =>
      rw [XmlBody.value]
      refine meets_bind (textOf_reads (v := .scalar k s)) fun e he => meets_pure ?_
      exact carries_line (Expr.mem_reads_of (by simp) he)
        (Expr.mem_filled_of_start List.mem_cons_self List.prefix_rfl)
  | list k l item ih =>
      rw [XmlBody.value]
      refine meets_bind ih fun inner hinner => meets_pure (XmlBody.loop_carries ?_)
      exact carries_forEach (Expr.mem_reads_of_var List.mem_cons_self) rfl hinner
  | map k m keys values _ ih =>
      rw [XmlBody.value]
      refine meets_bind ih fun inner hinner => meets_pure (XmlBody.loop_carries ?_)
      refine carries_forEach (Expr.mem_reads_of_var List.mem_cons_self) rfl ?_
      exact XmlBody.tagged_carries (carries_seq (keeps_line ident) hinner)
  | unknown k | endless k => exact meets_error trivial

theorem XmlBody.attributes_carries (hm : m ∈ l) (hattribute : m.xmlAttribute = true) :
    Yields (Carries (Naming.fieldIdent m.name) [] Collector.text.name)
      (XmlBody.attributes b l) := by
  refine meets_map (carries_mapM (List.mem_filter.mpr ⟨hm, hattribute⟩) ?_ fun m' _ => ?_)
    fun r hr => hr
  · refine meets_bind textOf_reads fun text htext => meets_pure ?_
    exact carries_ifSet (carries_line (Expr.mem_reads_of (by simp) htext)
      (Expr.mem_filled_of_start (List.mem_cons_of_mem _ List.mem_cons_self)
        List.prefix_rfl))
  · exact yields_bind fun text => meets_pure keeps_block

theorem XmlBody.elementOf_keeps : Yields (Keeps y) (XmlBody.elementOf b m) :=
  yields_bind fun _ => meets_pure keeps_block

theorem XmlBody.elements_carries (hm : m ∈ l) (hattribute : m.xmlAttribute = false) :
    Yields (Carries (Naming.fieldIdent m.name) [] Collector.text.name)
      (XmlBody.elements b l) := by
  have hmem : m ∈ l.filter fun m => !m.xmlAttribute :=
    List.mem_filter.mpr ⟨hm, by rw [hattribute]; rfl⟩
  refine meets_map (carries_mapM hmem ?_ fun m' _ => XmlBody.elementOf_keeps) fun r hr => hr
  exact meets_bind XmlBody.value_carries fun c hc => meets_pure (carries_ifSet hc)

theorem XmlBody.elements_keep : Yields (Keeps y) (XmlBody.elements b l) :=
  meets_map (meets_mapM fun _ _ => XmlBody.elementOf_keeps) fun _ => keeps_all

/-! ## Form parameters -/

theorem localName_item_ne_prefix {depth depth' : Nat} :
    localName "item" depth ≠ localName "prefix" depth' :=
  localName_ne 'i' 'p' rfl rfl (by decide)

theorem localName_item_ne_entry {depth depth' : Nat} :
    localName "item" depth ≠ localName "entry" depth' :=
  localName_ne 'i' 'e' rfl rfl (by decide)

theorem QueryBody.value_carries {key : Expr} {flattened : Bool} {depth : Nat}
    (hname : name ≠ localName "prefix" depth) :
    Yields (Carries ident [name] Collector.parameters.name)
      (QueryBody.value b v name key flattened format depth) := by
  induction v generalizing name key flattened format depth with
  | «structure» k s =>
      refine meets_ok (carries_line (Expr.mem_reads_of_var List.mem_cons_self) ?_)
      exact Expr.mem_filled_of_ending List.mem_cons_self rfl
  | scalar k s =>
      rw [QueryBody.value]
      refine meets_bind (textOf_reads (v := .scalar k s)) fun e he => meets_pure ?_
      exact carries_line (Expr.mem_reads_of (by simp) he)
        (Expr.mem_filled_of_start List.mem_cons_self (by decide))
  | list k l item ih =>
      rw [QueryBody.value]
      refine meets_bind (ih localName_item_ne_prefix) fun inner hinner => meets_pure ?_
      refine carries_seq (keeps_bind hname ident) ?_
      refine carries_seq (keeps_when keeps_block ident) ?_
      refine carries_seq ?_ (keeps_empty ident)
      exact carries_forEach (Expr.mem_reads_of_var List.mem_cons_self) rfl hinner
  | map k m keys values _ ih =>
      rw [QueryBody.value]
      refine meets_bind (ih localName_item_ne_prefix) fun inner hinner => meets_pure ?_
      refine carries_seq (keeps_bind hname ident) (carries_seq ?_ (keeps_empty ident))
      refine carries_forEach (Expr.mem_reads_of_var List.mem_cons_self) rfl ?_
      refine carries_seq (keeps_bind localName_item_ne_entry ident) ?_
      exact carries_seq (keeps_line ident) (carries_seq hinner (keeps_empty ident))
  | unknown k | endless k => exact meets_error trivial

theorem QueryBody.members_carries {around : String} (hm : m ∈ l) :
    Yields (Carries (Naming.fieldIdent m.name) [] Collector.parameters.name)
      (QueryBody.members b around l) := by
  refine meets_map (carries_mapM hm ?_ fun m' _ => ?_) fun r hr => hr
  · refine yields_bind fun key => ?_
    exact meets_bind (QueryBody.value_carries (by decide)) fun c hc =>
      meets_pure (carries_ifSet hc)
  · exact yields_bind fun key => yields_bind fun c => meets_pure keeps_block

/-! ## Headers and the query string -/

theorem forEntries_sends {c : Code} (h : c.Sends ident channel ["item"]) :
    (forEntries c).Sends ident channel ["value"] :=
  sends_forEach (Expr.mem_reads_of_var List.mem_cons_self) rfl h

theorem forItems_sends {c : Code} (h : c.Sends ident channel ["item"]) :
    (forItems name c).Sends ident channel [name] :=
  sends_forEach (Expr.mem_reads_of_var List.mem_cons_self) rfl h

theorem queryParameter_sends {key text : Expr} (h : name ∈ text.reads) :
    (queryParameter key text).Sends ident .query [name] :=
  sends_line (Expr.states_of_start List.mem_cons_self List.prefix_rfl)
    (Expr.mem_reads_of (by simp) h)

theorem queryString_sends :
    Yields (Sends ident .query ["value"]) (queryString v name format) := by
  unfold queryString
  split
  next k l item =>
    exact meets_bind (textOf_reads (v := item)) fun e he =>
      meets_pure (forItems_sends (queryParameter_sends he))
  next k m keys j l item =>
    exact meets_bind (textOf_reads (v := item)) fun e he =>
      meets_pure (forEntries_sends (forItems_sends (queryParameter_sends he)))
  next k m keys values _ =>
    exact meets_bind (textOf_reads (v := values)) fun e he =>
      meets_pure (forEntries_sends (queryParameter_sends he))
  next =>
    exact meets_bind textOf_reads fun e he => meets_pure (queryParameter_sends he)

theorem binding_sends_header (h : m.location = .header) :
    Yields (Sends (Naming.fieldIdent m.name) .header []) (binding b m) := by
  rw [binding, h]
  refine meets_bind headerOf_reads fun text htext => meets_pure (sends_ifSet ?_)
  exact sends_line (Expr.states_of_start List.mem_cons_self List.prefix_rfl)
    (Expr.mem_reads_of (by simp) htext)

theorem binding_sends_headers (h : m.location = .headers)
    (hmap : ∃ k s keys values, b.value m.shape = .map k s keys values) :
    Yields (Sends (Naming.fieldIdent m.name) .header []) (binding b m) := by
  obtain ⟨k, s, keys, values, hmap⟩ := hmap
  rw [binding, h, hmap]
  refine meets_bind (textOf_reads (v := values)) fun text htext => meets_pure ?_
  refine sends_ifSet (forEntries_sends ?_)
  exact sends_line (Expr.states_of_start List.mem_cons_self (by decide))
    (Expr.mem_reads_of (by simp) htext)

theorem binding_sends_query (h : m.location = .querystring) :
    Yields (Sends (Naming.fieldIdent m.name) .query []) (binding b m) := by
  rw [binding, h]
  exact meets_map queryString_sends fun c hc => sends_ifSet hc

/-! ## The path -/

theorem localName_inj {role : String} {i j : Nat} :
    localName role i = localName role j ↔ i = j := by
  rw [localName, localName, String.append_right_inj]
  exact Nat.repr_inj

section

variable {input : Option StructureShape} {p : Placeholder} {places : List Placeholder}
  {index i : Nat}

theorem label_carries (h : boundMember? input p = some m) :
    Yields (fun r => r.statement.Carries (Naming.fieldIdent m.name) [] (localName "label" index) ∧
      localName "label" index ∈ r.argument.reads) (label b o input index p) := by
  rw [label, h]
  refine meets_bind textOf_reads fun text htext => meets_pure ⟨?_, ?_⟩
  · exact carries_bind (takes_reference (by decide))
  · exact Expr.mem_reads_of (by simp) htext

/-- The labels of later placeholders have other names. -/
theorem labels_keep (hi : i < index) :
    Yields (fun r => ∀ label ∈ r, label.statement.Keeps (localName "label" i))
      (labels b o input index places) := by
  induction places generalizing index with
  | nil => exact meets_ok nofun
  | cons p places ih =>
      have hne : localName "label" i ≠ localName "label" index :=
        fun h => Nat.ne_of_lt hi (localName_inj.mp h)
      have hlabel : Yields (fun label => label.statement.Keeps (localName "label" i))
          (label b o input index p) := by
        rw [label]
        split
        · exact yields_bind fun text => meets_pure (keeps_bind hne)
        · exact meets_error trivial
      refine meets_bind hlabel fun first hfirst => ?_
      refine meets_bind (ih (Nat.lt_succ_of_lt hi)) fun others hothers => ?_
      exact meets_pure (List.forall_mem_cons.mpr ⟨hfirst, hothers⟩)

theorem labels_carry (hp : p ∈ places) (h : boundMember? input p = some m) :
    Yields (fun r => ∃ name,
      (all (r.map (·.statement))).Carries (Naming.fieldIdent m.name) [] name ∧
        ∃ label ∈ r, name ∈ label.argument.reads) (labels b o input index places) := by
  induction places generalizing index with
  | nil => cases hp
  | cons p' places ih =>
      rcases List.mem_cons.mp hp with rfl | hp
      · refine meets_bind (label_carries h) fun first hfirst => ?_
        refine meets_bind (labels_keep (Nat.lt_succ_self index)) fun others hothers => ?_
        refine meets_pure ⟨_, carries_seq hfirst.1 ?_, first, List.mem_cons_self, hfirst.2⟩
        exact keeps_all (List.forall_mem_map.mpr hothers) _
      · refine yields_bind fun first => meets_bind (ih hp) fun others hothers => ?_
        obtain ⟨name, hname, label, hlabel, hreads⟩ := hothers
        exact meets_pure ⟨name, carries_seq_right hname, label,
          List.mem_cons_of_mem _ hlabel, hreads⟩

theorem pathOf_carries (hp : p ∈ o.http.placeholders) (h : boundMember? input p = some m) :
    Yields (fun r => ∃ name, r.1.Carries (Naming.fieldIdent m.name) [] name ∧
      name ∈ r.2.reads) (pathOf b o input) := by
  rw [pathOf, if_neg (by simpa using List.ne_nil_of_mem hp)]
  generalize o.http.placeholders = places at hp
  refine meets_bind (labels_carry hp h) fun r hr => meets_pure ?_
  obtain ⟨name, hname, label, hlabel, hreads⟩ := hr
  refine ⟨name, hname, Expr.mem_reads_of (e := Expr.separated ", " (r.map (·.argument)))
    (by simp) ?_⟩
  exact Expr.mem_reads_separated (List.mem_map_of_mem hlabel) hreads

end

/-! ## Bodies -/

theorem objectBody_sends : objectBody.Sends ident .body [Collector.object.name] :=
  sends_line (by decide) (by decide)

theorem xmlSent_sends : xmlSent.Sends ident .body [Collector.text.name] :=
  sends_seq (keeps_line ident) (sends_line (by decide) (by decide))

theorem rawPayload_sends {kind : ScalarKind} :
    (rawPayload kind).Sends ident .body ["value"] := by
  have hstart : ∀ {pieces : List Expr}, Channel.body.statements.any
      (Expr.of ("request.body = " :: pieces)).begins = true :=
    Expr.states_of_start List.mem_cons_self List.prefix_rfl
  cases kind with
  | document =>
      refine sends_seq (keeps_line ident) (sends_line ?_ (Expr.mem_reads_of_var (by simp)))
      exact Expr.states_of_start List.mem_cons_self (by decide)
  | _ => exact sends_line hstart (Expr.mem_reads_of_var (by simp))

theorem payloadBody_sends {structured : Code}
    (h : structured.Sends (Naming.fieldIdent m.name) .body ["value"]) :
    Yields (Sends (Naming.fieldIdent m.name) .body []) (payloadBody b m structured) := by
  rw [payloadBody]
  split
  next => exact meets_ok (sends_ifSet rawPayload_sends)
  next => exact meets_error trivial
  next => exact meets_ok (sends_ifSet h)

theorem jsonBody_sends (hm : m ∈ l) :
    Yields (Sends (Naming.fieldIdent m.name) .body []) (jsonBody b o l) := by
  refine meets_bind (JsonBody.members_carries hm) fun object hobject => meets_pure ?_
  exact sends_seq_right (sends_seq_right (sends_seq hobject (sends_seq_left
    objectBody_sends)))

theorem queryBody_sends (hm : m ∈ l) :
    Yields (Sends (Naming.fieldIdent m.name) .body []) (queryBody b o l) := by
  refine meets_bind (QueryBody.members_carries hm) fun statements hs => meets_pure ?_
  refine sends_seq_right (sends_seq_right (sends_seq hs (sends_seq (keeps_line _) ?_)))
  exact sends_seq_left (sends_line (by decide) (by decide))

/-- The member travels in the body: it is the payload of a rest protocol, or it is
among the members for the body and there is no such payload. -/
inductive Embodied (b : Blueprint) (t : StructureShape) (m : Member) : Prop where
  | payload (hrest : b.protocol.isRest = true) (hm : t.payloadMember? = some m)
  | member (hm : m ∈ t.bodyMembers)
      (hpayload : b.protocol.isRest = true → t.payloadMember? = none)

theorem restJsonBody_sends (h : Embodied b t m) (hrest : b.protocol.isRest = true) :
    Yields (Sends (Naming.fieldIdent m.name) .body []) (restJsonBody b t) := by
  rw [restJsonBody]
  cases h with
  | payload _ hm =>
      rw [hm]
      refine payloadBody_sends (sends_seq (keeps_line _) (sends_seq_left ?_))
      exact sends_line (Expr.states_of_start List.mem_cons_self (by decide))
        (Expr.mem_reads_of_var (by simp))
  | member hm hpayload =>
      rw [hpayload hrest]
      dsimp only
      rw [if_neg (by simpa using List.ne_nil_of_mem hm)]
      refine meets_bind (JsonBody.members_carries hm) fun object hobject => meets_pure ?_
      exact sends_seq_right (sends_seq hobject (sends_seq_left objectBody_sends))

theorem restXmlBody_sends (h : Embodied b t m) (hrest : b.protocol.isRest = true) :
    Yields (Sends (Naming.fieldIdent m.name) .body []) (restXmlBody b t) := by
  rw [restXmlBody]
  cases h with
  | payload _ hm =>
      rw [hm]
      refine payloadBody_sends ?_
      refine sends_seq (keeps_line _) (sends_seq ?_ (sends_seq_left xmlSent_sends))
      exact carries_line (Expr.mem_reads_of_var List.mem_cons_self)
        (Expr.mem_filled_of_ending (List.mem_cons_of_mem _ List.mem_cons_self) rfl)
  | member hm hpayload =>
      rw [hpayload hrest]
      dsimp only
      rw [if_neg (by simpa using List.ne_nil_of_mem hm)]
      cases hattribute : m.xmlAttribute with
      | true =>
          refine meets_bind (XmlBody.attributes_carries hm hattribute) fun a ha => ?_
          refine meets_bind (XmlBody.elements_keep (y := Collector.text.name)) fun e he => ?_
          refine meets_pure ?_
          refine sends_seq_right (sends_seq_right (sends_seq_right (sends_seq_right ?_)))
          refine sends_seq ha (sends_seq (keeps_line _) (sends_seq (he _) ?_))
          exact sends_seq (keeps_line _) (sends_seq_left xmlSent_sends)
      | false =>
          refine yields_bind fun a => ?_
          refine meets_bind (XmlBody.elements_carries hm hattribute) fun e he => meets_pure ?_
          refine sends_seq_right (sends_seq_right (sends_seq_right (sends_seq_right ?_)))
          refine sends_seq_right (sends_seq_right (sends_seq he ?_))
          exact sends_seq (keeps_line _) (sends_seq_left xmlSent_sends)

/-- The member is for the body of a protocol that is not a rest protocol. -/
theorem Embodied.mem_bodyMembers (h : Embodied b t m) (hrest : b.protocol.isRest = false) :
    m ∈ t.bodyMembers := by
  cases h with
  | payload h _ => exact absurd h (by rw [hrest]; decide)
  | member hm _ => exact hm

theorem mapM_sends {f : StructureShape → Except EmissionFault Code}
    (h : Yields (Sends ident channel []) (f t)) :
    Yields (Sends ident channel []) (((some t).mapM f).map (·.getD .empty)) := by
  refine meets_map (Q := fun r : Option Code => (r.getD .empty).Sends ident channel [])
    ?_ fun _ hr => hr
  exact meets_map (f := some) h fun c hc => hc

theorem body_sends (h : Embodied b t m) :
    Yields (Sends (Naming.fieldIdent m.name) .body []) (body b o (some t)) := by
  dsimp only [body]
  split
  next hb => exact jsonBody_sends (h.mem_bodyMembers (by rw [hb]; rfl))
  next hb => exact queryBody_sends (h.mem_bodyMembers (by rw [hb]; rfl))
  next hb => exact queryBody_sends (h.mem_bodyMembers (by rw [hb]; rfl))
  next hb => exact mapM_sends (restJsonBody_sends h (by rw [hb]; rfl))
  next hb => exact mapM_sends (restXmlBody_sends h (by rw [hb]; rfl))

/-! ## The method -/

/-- The statements after the labels, for the bindings and the body. -/
def requestContents (o : Operation) (bound sent : Code) : Code := all [staticQuery o, bound, sent]

/-- The statements of the method. -/
def requestStatements (t : StructureShape) (o : Operation) (labels : Code) (path : Expr)
    (contents : Code) : Code :=
  let start : Expr := if contents.isEmpty then "let request" else "let mut request"
  all [
    idempotencyTokens t,
    validated t,
    labels,
    line (.of [start, " = runtime::Request::new(", .quoted o.http.method, ", ", path, ");"]),
    contents,
    text "Ok(request)"]

theorem method_ok {c : Code} (h : method b o (some t) = .ok c) :
    ∃ labels path bound sent,
      pathOf b o (some t) = .ok (labels, path) ∧
      (if b.protocol.isRest then bindings b t else .ok empty) = .ok bound ∧
      body b o (some t) = .ok sent ∧
      ∃ f ∈ c.blocks, f.1.text = requestHead ∧
        f.2 = requestStatements t o labels path (requestContents o bound sent) := by
  obtain ⟨⟨labels, path⟩, hpath, h⟩ := bind_eq_ok.mp h
  dsimp only at h
  split at h
  next hrest =>
    obtain ⟨bound, hbound, h⟩ := bind_eq_ok.mp h
    obtain ⟨sent, hsent, h⟩ := bind_eq_ok.mp h
    obtain rfl := pure_eq_ok.mp h
    exact ⟨labels, path, bound, sent, hpath, (if_pos hrest).trans hbound, hsent, _,
      List.mem_cons_self, rfl, rfl⟩
  next hrest =>
    obtain ⟨bound, hbound, h⟩ := bind_eq_ok.mp h
    obtain ⟨sent, hsent, h⟩ := bind_eq_ok.mp h
    obtain rfl := pure_eq_ok.mp h
    exact ⟨labels, path, bound, sent, hpath, (if_neg hrest).trans hbound, hsent, _,
      List.mem_cons_self, rfl, rfl⟩

section

variable {labels contents bound sent : Code} {path : Expr}

theorem requestStatements_sends_path (hlabels : labels.Carries ident [] name)
    (hpath : name ∈ path.reads) :
    (requestStatements t o labels path contents).Sends ident .path [] := by
  refine sends_seq_right (sends_seq_right (sends_seq hlabels (sends_seq_left ?_)))
  refine sends_line ?_ (Expr.mem_reads_of (e := path) (by simp) hpath)
  split
  · exact Expr.states_of_begins List.mem_cons_self (Expr.begins_of_cons_cons (by decide))
  · exact Expr.states_of_begins (List.mem_cons_of_mem _ List.mem_cons_self)
      (Expr.begins_of_cons_cons (by decide))

theorem requestStatements_sends (h : contents.Sends ident channel []) :
    (requestStatements t o labels path contents).Sends ident channel [] :=
  sends_seq_right (sends_seq_right (sends_seq_right (sends_seq_right (sends_seq_left h))))

theorem requestContents_sends_bound (h : bound.Sends ident channel []) :
    (requestContents o bound sent).Sends ident channel [] :=
  sends_seq_right (sends_seq_left h)

theorem requestContents_sends_body (h : sent.Sends ident channel []) :
    (requestContents o bound sent).Sends ident channel [] :=
  sends_seq_right (sends_seq_right (sends_seq_left h))

end

end Request

end Clientwright
