import Clientwright.Proofs.Arrivals
import Clientwright.Proofs.OutputTypes
import Clientwright.Proofs.PathTemplates

/-!
# Formats of timestamps in headers and addresses

A member that is bound to a label of the path, to headers or to the query string may be a
timestamp, or it may hold timestamps in a list, a map or a list in a map. Which format they have is
decided once, for the member, and is carried down to where the timestamp is written or read. What
the member says comes first there, and then what its shape says; but the shape of a member that
holds timestamps is a list or a map, and what the shape of the timestamps says is overlooked.

`Service.Formats` says which formats the code for a member has. It is the one that is declared, but
for the members of which the format is overlooked.
-/

namespace Clientwright

open Outcome

/-! ## Formats in code -/

/-- The formats of the timestamps in an expression, in order. -/
def Expr.stamps : Expr → List TimestampFormat
  | timestamp format => [format]
  | seq a b => a.stamps ++ b.stamps
  | closure _ body => body.stamps
  | empty | plain _ | quoted _ | var _ | field _ | item _ _ | convert _ _ => []

/-- The formats of the timestamps in the code, in order. -/
def Code.stamps : Code → List TimestampFormat
  | empty => []
  | seq a b => a.stamps ++ b.stamps
  | line e => e.stamps
  | bind _ value => value.stamps
  | block head _ body _ => head.stamps ++ body.stamps
  | branch condition first second => condition.stamps ++ (first.stamps ++ second.stamps)

namespace Expr

@[simp]
theorem stamps_plain (s : String) : (plain s).stamps = [] := rfl

@[simp]
theorem stamps_quoted (s : String) : (quoted s).stamps = [] := rfl

@[simp]
theorem stamps_var (name : String) : (var name).stamps = [] := rfl

@[simp]
theorem stamps_field (ident : String) : (field ident).stamps = [] := rfl

@[simp]
theorem stamps_item (area : Area) (name : String) : (item area name).stamps = [] := rfl

@[simp]
theorem stamps_convert (c : Conversion) (name : String) : (convert c name).stamps = [] := rfl

@[simp]
theorem stamps_timestamp (format : TimestampFormat) : (timestamp format).stamps = [format] :=
  rfl

@[simp]
theorem stamps_closure (params : Pattern) (body : Expr) :
    (closure params body).stamps = body.stamps := rfl

@[simp]
theorem stamps_append (a b : Expr) : (a ++ b).stamps = a.stamps ++ b.stamps := rfl

@[simp]
theorem stamps_of (l : List Expr) : (of l).stamps = l.flatMap stamps := by
  induction l with
  | nil => rfl
  | cons e l ih => exact congrArg (e.stamps ++ ·) ih

@[simp]
theorem stamps_separated (separator : String) (l : List Expr) :
    (separated separator l).stamps = l.flatMap stamps := by
  induction l with
  | nil => rfl
  | cons e l ih =>
      cases l with
      | nil => exact (List.append_nil _).symm
      | cons next l => exact congrArg (e.stamps ++ ·) ih

end Expr

namespace Code

@[simp]
theorem stamps_empty : empty.stamps = [] := rfl

@[simp]
theorem stamps_text (s : String) : (text s).stamps = [] := rfl

@[simp]
theorem stamps_line (e : Expr) : (line e).stamps = e.stamps := rfl

@[simp]
theorem stamps_append (a b : Code) : (a ++ b).stamps = a.stamps ++ b.stamps := rfl

@[simp]
theorem stamps_all (l : List Code) : (all l).stamps = l.flatMap stamps := by
  induction l with
  | nil => rfl
  | cons c l ih => exact congrArg (c.stamps ++ ·) ih

@[simp]
theorem stamps_bind (name : String) (value : Expr) :
    (bind name value).stamps = value.stamps := rfl

@[simp]
theorem stamps_braces (head : Expr) (body : Code) :
    (braces head body).stamps = head.stamps ++ body.stamps := by
  show (head.stamps ++ []) ++ body.stamps = _
  rw [List.append_nil]

@[simp]
theorem stamps_forEach (pattern : Pattern) (subject : Expr) (body : Code) :
    (forEach pattern subject body).stamps = subject.stamps ++ body.stamps := by
  simp [forEach, stamps]

@[simp]
theorem stamps_ifSet (name receiver ident : String) (body : Code) :
    (ifSet name receiver ident body).stamps = body.stamps := by
  simp [ifSet, stamps]

end Code

/-! ## The scalar at the end -/

namespace Service

variable {s : Service} {m : Member} {n : String} {t : ScalarShape}

/-- The scalar that a value is, or that the lists and maps in it have at their end. -/
inductive EndsIn (s : Service) : String → ScalarShape → Prop where
  | scalar {n : String} {t : ScalarShape} (h : s.shape? n = some (.scalar t)) : EndsIn s n t
  | item {n : String} {l : ListShape} {t : ScalarShape} (h : s.shape? n = some (.list l))
      (hitem : EndsIn s l.member.shape t) : EndsIn s n t
  | value {n : String} {x : MapShape} {t : ScalarShape} (h : s.shape? n = some (.map x))
      (hvalue : EndsIn s x.value.shape t) : EndsIn s n t

theorem EndsIn.unique {t' : ScalarShape} (h : s.EndsIn n t) (h' : s.EndsIn n t') : t = t' := by
  induction h with
  | scalar h =>
      cases h' with
      | scalar h' => exact Shape.scalar.inj (Option.some.inj (h.symm.trans h'))
      | item h' | value h' => cases h.symm.trans h'
  | item h _ ih =>
      cases h' with
      | item h' hitem =>
          obtain rfl := Shape.list.inj (Option.some.inj (h.symm.trans h'))
          exact ih hitem
      | scalar h' | value h' => cases h.symm.trans h'
  | value h _ ih =>
      cases h' with
      | value h' hvalue =>
          obtain rfl := Shape.map.inj (Option.some.inj (h.symm.trans h'))
          exact ih hvalue
      | scalar h' | item h' => cases h.symm.trans h'

end Service

/-- The scalar at the end of an unfolded value. -/
def ValueShape.innermost? : ValueShape → Option ScalarShape
  | .scalar _ t => some t
  | .list _ _ item => item.innermost?
  | .map _ _ _ values => values.innermost?
  | .structure _ _ | .unknown _ | .endless _ => none

theorem Service.endsIn_valueWithin {s : Service} {available : List String} {n : String}
    {t : ScalarShape} (h : (s.valueWithin available n).innermost? = some t) : s.EndsIn n t := by
  fun_induction Service.valueWithin s available n with
  | case1 => cases h
  | case2 => cases h
  | case3 available n u hshape => exact .scalar (Option.some.inj h ▸ hshape)
  | case4 available n l hshape hmem ih => exact .item hshape (ih h)
  | case5 => cases h
  | case6 available n x hshape hmem _ ih => exact .value hshape (ih h)
  | case7 => cases h

theorem Service.shape?_of_value_map {s : Service} {n k : String} {x : MapShape}
    {keys values : ValueShape} (h : s.value n = .map k x keys values) :
    s.shape? n = some (.map x) := by
  rw [value, valueWithin] at h
  split at h
  next => cases h
  next => cases h
  next => cases h
  next => split at h <;> cases h
  next y hy =>
    split at h
    · cases h
      exact hy
    · cases h

/-- The formats in the code for a scalar, if timestamps have the format there. -/
def ScalarShape.stamps (t : ScalarShape) (format : TimestampFormat) : List TimestampFormat :=
  if t.kind = .timestamp then [format] else []

/-! ## The format that is declared, and the one that is used -/

/-- The format that a location uses for what may be bound there. -/
def Location.usualFormat : Location → TimestampFormat
  | .header | .headers => .rfc822
  | .uri | .querystring | .body | .statusCode => .iso8601

/-- The format that is declared for the timestamps of a member: its own, or the one of the
timestamp's shape, or the one of its location. -/
def Member.declaredFormat (m : Member) (t : ScalarShape) : TimestampFormat :=
  (m.timestampFormat.or t.timestampFormat).getD m.location.usualFormat

/-- The member is bound to the path, to headers or to the query string. -/
def Member.IsBound (m : Member) : Prop :=
  m.location = .uri ∨ m.location = .header ∨ m.location = .headers ∨ m.location = .querystring

namespace Service

variable {s : Service} {m : Member} {t : ScalarShape}

/-- What the shape of the timestamps says is overlooked: the member says nothing, it holds the
timestamps in a list or a map, and their shape asks for another format than is usual there. -/
structure Overlooks (s : Service) (m : Member) (t : ScalarShape) : Prop where
  silent : m.timestampFormat = none
  held : ∀ t', s.shape? m.shape ≠ some (.scalar t')
  named : ∃ format, t.timestampFormat = some format ∧ format ≠ m.location.usualFormat

/-- The formats of the timestamps in the code for a member. -/
inductive Formats (s : Service) (m : Member) : List TimestampFormat → Prop where
  /-- it holds no timestamps -/
  | other {t : ScalarShape} (h : s.EndsIn m.shape t) (hkind : t.kind ≠ .timestamp) : Formats s m []
  /-- they have the declared format -/
  | declared {t : ScalarShape} (h : s.EndsIn m.shape t) (hkind : t.kind = .timestamp)
      (hseen : ¬ s.Overlooks m t) : Formats s m [m.declaredFormat t]
  /-- they have the format that is usual, and another one is declared -/
  | overlooked {t : ScalarShape} (h : s.EndsIn m.shape t) (hkind : t.kind = .timestamp)
      (hoverlooked : s.Overlooks m t) : Formats s m [m.location.usualFormat]

/-- A request has something for the member outside of its body and its path: a header, headers that
are made from a map, or parameters of the query string. -/
inductive BindsInRequest (s : Service) (m : Member) : Prop where
  | header (h : m.location = .header)
  | headers (h : m.location = .headers) {x : MapShape} (hmap : s.shape? m.shape = some (.map x))
  | querystring (h : m.location = .querystring)

/-- The timestamps in the code for a member have the formats of the member, if the member is bound
there. Otherwise there are none. -/
structure Stamped (s : Service) (binds : Member → Prop) (m : Member) (c : Code) : Prop where
  bound : binds m → s.Formats m c.stamps
  other : ¬ binds m → c.stamps = []

theorem usualFormat_eq (h : m.IsBound) :
    m.location.timestampFormat? = some m.location.usualFormat := by
  rcases h with h | h | h | h <;> rw [h] <;> rfl

theorem memberFormat_of_isBound (h : m.IsBound) : s.memberFormat m =
    (m.timestampFormat.or (s.formatOf? m.shape)).getD m.location.usualFormat := by
  rw [memberFormat, usualFormat_eq h]
  cases m.timestampFormat with
  | some format => rfl
  | none => cases s.formatOf? m.shape <;> rfl

theorem formatOf?_eq_none {n : String} (h : ∀ t, s.shape? n ≠ some (.scalar t)) :
    s.formatOf? n = none := by
  rw [formatOf?]
  split
  next t ht => exact absurd ht (h t)
  next => rfl

/-- A format is overlooked exactly if it makes a difference. -/
theorem memberFormat_eq_declaredFormat_iff (hm : m.IsBound) (h : s.EndsIn m.shape t) :
    s.memberFormat m = m.declaredFormat t ↔ ¬ s.Overlooks m t := by
  rw [memberFormat_of_isBound hm, Member.declaredFormat]
  cases hown : m.timestampFormat with
  | some format =>
      refine iff_of_true rfl fun ho => ?_
      cases hown.symm.trans ho.silent
  | none =>
      rw [Option.none_or, Option.none_or]
      by_cases hscalar : ∃ t', s.shape? m.shape = some (.scalar t')
      · obtain ⟨t', ht'⟩ := hscalar
        obtain rfl := h.unique (.scalar ht')
        have hformat : s.formatOf? m.shape = t.timestampFormat := by
          rw [formatOf?, ht']
        rw [hformat]
        exact iff_of_true rfl fun ho => ho.held t ht'
      · have hheld : ∀ t', s.shape? m.shape ≠ some (.scalar t') := not_exists.mp hscalar
        rw [formatOf?_eq_none hheld, Option.getD_none]
        cases hnamed : t.timestampFormat with
        | none =>
            refine iff_of_true rfl fun ho => ?_
            obtain ⟨f, hf, -⟩ := ho.named
            cases hnamed.symm.trans hf
        | some format =>
            rw [Option.getD_some]
            refine ⟨fun heq ho => ?_, fun hseen => ?_⟩
            · obtain ⟨f, hf, hne⟩ := ho.named
              rw [hnamed] at hf
              exact hne (Option.some.inj hf ▸ heq.symm)
            · by_contra hne
              exact hseen ⟨hown, hheld, format, hnamed, Ne.symm hne⟩

/-- The format that is used where another one is overlooked. -/
theorem Overlooks.memberFormat (ho : s.Overlooks m t) (hm : m.IsBound) :
    s.memberFormat m = m.location.usualFormat := by
  rw [memberFormat_of_isBound hm, ho.silent, formatOf?_eq_none ho.held]
  rfl

theorem formats_memberFormat (hm : m.IsBound) (h : s.EndsIn m.shape t) :
    s.Formats m (t.stamps (s.memberFormat m)) := by
  rw [ScalarShape.stamps]
  split
  next hkind =>
    by_cases ho : s.Overlooks m t
    · rw [ho.memberFormat hm]
      exact .overlooked h hkind ho
    · rw [(memberFormat_eq_declaredFormat_iff hm h).mpr ho]
      exact .declared h hkind ho
  next hkind => exact .other h hkind

end Service

theorem Blueprint.formats_of_stamps {b : Blueprint} {m : Member} {l : List TimestampFormat}
    (hm : m.IsBound)
    (h : ∃ t, (b.value m.shape).innermost? = some t ∧ l = t.stamps (b.memberFormat m)) :
    b.service.Formats m l := by
  obtain ⟨t, ht, rfl⟩ := h
  rw [b.memberFormat_eq]
  exact Service.formats_memberFormat hm (Service.endsIn_valueWithin ht)

/-! ## Requests -/

namespace Request

variable {b : Blueprint} {m : Member} {v : ValueShape} {name : String} {format : TimestampFormat}
  {o : Operation} {t : StructureShape} {u : ScalarShape}

@[simp]
theorem stamps_scalarText :
    (scalarText u.kind name format).stamps = u.stamps format := by
  rw [ScalarShape.stamps]
  cases u.kind <;> rfl

theorem stamps_textOf {e : Expr} (h : textOf v name format = .ok e) :
    ∃ t, v.innermost? = some t ∧ e.stamps = t.stamps format := by
  cases v with
  | scalar key t =>
      obtain rfl := Except.ok.inj h
      exact ⟨t, rfl, stamps_scalarText⟩
  | «structure» _ _ | list _ _ _ | map _ _ _ _ | unknown _ | endless _ => cases h

/-- Code around the text of a scalar. -/
theorem stamps_around {f : Expr → Code} {c : Code}
    (h : (textOf v name format >>= fun e => pure (f e)) = .ok c)
    (hf : ∀ e, (f e).stamps = e.stamps) :
    ∃ t, v.innermost? = some t ∧ c.stamps = t.stamps format := by
  obtain ⟨e, he, h⟩ := bind_eq_ok.mp h
  obtain rfl := pure_eq_ok.mp h
  rw [hf]
  exact stamps_textOf he

theorem stamps_headerOf {e : Expr} (h : headerOf v name format = .ok e) :
    ∃ t, v.innermost? = some t ∧ e.stamps = t.stamps format := by
  cases v with
  | list key l item =>
      obtain ⟨inner, hinner, h⟩ := bind_eq_ok.mp h
      obtain rfl := pure_eq_ok.mp h
      obtain ⟨t, ht, hstamps⟩ := stamps_textOf hinner
      exact ⟨t, ht, by simpa using hstamps⟩
  | scalar _ _ => exact stamps_textOf h
  | «structure» _ _ | map _ _ _ _ | endless _ | unknown _ => cases h

theorem stamps_queryString {c : Code} (h : queryString v name format = .ok c) :
    ∃ t, v.innermost? = some t ∧ c.stamps = t.stamps format := by
  unfold queryString at h
  dsimp only at h
  split at h
  · have hstamps := stamps_around h fun e => by simp [forItems, queryParameter]
    exact hstamps
  · have hstamps := stamps_around h fun e => by simp [forEntries, forItems, queryParameter]
    exact hstamps
  · have hstamps := stamps_around h fun e => by simp [forEntries, queryParameter]
    exact hstamps
  · exact stamps_around h fun e => by simp [queryParameter]

/-- A binding has the formats of its member. -/
theorem stamped_binding {c : Code} (h : binding b m = .ok c) :
    b.service.Stamped b.service.BindsInRequest m c := by
  unfold binding at h
  dsimp only at h
  split at h
  next hlocation =>
    refine ⟨fun _ => b.formats_of_stamps (.inr (.inl hlocation)) ?_,
      fun hnot => absurd (.header hlocation) hnot⟩
    obtain ⟨text, htext, h⟩ := bind_eq_ok.mp h
    obtain rfl := pure_eq_ok.mp h
    simpa [whenSet] using stamps_headerOf htext
  next hlocation =>
    split at h
    next key x keys values hvalue =>
      have hmap : b.service.shape? m.shape = some (.map x) := Service.shape?_of_value_map hvalue
      refine ⟨fun _ => b.formats_of_stamps (.inr (.inr (.inl hlocation))) ?_,
        fun hnot => absurd (.headers hlocation hmap) hnot⟩
      have hstamps := stamps_around h fun e => by simp [whenSet, forEntries]
      rw [hvalue]
      exact hstamps
    next => cases h
    next hother _ =>
      obtain rfl := Except.ok.inj h
      refine ⟨fun hbinds => ?_, fun _ => rfl⟩
      cases hbinds with
      | headers _ hmap =>
          obtain ⟨keys, values, hvalue⟩ := Blueprint.value_of_map hmap
          exact (hother _ _ _ _ hvalue).elim
      | header h | querystring h => cases hlocation.symm.trans h
  next hlocation =>
    refine ⟨fun _ => b.formats_of_stamps (.inr (.inr (.inr hlocation))) ?_,
      fun hnot => absurd (.querystring hlocation) hnot⟩
    obtain ⟨query, hquery, rfl⟩ := map_eq_ok.mp h
    simpa [whenSet] using stamps_queryString hquery
  all_goals
    next hlocation =>
    obtain rfl := Except.ok.inj h
    refine ⟨fun hbinds => ?_, fun _ => rfl⟩
    cases hbinds with
    | header h | headers h _ | querystring h => cases hlocation.symm.trans h

theorem stamped_bindings {c : Code} (h : bindings b t = .ok c) :
    ∃ codes, c = .all codes ∧
      List.Forall₂ (b.service.Stamped b.service.BindsInRequest) t.members codes := by
  obtain ⟨codes, hcodes, rfl⟩ := map_eq_ok.mp h
  exact ⟨codes, rfl, (mapM_eq_ok.mp hcodes).imp fun _ _ => stamped_binding⟩

/-- The label of a placeholder has the formats of the member that is bound to it. -/
structure LabelStamped (b : Blueprint) (t : StructureShape) (p : Placeholder) (l : Label) :
    Prop where
  statement : l.statement.stamps = []
  argument : ∃ m, BindsFirst t p m ∧ b.service.Formats m l.argument.stamps

theorem stamped_label {index : Nat} {p : Placeholder} {l : Label}
    (h : label b o (some t) index p = .ok l) : LabelStamped b t p l := by
  obtain ⟨_, m, key, u, ht, hfirst, hvalue, hstatement, hargument⟩ := isLabel_of_label h
  obtain rfl := Option.some.inj ht
  have hlocation : m.location = .uri := by
    obtain ⟨_, _, _, hlocation, _⟩ := hfirst
    exact hlocation
  have hstamps : l.argument.stamps = u.stamps (b.memberFormat m) := by
    rw [hargument]
    cases p.greedy <;> simp
  refine ⟨by simp [hstatement], m, hfirst, b.formats_of_stamps (.inl hlocation) ?_⟩
  exact ⟨u, by rw [hvalue]; rfl, hstamps⟩

theorem stamped_labels {index : Nat} {places : List Placeholder} {l : List Label}
    (h : labels b o (some t) index places = .ok l) :
    List.Forall₂ (LabelStamped b t) places l := by
  induction places generalizing index l with
  | nil =>
      obtain rfl := Except.ok.inj h
      exact .nil
  | cons p places ih =>
      obtain ⟨first, hfirst, h⟩ := bind_eq_ok.mp h
      obtain ⟨others, hothers, h⟩ := bind_eq_ok.mp h
      obtain rfl := pure_eq_ok.mp h
      exact .cons (stamped_label hfirst) (ih hothers)

/-- The timestamps in a path are those in its labels. -/
theorem stamped_pathOf {statements : Code} {path : Expr}
    (h : pathOf b o (some t) = .ok (statements, path)) :
    ∃ l, statements = .all (l.map (·.statement)) ∧
      path.stamps = l.flatMap (·.argument.stamps) ∧
        List.Forall₂ (LabelStamped b t) o.http.placeholders l := by
  rw [pathOf] at h
  split at h
  next hplaces =>
    obtain ⟨rfl, rfl⟩ := Prod.mk.inj (pure_eq_ok.mp h)
    rw [List.isEmpty_iff] at hplaces
    exact ⟨[], rfl, rfl, hplaces ▸ .nil⟩
  next =>
    obtain ⟨l, hl, h⟩ := bind_eq_ok.mp h
    obtain ⟨rfl, rfl⟩ := Prod.mk.inj (pure_eq_ok.mp h)
    exact ⟨l, rfl, by simp [List.flatMap_map], stamped_labels hl⟩

theorem stamps_rawPayload {kind : ScalarKind} : (rawPayload kind).stamps = [] := by
  cases kind <;> rfl

theorem stamps_payloadBody {structured c : Code} (h : payloadBody b m structured = .ok c)
    (hstructured : structured.stamps = []) : c.stamps = [] := by
  unfold payloadBody at h
  split at h
  next =>
    obtain rfl := Except.ok.inj h
    simp [stamps_rawPayload]
  next => cases h
  next =>
    obtain rfl := Except.ok.inj h
    simpa using hstructured

/-- There are no timestamps in a body that one member makes up alone. -/
theorem stamps_body {c : Code} (hrest : b.protocol.isRest = true)
    (hm : t.payloadMember? = some m) (h : body b o (some t) = .ok c) : c.stamps = [] := by
  dsimp only [body] at h
  split at h
  next hb => exact absurd (hb ▸ hrest) (by decide)
  next hb => exact absurd (hb ▸ hrest) (by decide)
  next hb => exact absurd (hb ▸ hrest) (by decide)
  next =>
    obtain ⟨found, hfound, rfl⟩ := map_eq_ok.mp h
    obtain ⟨c, hc, rfl⟩ := map_eq_ok.mp hfound
    rw [restJsonBody, hm] at hc
    exact stamps_payloadBody hc (by simp [fixedHeader])
  next =>
    obtain ⟨found, hfound, rfl⟩ := map_eq_ok.mp h
    obtain ⟨c, hc, rfl⟩ := map_eq_ok.mp hfound
    rw [restXmlBody, hm] at hc
    refine stamps_payloadBody hc ?_
    cases hns : m.xmlNamespace.or ((b.service.structure? m.shape).bind (·.xmlNamespace)) <;>
      simp [fixedHeader, xmlSent, XmlBody.namespaceArgument]

/-- The statements of a request's method. The labels and the bindings have the formats of their
members; the body is for other members, or for one that makes it up alone. -/
inductive Stamped (b : Blueprint) (o : Operation) (t : StructureShape) : Code → Prop where
  | intro {l : List Label} {path : Expr} {codes : List Code} {sent : Code}
      (hpath : path.stamps = l.flatMap (·.argument.stamps))
      (hlabels : List.Forall₂ (LabelStamped b t) o.http.placeholders l)
      (hbound : List.Forall₂ (b.service.Stamped b.service.BindsInRequest) t.members codes)
      (hsent : body b o (some t) = .ok sent)
      (hpayload : ∀ m, t.payloadMember? = some m → sent.stamps = []) :
      Stamped b o t (requestStatements t o (.all (l.map (·.statement))) path
        (requestContents o (.all codes) sent))

theorem stamped_method {c : Code} (hrest : b.protocol.isRest = true)
    (h : method b o (some t) = .ok c) :
    ∃ f ∈ c.blocks, f.1.text = Code.requestHead ∧ Stamped b o t f.2 := by
  obtain ⟨labels, path, bound, sent, hpath, hbound, hsent, f, hf, hhead, hstatements⟩ :=
    method_ok h
  rw [if_pos hrest] at hbound
  obtain ⟨l, rfl, hstamps, hl⟩ := stamped_pathOf hpath
  obtain ⟨codes, rfl, hcodes⟩ := stamped_bindings hbound
  exact ⟨f, hf, hhead, hstatements ▸
    .intro hstamps hl hcodes hsent fun m hm => stamps_body hrest hm hsent⟩

end Request

/-! ## Responses -/

namespace Response

variable {b : Blueprint} {t : StructureShape} {m : Member} {v : ValueShape} {u : ScalarShape}
  {key name : String} {format : TimestampFormat} {o : Operation}

/-- A response has something for the member outside of its body: a header, or headers with one
beginning. -/
def Binds (m : Member) : Prop := m.location = .header ∨ m.location = .headers

@[simp]
theorem stamps_fromText : (fromText b key).stamps = [] := rfl

theorem stamps_scalarFromText :
    (scalarFromText b key u name format).stamps = u.stamps format := by
  rw [scalarFromText, ScalarShape.stamps]
  split
  next henum => simp [(Service.isEnum_iff.mp henum).1]
  next => cases u.kind <;> rfl

theorem stamps_textOf {e : Expr} (h : textOf b v name format = .ok e) :
    ∃ u, v.innermost? = some u ∧ e.stamps = u.stamps format := by
  cases v with
  | scalar key u =>
      obtain rfl := Except.ok.inj h
      exact ⟨u, rfl, stamps_scalarFromText⟩
  | «structure» _ _ | list _ _ _ | map _ _ _ _ | unknown _ | endless _ => cases h

theorem stamps_headerOf {e : Expr} (h : headerOf b v name format = .ok e) :
    ∃ u, v.innermost? = some u ∧ e.stamps = u.stamps format := by
  cases v with
  | list _ _ item =>
      obtain ⟨inner, hinner, h⟩ := bind_eq_ok.mp h
      obtain rfl := pure_eq_ok.mp h
      obtain ⟨u, hu, hstamps⟩ := stamps_textOf hinner
      exact ⟨u, hu, by simpa using hstamps⟩
  | scalar _ _ => exact stamps_textOf h
  | «structure» _ _ | map _ _ _ _ | endless _ | unknown _ => cases h

@[simp]
theorem stamps_assign {value : Expr} : (assign m value).stamps = value.stamps := by
  simp [assign]

/-- What reads a member has the formats of the member. -/
theorem stamped_binding {c : Code} (h : binding b t m = .ok c) :
    b.service.Stamped Binds m c := by
  unfold binding at h
  dsimp only at h
  split at h
  next hlocation =>
    obtain ⟨inner, hinner, h⟩ := bind_eq_ok.mp h
    obtain rfl := pure_eq_ok.mp h
    refine ⟨fun _ => b.formats_of_stamps (.inr (.inl hlocation)) ?_,
      fun hnot => absurd (.inl hlocation) hnot⟩
    simpa using stamps_headerOf hinner
  next hlocation =>
    split at h
    next hvalue =>
      obtain ⟨inner, hinner, h⟩ := bind_eq_ok.mp h
      obtain rfl := pure_eq_ok.mp h
      refine ⟨fun _ => b.formats_of_stamps (.inr (.inr (.inl hlocation))) ?_,
        fun hnot => absurd (.inr hlocation) hnot⟩
      obtain ⟨u, hu, hstamps⟩ := stamps_textOf hinner
      rw [hvalue]
      exact ⟨u, hu, by simpa using hstamps⟩
    next => cases h
    next => cases h
  all_goals
    next hlocation =>
    obtain rfl := Except.ok.inj h
    refine ⟨fun hbinds => ?_, fun _ => by simp⟩
    rcases hbinds with h | h <;> cases hlocation.symm.trans h

/-- There are no timestamps in what reads a body that one member makes up alone. -/
theorem stamps_payload {c : Code} (h : payload b t m = .ok c) : c.stamps = [] := by
  unfold payload at h
  dsimp only at h
  split at h
  next =>
    obtain rfl := Except.ok.inj h
    split
    · simp
    · simp
    · split <;> simp [Blueprint.typeItem]
  next =>
    split at h <;>
    · obtain rfl := Except.ok.inj h
      split <;> simp [withDocument, Code.stamps, Blueprint.typeItem]
  all_goals cases h

/-- The statements that read a response with members. The headers have the formats of their
members; the body is for other members, or for one that makes it up alone. -/
inductive Stamped (b : Blueprint) (o : Operation) (t : StructureShape) : Code → Prop where
  | intro {read : Code} {codes : List Code}
      (hread : t.payloadMember? = none → body b o t = .ok read)
      (hpayload : ∀ m, t.payloadMember? = some m → read.stamps = [])
      (hbound : List.Forall₂ (b.service.Stamped Binds) t.members codes) :
      Stamped b o t (.all [.text "let mut output = Self::default();", read, .all codes,
        .text "Ok(output)"])

theorem stamped_method {c : Code} (hmembers : t.members ≠ []) (h : method b o t = .ok c) :
    ∃ statements, c = methodCode "response" statements ∧ Stamped b o t statements := by
  rw [method, if_neg (by simpa using hmembers)] at h
  dsimp only at h
  split at h
  next m hm =>
    obtain ⟨read, hread, h⟩ := bind_eq_ok.mp h
    obtain ⟨codes, hcodes, h⟩ := bind_eq_ok.mp h
    obtain rfl := pure_eq_ok.mp h
    exact ⟨_, rfl, .intro (fun hnone => absurd (hm.symm.trans hnone) (Option.some_ne_none m))
      (fun _ _ => stamps_payload hread)
      ((mapM_eq_ok.mp hcodes).imp fun _ _ => stamped_binding)⟩
  next hnone =>
    obtain ⟨read, hread, h⟩ := bind_eq_ok.mp h
    obtain ⟨codes, hcodes, h⟩ := bind_eq_ok.mp h
    obtain rfl := pure_eq_ok.mp h
    exact ⟨_, rfl, .intro (fun _ => hread)
      (fun m hm => absurd (hm.symm.trans hnone) (Option.some_ne_none m))
      ((mapM_eq_ok.mp hcodes).imp fun _ _ => stamped_binding)⟩

end Response

/-! ## Files -/

/-- There is a method of the type in the code. -/
def Code.HasMethod (c : Code) (type head : String) (statements : Code) : Prop :=
  ∃ block ∈ c.blocks, block.1.text = "impl " ++ type ++ " \x7b" ∧
    ∃ f ∈ block.2.blocks, f.1.text = head ∧ f.2 = statements

namespace Crate

variable {b : Blueprint} {o : Operation} {t : StructureShape} {code : Code}

theorem stamped_inputFile (hrest : b.protocol.isRest = true) (ht : b.service.inputOf? o = some t)
    (h : inputFile b o = .ok code) :
    ∃ statements, code.HasMethod (inputType o) Code.requestHead statements ∧
      Request.Stamped b o t statements := by
  obtain ⟨request, fields, hrequest, rfl⟩ := inputFile_ok h
  rw [ht] at hrequest ⊢
  obtain ⟨f, hf, hhead, hstamped⟩ := Request.stamped_method hrest hrequest
  obtain ⟨block, hblock, htype, hf⟩ := exists_implemented (inputType o) fields
    (mem_blocks_inputMethods (some t) hf)
  exact ⟨f.2, ⟨block, Code.mem_blocks_all.mpr ⟨_, by simp, hblock⟩, htype, f, hf, hhead, rfl⟩,
    hstamped⟩

theorem stamped_outputFile (ht : b.service.outputOf? o = some t) (hmembers : t.members ≠ [])
    (h : outputFile? b o = .ok (some code)) :
    ∃ statements, code.HasMethod (outputType o) (Code.responseHead "response") statements ∧
      Response.Stamped b o t statements := by
  rw [outputFile?, ht] at h
  obtain ⟨method, hmethod, h⟩ := bind_eq_ok.mp h
  obtain ⟨fields, -, h⟩ := bind_eq_ok.mp h
  obtain rfl := Option.some.inj (pure_eq_ok.mp h)
  obtain ⟨statements, rfl, hstamped⟩ := Response.stamped_method hmembers hmethod
  have hmethod : _ ∈ (Response.methodCode "response" statements).blocks := List.mem_cons_self
  obtain ⟨block, hblock, htype, hf⟩ := exists_implemented (outputType o) fields hmethod
  exact ⟨statements, ⟨block, Code.mem_blocks_all.mpr ⟨_, by simp, hblock⟩, htype, _, hf,
    methodHead_text (.inl rfl), rfl⟩, hstamped⟩

/-- In a rest protocol, each timestamp that goes into the path, the headers or the query string of
a request, and each one that is read from the headers of a response, has the format that is
declared for it, but for those of which the format is overlooked. -/
theorem bound_timestamps_formatted (b : Blueprint) (o : Operation)
    (hrest : b.protocol.isRest = true) :
    (∀ t code, b.service.inputOf? o = some t → inputFile b o = .ok code →
      ∃ statements, code.HasMethod (inputType o) Code.requestHead statements ∧
        Request.Stamped b o t statements) ∧
    ∀ t code, b.service.outputOf? o = some t → t.members ≠ [] →
      outputFile? b o = .ok (some code) →
        ∃ statements, code.HasMethod (outputType o) (Code.responseHead "response") statements ∧
          Response.Stamped b o t statements :=
  ⟨fun _ _ => stamped_inputFile hrest, fun _ _ => stamped_outputFile⟩

end Crate

/-! ## An example

The hour of a tide is in the path, and the hours of others are in a header, and both are of one
shape. -/

namespace Definition

/-- The definition of the tides. -/
def tides : Definition where
  version := none
  metadata :=
    { apiVersion := "1", endpointPrefix := "tides",
      protocol := some "rest-json", protocols := [], serviceId := none,
      serviceAbbreviation := none, serviceFullName := none, jsonVersion := none,
      targetPrefix := none, xmlNamespace := none, signingName := none,
      signatureVersion := none }
  operations :=
    [("NoteTide",
      { name := none, http := { method := "PUT", requestUri := "/tides/\x7bHour\x7d" },
        input := some ⟨"Tide", none⟩, output := some ⟨"Tide", none⟩,
        errors := [], documentation := none, deprecated := false })]
  shapes :=
    [("Tide", { ShapeEntry.bare "structure" with
        members := [
          ("Hour", MemberEntry.located "Hour" "uri"),
          ("Others", MemberEntry.located "Hours" "header")] }),
      ("Hours", { ShapeEntry.bare "list" with member := some ⟨"Hour", none⟩ }),
      ("Hour", { ShapeEntry.bare "timestamp" with timestampFormat := some "iso8601" })]
  documentation := none

end Definition

/-- The documents of the tides. -/
def Sources.tides : Sources where
  definition := Definition.tides
  givenName := none
  paginators := none
  waiters := none

/-- The blueprint of the tides. -/
def tideBlueprint (s : Service) : Blueprint :=
  ⟨s, ⟨["NoteTide"], [], [], []⟩, TypeNames.assign s, s.boxedMembers⟩

/-- A member of a tide. -/
def Member.ofTide (name shape : String) (location : Location) : Member where
  name
  shape
  required := false
  location
  locationName := none
  queryName := none
  streaming := false
  idempotencyToken := false
  flattened := false
  xmlAttribute := false
  xmlNamespace := none
  timestampFormat := none
  documentation := none
  deprecated := false

/-- The members of a tide. -/
def tideMembers : List Member := [.ofTide "Hour" "Hour" .uri, .ofTide "Others" "Hours" .header]

/-- The shape of an hour. -/
def hourShape : ScalarShape := ⟨"Hour", .timestamp, [], some .iso8601, false, false, none⟩

/-- The shape of hours. -/
def hoursShape : ListShape := ⟨"Hours", ⟨"Hour", none⟩, false, none⟩

/-- What is seen of an operation: the members of its input and its output, and the formats in their
files. -/
structure NotedFormats where
  inputMembers : List Member
  outputMembers : List Member
  input : Except EmissionFault (List TimestampFormat)
  output : Except EmissionFault (Option (List TimestampFormat))
  deriving DecidableEq

namespace Crate

/-- What is seen of an operation with an input and an output. -/
def notedFormats (b : Blueprint) (o : Operation) (t t' : StructureShape) : NotedFormats where
  inputMembers := t.members
  outputMembers := t'.members
  input := (inputFile b o).map Code.stamps
  output := (outputFile? b o).map (·.map Code.stamps)

/-- The files of the tides are written, and these are the formats in them. -/
theorem exists_tides : ∃ s b o t t' input output, Sources.tides.toService.result = .ok s ∧
    Blueprint.of s [] = .ok b ∧ b.service = s ∧ o ∈ b.operations ∧ b.protocol.isRest = true ∧
    s.shape? "Hour" = some (.scalar hourShape) ∧ s.shape? "Hours" = some (.list hoursShape) ∧
    s.inputOf? o = some t ∧ s.outputOf? o = some t' ∧
    t.members = tideMembers ∧ t'.members = tideMembers ∧
    inputFile b o = .ok input ∧ outputFile? b o = .ok (some output) ∧
    input.stamps = [.iso8601, .rfc822] ∧ output.stamps = [.rfc822] := by
  have husage : (Sources.tides.toService.result.map fun s => Usage.analyze s []) =
      .ok (.ok ⟨["NoteTide"], [], [], []⟩) := by
    cbv
  have hseen : (Sources.tides.toService.result.map fun s =>
      (s.metadata.protocol, s.shape? "Hour", s.shape? "Hours")) =
      .ok (.restJson, some (.scalar hourShape), some (.list hoursShape)) := by
    rfl
  have hfiles : (Sources.tides.toService.result.map fun s =>
      (s.operation? "NoteTide").bind fun o => (s.inputOf? o).bind fun t =>
        (s.outputOf? o).map fun t' => notedFormats (tideBlueprint s) o t t') =
      .ok (some ⟨tideMembers, tideMembers, .ok [.iso8601, .rfc822], .ok (some [.rfc822])⟩) := by
    decide +kernel
  obtain ⟨s, hs, husage⟩ := map_eq_ok.mp husage
  rw [hs] at hseen hfiles
  obtain ⟨hprotocol, hshapes⟩ := Prod.mk.inj (Except.ok.inj hseen)
  obtain ⟨hhour, hhours⟩ := Prod.mk.inj hshapes
  obtain ⟨o, ho, hfiles⟩ := Option.bind_eq_some_iff.mp (Except.ok.inj hfiles)
  obtain ⟨t, ht, hfiles⟩ := Option.bind_eq_some_iff.mp hfiles
  obtain ⟨t', ht', hfiles⟩ := Option.map_eq_some_iff.mp hfiles
  obtain ⟨hmembers, hmembers', hinput, houtput⟩ := NotedFormats.mk.inj hfiles
  obtain ⟨input, hinput, hformats⟩ := map_eq_ok.mp hinput
  obtain ⟨found, houtput, hfound⟩ := map_eq_ok.mp houtput
  obtain ⟨output, rfl, hformats'⟩ := Option.map_eq_some_iff.mp hfound
  have hb : Blueprint.of s [] = .ok (tideBlueprint s) := bind_eq_ok.mpr ⟨_, husage, rfl⟩
  have hrest : (tideBlueprint s).protocol.isRest = true := by
    show s.metadata.protocol.isRest = true
    rw [hprotocol]
    rfl
  exact ⟨s, tideBlueprint s, o, t, t', input, output, hs, hb, rfl,
    Blueprint.mem_operations_iff.mpr ⟨"NoteTide", List.mem_singleton_self _, ho⟩, hrest, hhour,
    hhours, ht, ht', hmembers, hmembers', hinput, houtput, hformats, hformats'⟩

/-- The tides have timestamps in their path and in a header. -/
theorem tides_formatted : ∃ s b o t t' input output, Sources.tides.toService.result = .ok s ∧
    Blueprint.of s [] = .ok b ∧ b.protocol.isRest = true ∧
    b.service.inputOf? o = some t ∧ inputFile b o = .ok input ∧
    (∃ statements, input.HasMethod (inputType o) Code.requestHead statements ∧
      Request.Stamped b o t statements) ∧
    b.service.outputOf? o = some t' ∧ t'.members ≠ [] ∧ outputFile? b o = .ok (some output) ∧
    ∃ statements, output.HasMethod (outputType o) (Code.responseHead "response") statements ∧
      Response.Stamped b o t' statements := by
  obtain ⟨s, b, o, t, t', input, output, hs, hb, rfl, -, hrest, -, -, ht, ht', -, hmembers',
    hinput, houtput, -, -⟩ := exists_tides
  obtain ⟨hinputs, houtputs⟩ := bound_timestamps_formatted b o hrest
  have hne : t'.members ≠ [] := by
    rw [hmembers']
    decide
  exact ⟨_, b, o, t, t', input, output, hs, hb, hrest, ht, hinput, hinputs t input ht hinput, ht',
    hne, houtput, houtputs t' output ht' hne houtput⟩

/-- Every hour is declared to be written in one format, and in the headers it is not. -/
theorem tides_overlooked : ∃ s b o t t' input output,
    Sources.tides.toService.result = .ok s ∧ Blueprint.of s [] = .ok b ∧ o ∈ b.operations ∧
    b.protocol.isRest = true ∧ s.inputOf? o = some t ∧ s.outputOf? o = some t' ∧
    (∀ m ∈ t.members ++ t'.members, m.IsBound ∧
      ∃ u, s.EndsIn m.shape u ∧ u.kind = .timestamp ∧ m.declaredFormat u = .iso8601) ∧
    inputFile b o = .ok input ∧ outputFile? b o = .ok (some output) ∧
    input.stamps = [.iso8601, .rfc822] ∧ output.stamps = [.rfc822] := by
  obtain ⟨s, b, o, t, t', input, output, hs, hb, -, ho, hrest, hhour, hhours, ht, ht', hmembers,
    hmembers', hinput, houtput, hformats, hformats'⟩ := exists_tides
  have hdeclared : ∀ m ∈ tideMembers, m.IsBound ∧
      ∃ u, s.EndsIn m.shape u ∧ u.kind = .timestamp ∧ m.declaredFormat u = .iso8601 := by
    refine List.forall_mem_cons.mpr ⟨?_, List.forall_mem_singleton.mpr ?_⟩
    · exact ⟨.inl rfl, hourShape, .scalar hhour, rfl, rfl⟩
    · exact ⟨.inr (.inl rfl), hourShape, .item hhours (.scalar hhour), rfl, rfl⟩
  refine ⟨s, b, o, t, t', input, output, hs, hb, ho, hrest, ht, ht', ?_, hinput, houtput,
    hformats, hformats'⟩
  rw [hmembers, hmembers']
  exact List.forall_mem_append.mpr ⟨hdeclared, hdeclared⟩

end Crate

end Clientwright
