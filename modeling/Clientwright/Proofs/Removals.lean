import Clientwright.Proofs.AcceptorEntries
import Clientwright.Proofs.Revisions

/-!
# Documents without an entry

A paginator or a waiter may be taken out of its document, and then out of all
that is made from the document. For tables that is `without` and for events
`keeping`: everything about the entry goes and everything else stays, in its
order.

Reading goes through a document entry by entry, and no entry looks at another.
So an entry that can be converted can be taken out before or after, which is the
statement here about services. What the reader says on the way is taken out with
the entry it says it about, and it says something about an entry at most once.
-/

namespace Clientwright

open Outcome

/-! ## What is taken out -/

/-- An entry that may be left out. -/
inductive Entry where
  | paginator (operation : String)
  | waiter (name : String)
  deriving DecidableEq

/-- The entry that the warning is about. -/
def Warning.entry : Warning → Entry
  | unreadablePaginator operation _ | skippedPaginator _ operation _ => .paginator operation
  | skippedWaiter _ waiter _ => .waiter waiter

/-- The entry that the event is about, if it is a warning. -/
def Event.about? : Event → Option Entry
  | action _ => none
  | warning w => some w.entry

/-- The entry that the product is about, if it is a warning. -/
def Crate.Product.about? : Crate.Product → Option Entry
  | folder _ | file _ _ => none
  | warning w => some w.entry

theorem paginator_injective : Function.Injective Entry.paginator := fun _ _ => Entry.paginator.inj

theorem waiter_injective : Function.Injective Entry.waiter := fun _ _ => Entry.waiter.inj

/-- What is made of some items stands in the order of the items. -/
theorem filterMap_sublist_map {α β : Type} {f : α → Option β} {g : α → β} {l : List α}
    (h : ∀ a ∈ l, ∀ b, f a = some b → b = g a) : (l.filterMap f).Sublist (l.map g) := by
  induction l with
  | nil => exact .slnil
  | cons a rest ih =>
      obtain ⟨ha, hrest⟩ := List.forall_mem_cons.mp h
      rw [List.filterMap_cons, List.map_cons]
      cases hb : f a with
      | none => exact (ih hrest).cons _
      | some b => exact ha b hb ▸ (ih hrest).cons_cons _

/-- Items may be taken out before or after something is made of them. -/
theorem filterMap_filter_eq {α β : Type} {f : α → Option β} {P : α → Bool} {Q : β → Bool}
    (h : ∀ a b, f a = some b → P a = Q b) (l : List α) :
    (l.filter P).filterMap f = (l.filterMap f).filter Q := by
  rw [List.filterMap_filter, List.filter_filterMap]
  refine List.filterMap_congr fun a _ => ?_
  cases hb : f a with
  | none => simp
  | some b => simp [h a b hb, Option.filter]

namespace Table

variable {α : Type} {t : Table α} {k n : String} {v : α}

/-- The table without the value under a name. -/
def without (t : Table α) (n : String) : Table α :=
  ⟨t.entries.filter fun e => e.1 ≠ n, t.ordered.filter _⟩

theorem get?_without : (t.without n).get? k = some v ↔ k ≠ n ∧ t.get? k = some v := by
  rw [get?_eq_some_iff, get?_eq_some_iff, without, List.mem_filter, decide_eq_true_iff, and_comm]

theorem without_insert_self : (t.insert n v).without n = t.without n := by
  refine ext_get? fun j w => ?_
  rw [get?_without, get?_without, get?_insert]
  refine and_congr_right fun hj => ?_
  rw [if_neg hj]

theorem without_insert (hk : k ≠ n) : (t.insert k v).without n = (t.without n).insert k v := by
  refine ext_get? fun j w => ?_
  rw [get?_without, get?_insert, get?_insert]
  by_cases hj : j = k
  · rw [if_pos hj, if_pos hj, hj]
    exact and_iff_right hk
  · rw [if_neg hj, if_neg hj, get?_without]

/-- Where the values know their names, those that are left can be told from the values. -/
theorem values_without {name : α → String} (h : ∀ k v, t.get? k = some v → name v = k) :
    (t.without n).values = t.values.filter fun v => name v ≠ n := by
  have hnames : ∀ e ∈ t.entries, name e.2 = e.1 := fun e he => h _ _ (get?_eq_some_iff.mpr he)
  rw [values, values, without, List.filter_map]
  refine congrArg _ (List.filter_congr fun e he => ?_)
  simp [hnames e he]

/-- And a conversion without an entry makes a table without it. -/
theorem Converts.without {β ε : Type} {f : String → α → Except ε (Option β)}
    {l : List (String × α)} {t : Table β} (h : Converts f l t) (n : String) :
    Converts f (l.filter fun e => e.1 ≠ n) (t.without n) where
  succeeds e he := h.succeeds e (List.mem_of_mem_filter he)
  holds k v := by
    rw [get?_without, h.holds]
    simp only [List.mem_filter, decide_eq_true_iff]
    constructor
    · rintro ⟨hk, a, ha, hv⟩
      exact ⟨a, ⟨ha, hk⟩, hv⟩
    · rintro ⟨a, ⟨ha, hk⟩, hv⟩
      exact ⟨hk, a, ha, hv⟩

end Table

namespace Trace

variable {ω υ α β : Type} {P : ω → Bool}

/-- The trace with only some of its events. -/
def keeping (P : ω → Bool) (t : Trace ω α) : Trace ω α := ⟨t.events.filter P, t.result⟩

theorem keeping_bind (x : Trace ω α) (f : α → Trace ω β) :
    (x >>= f).keeping P = x.keeping P >>= fun a => (f a).keeping P := by
  have hresult : (x.keeping P).result = x.result := rfl
  cases h : x.result with
  | ok a =>
      rw [bind_ok h, bind_ok (hresult.trans h), keeping, List.filter_append]
      rfl
  | error e =>
      rw [bind_error h, bind_error (hresult.trans h)]
      rfl

theorem keeping_pure (a : α) : (pure a : Trace ω α).keeping P = pure a := rfl

theorem keeping_emit_of_pos {e : ω} (h : P e = true) : (emit e).keeping P = emit e := by
  rw [keeping, emit, List.filter_cons_of_pos h]
  rfl

theorem keeping_emit_of_neg {e : ω} (h : ¬ P e = true) : (emit e).keeping P = pure () := by
  rw [keeping, emit, List.filter_cons_of_neg h]
  rfl

theorem keeping_eq_self {x : Trace ω α} (h : ∀ e ∈ x.events, P e = true) : x.keeping P = x := by
  rw [keeping, List.filter_eq_self.mpr h]

theorem keeping_mapEvents (g : υ → ω) (x : Trace υ α) :
    (x.mapEvents g).keeping P = (x.keeping fun e => P (g e)).mapEvents g := by
  rw [keeping, mapEvents, keeping, mapEvents, List.filter_map]
  rfl

theorem of_mem_events_bind {x : Trace ω α} {f : α → Trace ω β} {e : ω}
    (h : e ∈ (x >>= f).events) :
    e ∈ x.events ∨ ∃ a, x.result = .ok a ∧ e ∈ (f a).events := by
  cases hx : x.result with
  | ok a =>
      rw [events_bind hx, List.mem_append] at h
      exact h.imp_right fun h => ⟨a, rfl, h⟩
  | error fault =>
      rw [bind_error hx] at h
      exact .inl h

end Trace

/-! ## Documents -/

namespace Definition

variable {service : Service} {n : String} {entries : List (String × PaginatorEntry)}

theorem PaginatorEntry.entry_of_warning? {e : PaginatorEntry} {w : Warning}
    (h : e.warning? n = some w) : w.entry = .paginator n := by
  simp only [warning?, Option.bind_eq_bind, Option.bind_eq_some_iff] at h
  obtain ⟨_, -, _, -, error, -, h⟩ := h
  obtain rfl := Option.some.inj h
  rfl

/-- Without an entry that can be converted there are the same paginators and the same
warnings, except for those of the entry. -/
theorem convertPaginators_without
    (h : ∀ e, (n, e) ∈ entries → Succeeds (e.convert service n)) :
    convertPaginators service (entries.filter fun e => e.1 ≠ n) =
      ((convertPaginators service entries).keeping fun w => w.entry ≠ .paginator n) >>=
        fun t => pure (t.without n) := by
  induction entries with
  | nil => rfl
  | cons e rest ih =>
      obtain ⟨k, e⟩ := e
      specialize ih fun e he => h e (List.mem_cons_of_mem _ he)
      by_cases hk : k = n
      · obtain rfl := hk
        obtain ⟨outcome, houtcome⟩ := h e List.mem_cons_self
        rw [List.filter_cons_of_neg (by simp), ih, convertPaginators.eq_def _ ((k, e) :: rest)]
        dsimp only
        rw [houtcome]
        cases outcome with
        | tokenless => rfl
        | unreadable error =>
            dsimp only
            rw [Trace.keeping_bind, Trace.keeping_emit_of_neg (by simp [Warning.entry]), pure_bind]
        | kept p =>
            dsimp only
            rw [Trace.keeping_bind, bind_assoc]
            refine bind_congr fun t => ?_
            rw [Trace.keeping_pure, pure_bind, Table.without_insert_self]
      · rw [List.filter_cons_of_pos (by simpa using hk), convertPaginators, convertPaginators]
        cases e.convert service k with
        | error fault => rfl
        | ok outcome =>
            cases outcome with
            | tokenless => exact ih
            | unreadable error =>
                dsimp only
                rw [ih, Trace.keeping_bind, Trace.keeping_emit_of_pos (by simpa [Warning.entry]),
                  bind_assoc]
            | kept p =>
                dsimp only
                rw [ih, Trace.keeping_bind, bind_assoc, bind_assoc]
                refine bind_congr fun t => ?_
                rw [pure_bind, Trace.keeping_pure, pure_bind, Table.without_insert hk]

theorem WaiterDocument.convert_without {d : WaiterDocument} {t : Table Waiter}
    (hd : (d.entries.map (·.1)).Nodup) (h : d.convert service = .ok t) (n : String) :
    { d with entries := d.entries.filter fun e => e.1 ≠ n }.convert service =
      .ok (t.without n) := by
  obtain ⟨hversion, hconverts⟩ := (convert_eq_ok_iff hd).mp h
  refine (convert_eq_ok_iff ?_).mpr ⟨hversion, hconverts.without n⟩
  exact hd.sublist (List.filter_sublist.map _)

end Definition

/-! ## Services -/

/-- Paginators and waiters know the names that they are kept under. -/
structure Service.Keyed (s : Service) : Prop where
  paginators : ∀ k p, s.paginators.get? k = some p → p.operation = k
  waiters : ∀ k w, s.waiters.get? k = some w → w.name = k

/-- The service without an entry. -/
def Service.without (s : Service) : Entry → Service
  | .paginator n => s.revised (s.paginators.without n) s.waiters
  | .waiter n => s.revised s.paginators (s.waiters.without n)

namespace Sources

open Definition

variable {src : Sources} {s : Service} {n : String}

/-- The documents without an entry. -/
def without (src : Sources) : Entry → Sources
  | .paginator n =>
    { src with paginators := src.paginators.map fun d =>
        { d with entries := d.entries.filter fun e => e.1 ≠ n } }
  | .waiter n =>
    { src with waiters := src.waiters.map fun d =>
        { d with entries := d.entries.filter fun e => e.1 ≠ n } }

theorem toService_of_parts {base : Service} {p : Table Pagination} {w : Table Waiter}
    (hbase : src.definition.toService src.serviceName = .ok base)
    (hp : (src.paginatorsOf base).result = .ok p)
    (hw : src.waitersOf { base with paginators := p } = .ok w) :
    src.toService = ⟨(src.paginatorsOf base).events, .ok (base.revised p w)⟩ := by
  rw [toService_eq, hbase, Trace.bind_ok rfl, Trace.bind_ok hp, hw]
  exact congrArg (Trace.mk · _) (List.append_nil _)

theorem paginatorsOf_without {base : Service} {p : Table Pagination} (hsrc : src.Distinct)
    (hbase : base.paginators = .empty) (hp : (src.paginatorsOf base).result = .ok p) :
    (src.without (.paginator n)).paginatorsOf base =
      ⟨(src.paginatorsOf base).events.filter fun w => w.entry ≠ .paginator n,
        .ok (p.without n)⟩ := by
  have hdistinct := hsrc.paginators
  unfold paginatorsOf without at *
  generalize src.paginators = o at hdistinct hp ⊢
  cases o with
  | none =>
      obtain rfl := Except.ok.inj hp
      rw [hbase]
      rfl
  | some d =>
      have hp : (convertPaginators base d.entries).result = .ok p := hp
      have hfits := (convertPaginators_succeeds_iff (hdistinct d rfl)).mp ⟨p, hp⟩
      refine (convertPaginators_without fun e he =>
        PaginatorEntry.convert_succeeds.mpr (hfits _ he)).trans ?_
      rw [Trace.bind_ok (x := Trace.keeping _ _) hp]
      exact congrArg (Trace.mk · _) (List.append_nil _)

theorem waitersOf_without {base : Service} {w : Table Waiter} (hsrc : src.Distinct)
    (hbase : base.waiters = .empty) (hw : src.waitersOf base = .ok w) :
    (src.without (.waiter n)).waitersOf base = .ok (w.without n) := by
  have hdistinct := hsrc.waiters
  unfold waitersOf without at *
  generalize src.waiters = o at hdistinct hw ⊢
  cases o with
  | none =>
      obtain rfl := Except.ok.inj hw
      rw [hbase]
      rfl
  | some d => exact WaiterDocument.convert_without (hdistinct d rfl) hw n

/-- The reader of documents warns of each paginator once, and of none that it keeps. -/
theorem warnings_paginatorsOf {base : Service} {p : Table Pagination} (hsrc : src.Distinct)
    (hp : (src.paginatorsOf base).result = .ok p) :
    ((src.paginatorsOf base).events.map (·.entry)).Nodup ∧
    ∀ w ∈ (src.paginatorsOf base).events, ∃ n, w.entry = .paginator n ∧ p.get? n = none := by
  have hdistinct := hsrc.paginators
  unfold paginatorsOf at *
  generalize src.paginators = o at hdistinct hp ⊢
  cases o with
  | none => exact ⟨.nil, nofun⟩
  | some d =>
      have hd := hdistinct d rfl
      have hp : (convertPaginators base d.entries).result = .ok p := hp
      dsimp only
      rw [events_convertPaginators ⟨p, hp⟩]
      constructor
      · rw [List.map_filterMap]
        refine ((hd.map paginator_injective).sublist ?_)
        rw [List.map_map]
        refine filterMap_sublist_map fun e _ entry h => ?_
        obtain ⟨w, hw, rfl⟩ := Option.map_eq_some_iff.mp h
        exact PaginatorEntry.entry_of_warning? hw
      · intro w hw
        obtain ⟨⟨n, e⟩, he, hw⟩ := List.mem_filterMap.mp hw
        refine ⟨n, PaginatorEntry.entry_of_warning? hw, ?_⟩
        refine Option.eq_none_iff_forall_ne_some.mpr fun q hq => ?_
        obtain ⟨e', he', hdescribes⟩ := (get?_of_convertPaginators hd hp).mp hq
        obtain rfl := Table.eq_of_mem_of_mem hd he he'
        have hfits := (convertPaginators_succeeds_iff hd).mp ⟨p, hp⟩
        have hkept := PaginatorEntry.convert_eq_kept_iff.mpr ⟨hfits _ he, hdescribes⟩
        cases (PaginatorEntry.warning?_of_convert hkept).trans hw

theorem warnings_toService (hsrc : src.Distinct) (hs : src.toService.result = .ok s) :
    (src.toService.events.map (·.entry)).Nodup ∧
    ∀ w ∈ src.toService.events, ∃ n, w.entry = .paginator n ∧ s.paginators.get? n = none := by
  obtain ⟨base, hbase, p, hp, w, hw, rfl⟩ := toService_eq_ok_iff.mp hs
  rw [toService_of_parts hbase hp hw]
  exact warnings_paginatorsOf hsrc hp

theorem empty_of_definition {base : Service} (hsrc : src.Distinct)
    (hbase : src.definition.toService src.serviceName = .ok base) :
    base.paginators = .empty ∧ base.waiters = .empty := by
  obtain ⟨metadata, -, -, -, h⟩ := (Definition.toService_eq_ok_iff hsrc.definition).mp hbase
  rw [h]
  exact ⟨rfl, rfl⟩

/-- Each paginator of a service comes from an entry that fits the service. -/
theorem exists_entry_of_toService (hsrc : src.Distinct) (hs : src.toService.result = .ok s)
    {k : String} {p : Pagination} (h : s.paginators.get? k = some p) :
    ∃ e : PaginatorEntry, e.Fits s k ∧ e.Describes k p := by
  obtain ⟨base, hbase, t, ht, w, hw, rfl⟩ := toService_eq_ok_iff.mp hs
  have h : t.get? k = some p := h
  unfold paginatorsOf at ht
  split at ht
  · next d hd =>
    have hentries := hsrc.paginators d hd
    obtain ⟨e, he, hdescribes⟩ := (get?_of_convertPaginators hentries ht).mp h
    obtain ⟨o, ho, hfits⟩ := (convertPaginators_succeeds_iff hentries).mp ⟨t, ht⟩ _ he
    refine ⟨e, ⟨o, ho, fun inputs outputs hnames htexts => ?_⟩, hdescribes⟩
    obtain ⟨hcounts, hinputs, hlimit⟩ := hfits inputs outputs hnames htexts
    exact ⟨hcounts, hinputs, hlimit⟩
  · obtain rfl := Except.ok.inj ht
    rw [(empty_of_definition hsrc hbase).1] at h
    cases h

theorem keyed_of_toService (hsrc : src.Distinct) (hs : src.toService.result = .ok s) :
    s.Keyed := by
  constructor
  · intro k p hp
    obtain ⟨e, -, hdescribes⟩ := exists_entry_of_toService hsrc hs hp
    exact hdescribes.operation
  · intro k x hx
    obtain ⟨base, hbase, p, -, w, hw, rfl⟩ := toService_eq_ok_iff.mp hs
    have hx : w.get? k = some x := hx
    unfold waitersOf at hw
    split at hw
    · next d hd =>
      have hconverts := ((WaiterDocument.convert_eq_ok_iff (hsrc.waiters d hd)).mp hw).2
      obtain ⟨e, -, hconvert⟩ := (hconverts.holds _ _).mp hx
      obtain ⟨y, hy, hsome⟩ := map_eq_ok.mp hconvert
      obtain rfl := Option.some.inj hsome
      exact (WaiterEntry.describes_of_convert hy).name
    · obtain rfl := Except.ok.inj hw
      rw [(empty_of_definition hsrc hbase).2] at hx
      cases hx

/-- Without an entry the documents describe the service without it. -/
theorem toService_without (hsrc : src.Distinct) (hs : src.toService.result = .ok s) (e : Entry) :
    (src.without e).toService =
      ⟨src.toService.events.filter fun w => w.entry ≠ e, .ok (s.without e)⟩ := by
  obtain ⟨base, hbase, p, hp, w, hw, rfl⟩ := toService_eq_ok_iff.mp hs
  have hempty := empty_of_definition hsrc hbase
  rw [toService_of_parts hbase hp hw]
  cases e with
  | paginator n =>
      have hp' := paginatorsOf_without (n := n) hsrc hempty.1 hp
      have hservice : (src.without (.paginator n)).toService =
          ⟨((src.without (.paginator n)).paginatorsOf base).events, _⟩ :=
        toService_of_parts hbase (congrArg Trace.result hp') hw
      rw [hservice, hp']
      rfl
  | waiter n =>
      have hw' := waitersOf_without (n := n) hsrc hempty.2 hw
      have hservice : (src.without (.waiter n)).toService =
          ⟨(src.paginatorsOf base).events, _⟩ := toService_of_parts hbase hp hw'
      rw [hservice, List.filter_eq_self.mpr]
      · rfl
      · intro w hw
        obtain ⟨k, hk, -⟩ := (warnings_paginatorsOf hsrc hp).2 w hw
        simp [hk]

end Sources

end Clientwright
