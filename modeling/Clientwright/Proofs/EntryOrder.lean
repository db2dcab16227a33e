import Clientwright.Definition.Sources
import Clientwright.Proofs.Traces
import Clientwright.Proofs.WellFormed

/-!
# The order of entries

The shapes of a document refer to each other in any order, and operations,
paginators and waiters are checked against what was converted before them. The
first fault in the order of the document is the one that is reported, and that
is all the order decides.

The reason is that an entry is converted by itself: whatever it refers to it
refers to by name, and a name means the same in whatever order the entries
stand. `Table.Converts` is that statement. It asks of each entry that it can be
converted and of the table that it holds what the entries became, and it
mentions the list only by membership. Each of the four tables of a service comes
about by some such conversion, exactly if there is one
(`Table.eq_ok_iff_converts`), so a list may be exchanged for any other with the
same entries.
-/

namespace Clientwright

open Outcome

/-! ## Tables of converted entries -/

namespace Table

variable {α β ε ε' : Type}

/-- Every entry can be converted, and the table holds what the entries became.
An entry may become nothing. -/
structure Converts (f : String → α → Except ε (Option β)) (l : List (String × α))
    (t : Table β) : Prop where
  succeeds : ∀ e ∈ l, Succeeds (f e.1 e.2)
  holds : ∀ k v, t.get? k = some v ↔ ∃ a, (k, a) ∈ l ∧ f k a = .ok (some v)

variable {f : String → α → Except ε (Option β)} {l l' : List (String × α)} {t : Table β}

/-- Which entries there are is all that counts. -/
theorem converts_iff_of_perm (h : l.Perm l') : Converts f l t ↔ Converts f l' t := by
  have hentry : ∀ e, e ∈ l ↔ e ∈ l' := fun e => h.mem_iff
  constructor
  · rintro ⟨hsucceeds, hholds⟩
    simp only [hentry] at hsucceeds hholds
    exact ⟨hsucceeds, hholds⟩
  · rintro ⟨hsucceeds, hholds⟩
    simp only [← hentry] at hsucceeds hholds
    exact ⟨hsucceeds, hholds⟩

theorem Converts.unique {t' : Table β} (h : Converts f l t) (h' : Converts f l t') : t = t' :=
  ext_get? fun k v => (h.holds k v).trans (h'.holds k v).symm

/-- A computation that makes nothing but such a table, and makes it if every entry can
be converted, is characterized by it. -/
theorem eq_ok_iff_converts {x : Except ε' (Table β)}
    (hsound : ∀ t, x = .ok t → Converts f l t)
    (hends : (∀ e ∈ l, Succeeds (f e.1 e.2)) → Succeeds x) :
    x = .ok t ↔ Converts f l t := by
  constructor
  · exact hsound t
  · intro h
    obtain ⟨t', ht'⟩ := hends h.succeeds
    rw [ht', (hsound t' ht').unique h]

theorem converts_nil : Converts f [] empty where
  succeeds := nofun
  holds _ _ := ⟨nofun, fun ⟨_, h, _⟩ => nomatch h⟩

theorem Converts.cons_none {k : String} {a : α} (h : Converts f l t) (ha : f k a = .ok none) :
    Converts f ((k, a) :: l) t where
  succeeds := List.forall_mem_cons.mpr ⟨⟨none, ha⟩, h.succeeds⟩
  holds j v := by
    rw [h.holds]
    refine exists_congr fun b => ⟨fun ⟨hb, hv⟩ => ⟨List.mem_cons_of_mem _ hb, hv⟩, ?_⟩
    rintro ⟨hb, hv⟩
    rcases List.mem_cons.mp hb with hb | hb
    · obtain ⟨rfl, rfl⟩ := Prod.mk.inj hb
      cases ha.symm.trans hv
    · exact ⟨hb, hv⟩

theorem Converts.cons_some {k : String} {a : α} {b : β} (h : Converts f l t)
    (ha : f k a = .ok (some b)) (hk : k ∉ l.map (·.1)) :
    Converts f ((k, a) :: l) (t.insert k b) where
  succeeds := List.forall_mem_cons.mpr ⟨⟨some b, ha⟩, h.succeeds⟩
  holds j v := by
    rw [get?_insert]
    by_cases hj : j = k
    · subst hj
      rw [if_pos rfl]
      constructor
      · rintro ⟨rfl⟩
        exact ⟨a, List.mem_cons_self, ha⟩
      · rintro ⟨c, hc, hv⟩
        rcases List.mem_cons.mp hc with hc | hc
        · obtain ⟨-, rfl⟩ := Prod.mk.inj hc
          exact Except.ok.inj (ha.symm.trans hv)
        · exact absurd (List.mem_map_of_mem (f := (·.1)) hc) hk
    · rw [if_neg hj, h.holds]
      refine exists_congr fun c => and_congr_left fun _ => ?_
      rw [List.mem_cons, Prod.mk.injEq]
      exact ⟨.inr, fun hc => hc.resolve_left fun hc => hj hc.1⟩

/-- Entries that are converted one after the other. -/
theorem mapM_eq_ok_iff {f : String → α → Except ε β} (hl : (l.map (·.1)).Nodup) :
    (l.mapM fun e => (f e.1 e.2).map ((e.1, ·))).map ofList = .ok t ↔
      Converts (fun k a => (f k a).map some) l t := by
  refine eq_ok_iff_converts (fun t h => ?_) fun h => ?_
  · obtain ⟨r, hr, rfl⟩ := map_eq_ok.mp h
    have hentries := mapM_eq_ok.mp hr
    have hnames : r.map (·.1) = l.map (·.1) := by
      rw [← List.forall₂_eq_eq_eq, List.forall₂_map_left_iff, List.forall₂_map_right_iff]
      refine hentries.flip.imp fun b e he => ?_
      obtain ⟨v, -, rfl⟩ := map_eq_ok.mp he
      rfl
    refine ⟨fun e he => ?_, fun k v => ?_⟩
    · exact succeeds_map.mpr (succeeds_map.mp (succeeds_mapM.mp ⟨r, hr⟩ e he))
    · rw [get?_ofList_of_nodup (hnames ▸ hl)]
      constructor
      · intro hv
        obtain ⟨⟨j, a⟩, ha, he⟩ := exists_left_of_forall₂ hentries hv
        obtain ⟨w, hw, hkv⟩ := map_eq_ok.mp he
        obtain ⟨rfl, rfl⟩ := Prod.mk.inj hkv
        exact ⟨a, ha, map_eq_ok.mpr ⟨w, hw, rfl⟩⟩
      · rintro ⟨a, ha, hv⟩
        obtain ⟨w, hw, hwv⟩ := map_eq_ok.mp hv
        obtain rfl := Option.some.inj hwv
        obtain ⟨e, he, hconvert⟩ := exists_right_of_forall₂ hentries ha
        obtain ⟨w', hw', rfl⟩ := map_eq_ok.mp hconvert
        obtain rfl := Except.ok.inj (hw.symm.trans hw')
        exact he
  · rw [succeeds_map, succeeds_mapM]
    exact fun e he => succeeds_map.mpr (succeeds_map.mp (h e he))

end Table

namespace Definition

/-! ## Definitions -/

/-- The definition with its shapes and its operations in another order. -/
structure Rearranged (d d' : Definition) : Prop where
  version : d'.version = d.version
  metadata : d'.metadata = d.metadata
  documentation : d'.documentation = d.documentation
  shapes : d.shapes.Perm d'.shapes
  operations : d.operations.Perm d'.operations

variable {d d' : Definition} {name : String} {s : Service}

theorem Rearranged.distinct (h : d.Rearranged d') (hd : d.Distinct) : d'.Distinct where
  shapes := (h.shapes.map _).nodup_iff.mp hd.shapes
  operations := (h.operations.map _).nodup_iff.mp hd.operations

theorem Rearranged.shape? (h : d.Rearranged d') (hd : d.Distinct) : d'.shape? = d.shape? :=
  funext fun n => (Table.lookup_eq_of_perm h.shapes hd.shapes n).symm

/-! An entry looks at the definition only to see what a name stands for. -/

theorem MemberEntry.convert_congr (h : d'.shape? = d.shape?) :
    MemberEntry.convert d' = MemberEntry.convert d := by
  funext owner ownerName e
  rw [MemberEntry.convert, MemberEntry.convert, h]

theorem resolve_congr (h : d'.shape? = d.shape?) : resolve d' = resolve d := by
  funext owner r
  rw [resolve, resolve, h]

theorem ShapeEntry.convert_congr (h : d'.shape? = d.shape?) :
    ShapeEntry.convert d' = ShapeEntry.convert d := by
  funext name e
  unfold ShapeEntry.convert ShapeEntry.structure? ShapeEntry.list? ShapeEntry.map?
  rw [MemberEntry.convert_congr h, resolve_congr h]

/-- A definition becomes a service exactly if its shapes can be converted, and its
operations with them. -/
theorem toService_eq_ok_iff (hd : d.Distinct) :
    d.toService name = .ok s ↔
      ∃ metadata, d.metadata.convert = .ok metadata ∧
        Table.Converts (fun n e => (e.convert d n).map some) d.shapes s.shapes ∧
        Table.Converts (fun n o => (o.convert s.shapes n).map some) d.operations s.operations ∧
        s = { name, metadata, documentation := d.documentation, operations := s.operations
              shapes := s.shapes, paginators := .empty, waiters := .empty } := by
  rw [toService, bind_eq_ok]
  refine exists_congr fun metadata => and_congr_right fun _ => ?_
  rw [← Table.mapM_eq_ok_iff hd.shapes, ← Table.mapM_eq_ok_iff hd.operations]
  constructor
  · intro h
    obtain ⟨shapes, hshapes, h⟩ := bind_eq_ok.mp h
    obtain ⟨operations, hoperations, h⟩ := bind_eq_ok.mp h
    obtain rfl := pure_eq_ok.mp h
    exact ⟨map_eq_ok.mpr ⟨shapes, hshapes, rfl⟩, map_eq_ok.mpr ⟨operations, hoperations, rfl⟩, rfl⟩
  · rintro ⟨hshapes, hoperations, hs⟩
    obtain ⟨shapes, hshapes, htable⟩ := map_eq_ok.mp hshapes
    obtain ⟨operations, hoperations, htable'⟩ := map_eq_ok.mp hoperations
    rw [← htable] at hoperations hs
    rw [← htable'] at hs
    exact bind_eq_ok.mpr ⟨shapes, hshapes, bind_eq_ok.mpr ⟨operations, hoperations, hs ▸ rfl⟩⟩

theorem Rearranged.toService_iff (h : d.Rearranged d') (hd : d.Distinct) :
    d.toService name = .ok s ↔ d'.toService name = .ok s := by
  rw [toService_eq_ok_iff hd, toService_eq_ok_iff (h.distinct hd), h.metadata, h.documentation,
    Table.converts_iff_of_perm h.shapes, Table.converts_iff_of_perm h.operations]
  simp only [ShapeEntry.convert_congr (h.shape? hd)]

/-! ## Paginators and waiters -/

/-- The paginator, if the entry was kept. -/
def PaginatorOutcome.kept? : PaginatorOutcome → Option Pagination
  | .kept p => some p
  | .tokenless | .unreadable _ => none

/-- Which paginator comes of an entry, if one does. -/
def PaginatorEntry.paginator? (service : Service) (name : String) (e : PaginatorEntry) :
    Except PaginatorFault (Option Pagination) :=
  (e.convert service name).map (·.kept?)

variable {service : Service} {entries : List (String × PaginatorEntry)} {t : Table Pagination}

theorem converts_of_convertPaginators (hl : (entries.map (·.1)).Nodup)
    (h : (convertPaginators service entries).result = .ok t) :
    Table.Converts (fun n e => e.paginator? service n) entries t := by
  induction entries generalizing t with
  | nil =>
      obtain rfl := Except.ok.inj h
      exact Table.converts_nil
  | cons e rest ih =>
      obtain ⟨n, e⟩ := e
      rw [List.map_cons, List.nodup_cons] at hl
      unfold convertPaginators at h
      split at h
      next fault hconvert => cases h
      next error hconvert =>
        rw [Trace.result_bind] at h
        exact (ih hl.2 h).cons_none (map_eq_ok.mpr ⟨_, hconvert, rfl⟩)
      next hconvert => exact (ih hl.2 h).cons_none (map_eq_ok.mpr ⟨_, hconvert, rfl⟩)
      next p hconvert =>
        obtain ⟨t', ht', h⟩ := Trace.bind_result_eq_ok.mp h
        obtain rfl := Except.ok.inj h
        exact (ih hl.2 ht').cons_some (map_eq_ok.mpr ⟨_, hconvert, rfl⟩) hl.1

theorem convertPaginators_succeeds (h : ∀ e ∈ entries, Succeeds (e.2.paginator? service e.1)) :
    Succeeds (convertPaginators service entries).result := by
  induction entries with
  | nil => exact succeeds_ok _
  | cons e rest ih =>
      obtain ⟨n, e⟩ := e
      rw [List.forall_mem_cons] at h
      obtain ⟨hhead, hrest⟩ := h
      obtain ⟨outcome, houtcome⟩ := succeeds_map.mp hhead
      obtain ⟨t, ht⟩ := ih hrest
      have houtcome : e.convert service n = .ok outcome := houtcome
      rw [convertPaginators, houtcome]
      cases outcome with
      | kept p => exact ⟨t.insert n p, Trace.bind_result_eq_ok.mpr ⟨t, ht, rfl⟩⟩
      | tokenless => exact ⟨t, ht⟩
      | unreadable error => exact ⟨t, Trace.bind_result_eq_ok.mpr ⟨(), rfl, ht⟩⟩

theorem convertPaginators_eq_ok_iff (hl : (entries.map (·.1)).Nodup) :
    (convertPaginators service entries).result = .ok t ↔
      Table.Converts (fun n e => e.paginator? service n) entries t :=
  Table.eq_ok_iff_converts (fun _ => converts_of_convertPaginators hl)
    convertPaginators_succeeds

theorem WaiterDocument.convert_eq_ok_iff {d : WaiterDocument} {t : Table Waiter}
    (hd : (d.entries.map (·.1)).Nodup) :
    d.convert service = .ok t ↔ d.version = waiterVersion ∧
      Table.Converts (fun n w => (w.convert service n).map some) d.entries t := by
  rw [← Table.mapM_eq_ok_iff hd, WaiterDocument.convert]
  by_cases hversion : d.version = waiterVersion
  · rw [if_neg (not_not.mpr hversion), and_iff_right hversion, bind_eq_ok, map_eq_ok]
    exact exists_congr fun _ => and_congr_right fun _ => pure_eq_ok
  · rw [if_pos hversion]
    exact ⟨fun h => (nomatch h), fun h => absurd h.1 hversion⟩

/-- The paginators of a document in another order. -/
def PaginatorDocument.Rearranged (d d' : PaginatorDocument) : Prop :=
  d.entries.Perm d'.entries

/-- The waiters of a document in another order. -/
structure WaiterDocument.Rearranged (d d' : WaiterDocument) : Prop where
  version : d'.version = d.version
  entries : d.entries.Perm d'.entries

end Definition

/-! ## Services -/

namespace Sources

open Definition

/-- Every document has each name once, as documents do that were read. -/
structure Distinct (src : Sources) : Prop where
  definition : src.definition.Distinct
  paginators : ∀ d, src.paginators = some d → (d.entries.map (·.1)).Nodup
  waiters : ∀ d, src.waiters = some d → (d.entries.map (·.1)).Nodup

/-- The documents with their entries in another order. The members of a structure and
the acceptors of a waiter stay as they are. -/
structure Rearranged (src src' : Sources) : Prop where
  definition : src.definition.Rearranged src'.definition
  givenName : src'.givenName = src.givenName
  paginators : Option.Rel PaginatorDocument.Rearranged src.paginators src'.paginators
  waiters : Option.Rel WaiterDocument.Rearranged src.waiters src'.waiters

variable {src src' : Sources} {s t : Service}

theorem distinct_ofDefinition {text : String} (h : ofDefinition text = .ok src) :
    src.Distinct := by
  unfold ofDefinition at h
  split at h
  next d hd =>
    obtain rfl := Except.ok.inj h
    exact ⟨distinct_ofText? hd, nofun, nofun⟩
  next => cases h

theorem Distinct.withName (h : src.Distinct) (name : String) : (src.withName name).Distinct :=
  ⟨h.definition, h.paginators, h.waiters⟩

theorem Distinct.withPaginators (h : src.Distinct) {text : String}
    (hread : src.withPaginators text = .ok src') : src'.Distinct := by
  unfold Sources.withPaginators at hread
  split at hread
  next d hd =>
    obtain rfl := Except.ok.inj hread
    refine ⟨h.definition, fun d' hd' => ?_, h.waiters⟩
    obtain rfl := Option.some.inj hd'
    simp only [PaginatorDocument.ofText?, Option.bind_eq_bind, Option.bind_eq_some_iff] at hd
    obtain ⟨v, -, r, -, entries, hentries, hd⟩ := hd
    obtain rfl := Option.some.inj hd
    exact nodup_of_withDefault hentries
  next => cases hread

theorem Distinct.withWaiters (h : src.Distinct) {text : String}
    (hread : src.withWaiters text = .ok src') : src'.Distinct := by
  unfold Sources.withWaiters at hread
  split at hread
  next d hd =>
    obtain rfl := Except.ok.inj hread
    refine ⟨h.definition, h.paginators, fun d' hd' => ?_⟩
    obtain rfl := Option.some.inj hd'
    simp only [WaiterDocument.ofText?, Option.bind_eq_bind, Option.bind_eq_some_iff] at hd
    obtain ⟨v, -, r, -, version, -, entries, hentries, hd⟩ := hd
    obtain rfl := Option.some.inj hd
    exact nodup_of_withDefault hentries
  next => cases hread

theorem Rearranged.serviceName (h : src.Rearranged src') :
    src'.serviceName = src.serviceName := by
  rw [Sources.serviceName, Sources.serviceName, h.givenName, Definition.serviceName,
    Definition.serviceName, h.definition.metadata]

/-- The paginators that the documents give a service. -/
def paginatorsOf (src : Sources) (s : Service) : Trace Warning (Table Pagination) :=
  match src.paginators with
  | some d => convertPaginators s d.entries
  | none => pure s.paginators

/-- The waiters that the documents give a service. -/
def waitersOf (src : Sources) (s : Service) : Except WaiterFault (Table Waiter) :=
  match src.waiters with
  | some d => d.convert s
  | none => .ok s.waiters

theorem toService_eq (src : Sources) : src.toService = (do
    let s ← Trace.ofExcept ((src.definition.toService src.serviceName).mapError .definition)
    let paginators ← src.paginatorsOf s
    let waiters ← Trace.ofExcept ((src.waitersOf { s with paginators }).mapError .waiters)
    return { s with paginators, waiters }) := by
  rw [toService]
  refine bind_congr fun s => ?_
  unfold paginatorsOf waitersOf
  cases src.paginators <;> cases src.waiters <;> rfl

theorem toService_eq_ok_iff : src.toService.result = .ok s ↔
    ∃ base, src.definition.toService src.serviceName = .ok base ∧
      ∃ paginators, (src.paginatorsOf base).result = .ok paginators ∧
        ∃ waiters, src.waitersOf { base with paginators } = .ok waiters ∧
          { base with paginators, waiters } = s := by
  rw [toService_eq, Trace.bind_result_eq_ok]
  refine exists_congr fun base => and_congr mapError_eq_ok ?_
  rw [Trace.bind_result_eq_ok]
  refine exists_congr fun paginators => and_congr_right fun _ => ?_
  rw [Trace.bind_result_eq_ok]
  exact exists_congr fun waiters => and_congr mapError_eq_ok pure_eq_ok

theorem Rearranged.paginatorsOf_iff (h : src.Rearranged src') (hsrc : src.Distinct)
    {p : Table Pagination} :
    (src.paginatorsOf s).result = .ok p ↔ (src'.paginatorsOf s).result = .ok p := by
  have hrel := h.paginators
  have hdistinct := hsrc.paginators
  unfold paginatorsOf
  generalize src.paginators = o at hrel hdistinct ⊢
  generalize src'.paginators = o' at hrel ⊢
  cases hrel with
  | none => exact Iff.rfl
  | @some d d' hperm =>
      have hd := hdistinct d rfl
      have hd' := (hperm.map (·.1)).nodup_iff.mp hd
      rw [convertPaginators_eq_ok_iff hd, convertPaginators_eq_ok_iff hd',
        Table.converts_iff_of_perm hperm]

theorem Rearranged.waitersOf_iff (h : src.Rearranged src') (hsrc : src.Distinct)
    {w : Table Waiter} : src.waitersOf s = .ok w ↔ src'.waitersOf s = .ok w := by
  have hrel := h.waiters
  have hdistinct := hsrc.waiters
  unfold waitersOf
  generalize src.waiters = o at hrel hdistinct ⊢
  generalize src'.waiters = o' at hrel ⊢
  cases hrel with
  | none => exact Iff.rfl
  | @some d d' hrearranged =>
      have hd := hdistinct d rfl
      have hd' := (hrearranged.entries.map (·.1)).nodup_iff.mp hd
      rw [WaiterDocument.convert_eq_ok_iff hd, WaiterDocument.convert_eq_ok_iff hd',
        hrearranged.version, Table.converts_iff_of_perm hrearranged.entries]

/-- In whatever order the documents list their entries, the same service comes of them,
or none. -/
theorem toService_rearranged (hsrc : src.Distinct) (h : src.Rearranged src') (s : Service) :
    src.toService.result = .ok s ↔ src'.toService.result = .ok s := by
  rw [toService_eq_ok_iff, toService_eq_ok_iff, h.serviceName]
  simp only [h.definition.toService_iff hsrc.definition, h.paginatorsOf_iff hsrc,
    h.waitersOf_iff hsrc]

/-! ## An example

Books that are listed page after page. Read from its end, the document refers to
the books before it has them, and the first operation is another one. -/

/-- The documents with all their entries in the opposite order. -/
def reversed (src : Sources) : Sources where
  definition := { src.definition with
    operations := src.definition.operations.reverse
    shapes := src.definition.shapes.reverse }
  givenName := src.givenName
  paginators := src.paginators.map fun d => { d with entries := d.entries.reverse }
  waiters := src.waiters.map fun d => { d with entries := d.entries.reverse }

theorem rearranged_reversed (src : Sources) : src.Rearranged src.reversed where
  definition := ⟨rfl, rfl, rfl, (List.reverse_perm _).symm, (List.reverse_perm _).symm⟩
  givenName := rfl
  paginators := by
    unfold reversed
    cases src.paginators with
    | none => exact .none
    | some d => exact .some (List.reverse_perm _).symm
  waiters := by
    unfold reversed
    cases src.waiters with
    | none => exact .none
    | some d => exact .some ⟨rfl, (List.reverse_perm _).symm⟩

/-- Two operations on books, one of which has pages, and a waiter for each. -/
def books : Sources where
  definition :=
    { version := none
      metadata := Definition.orchard.metadata
      operations := [("ListBooks", operation "/books" "ListBooksInput" "ListBooksOutput"),
        ("GetBook", operation "/books/\x7bTitle\x7d" "GetBookInput" "Book")]
      shapes :=
        [("ListBooksInput", { ShapeEntry.bare "structure" with
            members := [("Marker", MemberEntry.bare "Text")] }),
          ("ListBooksOutput", { ShapeEntry.bare "structure" with
            members := [
              ("Marker", MemberEntry.bare "Text"),
              ("Books", MemberEntry.bare "Books")] }),
          ("GetBookInput", { ShapeEntry.bare "structure" with
            members := [("Title", { MemberEntry.bare "Text" with location := some "uri" })] }),
          ("Books", { ShapeEntry.bare "list" with member := some ⟨"Book", none⟩ }),
          ("Book", { ShapeEntry.bare "structure" with
            members := [
              ("Title", MemberEntry.bare "Text"),
              ("Sequels", MemberEntry.bare "Books")] }),
          ("Text", ShapeEntry.bare "string")]
      documentation := none }
  givenName := some "books"
  paginators := some ⟨[
    ("GetBook", { inputToken := none, outputToken := none, limitKey := none,
                  resultKey := some ["Sequels"], moreResults := none }),
    ("ListBooks", { inputToken := some ["Marker"], outputToken := some ["Marker"],
                    limitKey := none, resultKey := some ["Books"], moreResults := none })]⟩
  waiters := some ⟨2, [("BookListed", waiter "ListBooks"), ("BookWritten", waiter "GetBook")]⟩
where
  /-- an operation that gets something -/
  operation (uri input output : String) : OperationEntry :=
    { name := none, http := { method := "GET", requestUri := uri }, input := some ⟨input, none⟩
      output := some ⟨output, none⟩, errors := [], documentation := none, deprecated := false }
  /-- a waiter that polls until there is an answer -/
  waiter (operation : String) : WaiterEntry :=
    { operation, delay := 5, maxAttempts := 3, description := none
      acceptors := [
        ⟨"success", "status", none, .ofNat 200⟩,
        ⟨"retry", "status", none, .ofNat 404⟩] }

theorem distinct_books : books.Distinct where
  definition := ⟨by decide, by decide⟩
  paginators d hd := by
    obtain rfl := Option.some.inj hd
    decide
  waiters d hd := by
    obtain rfl := Option.some.inj hd
    decide

theorem toService_books_reversed : books.Distinct ∧ books.Rearranged books.reversed ∧
    ∃ s, books.toService.result = .ok s ∧ books.reversed.toService.result = .ok s ∧
      s.operations.keys = ["GetBook", "ListBooks"] ∧ s.paginators.keys = ["ListBooks"] ∧
      s.waiters.keys = ["BookListed", "BookWritten"] := by
  have hfacts : (books.toService.result.map fun s =>
      (s.operations.keys, s.paginators.keys, s.waiters.keys)) =
        .ok (["GetBook", "ListBooks"], ["ListBooks"], ["BookListed", "BookWritten"]) := rfl
  obtain ⟨s, hs, hfacts⟩ := map_eq_ok.mp hfacts
  obtain ⟨hoperations, hfacts⟩ := Prod.mk.inj hfacts
  obtain ⟨hpaginators, hwaiters⟩ := Prod.mk.inj hfacts
  have hreversed := (toService_rearranged distinct_books (rearranged_reversed _) s).mp hs
  exact ⟨distinct_books, rearranged_reversed _, s, hs, hreversed, hoperations, hpaginators,
    hwaiters⟩

end Sources

end Clientwright
