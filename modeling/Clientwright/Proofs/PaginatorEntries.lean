import Clientwright.Proofs.EntryOrder

/-!
# Which paginators are kept

An entry of a paginator document comes to one of four ends. Without tokens it is
passed over, with a selector that cannot be read it is left out and there is a
warning, and of the others it is kept or it is the end of the whole conversion.
Which of these happens is decided by checks that stand one after the other, and
what a check sees depends on those before it.

None of that order is in the statements here. An entry `Fits` its service or it
does not, a paginator is or is not what an entry `Describes`, and an entry gives
a `warning?` or none; each is said of the entry alone. The theorem at the end is
that a document is converted exactly if all its entries fit, and that the
paginators and the warnings are then those of its entries.
-/

namespace Clientwright

open Outcome

namespace Definition

/-! ## What an entry says -/

/-- The text is a selector of the supported language. -/
def Readable (text : String) : Prop := ∃ s, Selector.parse text = .ok s

namespace PaginatorEntry

/-- The tokens that an entry names: members of the input, and what to find in the output. -/
structure Names (e : PaginatorEntry) (inputs outputs : List String) : Prop where
  input : e.inputToken = some inputs
  output : e.outputToken = some outputs

/-- The texts of an entry that have to be selectors. -/
def texts (e : PaginatorEntry) (outputs : List String) : List String :=
  outputs ++ e.resultKey.getD [] ++ e.moreResults.toList

/-- The input of the operation has a member of the name. -/
def IsInputMember (service : Service) (o : Operation) (name : String) : Prop :=
  ∃ s, service.inputOf? o = some s ∧ ∃ m ∈ s.members, m.name = name

/-- The tokens go with the input of the operation. -/
structure FitsInput (service : Service) (o : Operation) (e : PaginatorEntry)
    (inputs outputs : List String) : Prop where
  counts : inputs.length = outputs.length
  inputs : ∀ name ∈ inputs, IsInputMember service o name
  limit : ∀ name, e.limitKey = some name → IsInputMember service o name

/-- There is the operation, and the tokens fit it if they are to be used. -/
def Fits (service : Service) (name : String) (e : PaginatorEntry) : Prop :=
  ∃ o, service.operation? name = some o ∧
    ∀ inputs outputs, e.Names inputs outputs → (∀ text ∈ e.texts outputs, Readable text) →
      e.FitsInput service o inputs outputs

/-- The paginator is the one that the entry describes. -/
structure Describes (e : PaginatorEntry) (name : String) (p : Pagination) : Prop where
  operation : p.operation = name
  inputTokens : e.inputToken = some p.inputTokens
  outputTokens : ∃ outputs, e.outputToken = some outputs ∧
    List.Forall₂ (fun text s => Selector.parse text = .ok s) outputs p.outputTokens
  limitKey : p.limitKey = e.limitKey
  resultKeys :
    List.Forall₂ (fun text s => Selector.parse text = .ok s) (e.resultKey.getD []) p.resultKeys
  moreResults :
    Option.Rel (fun text s => Selector.parse text = .ok s) e.moreResults p.moreResults

/-- The warning that an entry gives: it names tokens, and this is the first of its
texts that is no selector. -/
def warning? (name : String) (e : PaginatorEntry) : Option Warning := do
  let _ ← e.inputToken
  let outputs ← e.outputToken
  let error ← (e.texts outputs).findSome? fun text => fault? (Selector.parse text)
  return .unreadablePaginator name error

end PaginatorEntry

/-- The warning about an entry of the name. -/
def PaginatorOutcome.warning? (name : String) : PaginatorOutcome → Option Warning
  | .unreadable error => some (.unreadablePaginator name error)
  | .kept _ | .tokenless => none

namespace PaginatorEntry

/-! ## What becomes of an entry -/

variable {service : Service} {name : String} {e : PaginatorEntry} {o : Operation}
  {inputs outputs : List String} {p : Pagination} {error : SelectorError}
  {outputTokens resultKeys : List Selector} {moreResults : Option Selector}

theorem hasInputMember_iff :
    hasInputMember service o name = true ↔ IsInputMember service o name := by
  simp [hasInputMember, IsInputMember, StructureShape.member?, Option.any_eq_true]

theorem selectors_eq_ok : e.selectors outputs = .ok (outputTokens, resultKeys, moreResults) ↔
    List.Forall₂ (fun text s => Selector.parse text = .ok s) outputs outputTokens ∧
    List.Forall₂ (fun text s => Selector.parse text = .ok s) (e.resultKey.getD []) resultKeys ∧
    Option.Rel (fun text s => Selector.parse text = .ok s) e.moreResults moreResults := by
  rw [selectors, ← mapM_eq_ok, ← mapM_eq_ok, ← mapM_option_eq_ok]
  constructor
  · intro h
    obtain ⟨os, hos, h⟩ := bind_eq_ok.mp h
    obtain ⟨rs, hrs, h⟩ := bind_eq_ok.mp h
    obtain ⟨m, hm, h⟩ := bind_eq_ok.mp h
    cases pure_eq_ok.mp h
    exact ⟨hos, hrs, hm⟩
  · rintro ⟨hos, hrs, hm⟩
    exact bind_eq_ok.mpr ⟨_, hos, bind_eq_ok.mpr ⟨_, hrs, bind_eq_ok.mpr ⟨_, hm, rfl⟩⟩⟩

theorem fault?_selectors : fault? (e.selectors outputs) =
    (e.texts outputs).findSome? fun text => fault? (Selector.parse text) := by
  rw [selectors, fault?_bind fun _ => fault?_bind fun _ => fault?_bind_pure, fault?_mapM,
    fault?_mapM, fault?_mapM_option, texts, List.findSome?_append, List.findSome?_append,
    Option.or_assoc]

theorem readable_iff :
    (∀ text ∈ e.texts outputs, Readable text) ↔ Succeeds (e.selectors outputs) := by
  rw [← fault?_eq_none, fault?_selectors, List.findSome?_eq_none_iff]
  exact forall₂_congr fun text _ => fault?_eq_none.symm

theorem warning?_eq_some_iff {w : Warning} (hnames : e.Names inputs outputs) :
    e.warning? name = some w ↔
      ∃ error, e.selectors outputs = .error error ∧ w = .unreadablePaginator name error := by
  simp only [warning?, hnames.input, hnames.output, Option.bind_eq_bind, Option.bind_some,
    ← fault?_selectors, Option.bind_eq_some_iff, fault?_eq_some, Option.pure_def, Option.some.injEq]
  exact exists_congr fun error => and_congr_right fun _ => eq_comm

theorem fitsInput_iff : e.FitsInput service o inputs outputs ↔ inputs.length = outputs.length ∧
    (inputs ++ e.limitKey.toList).find? (fun t => !hasInputMember service o t) = none := by
  simp only [List.find?_eq_none, Bool.not_eq_true', Bool.not_eq_false, hasInputMember_iff,
    List.forall_mem_append, Option.mem_toList]
  exact ⟨fun ⟨hcounts, hinputs, hlimit⟩ => ⟨hcounts, hinputs, hlimit⟩,
    fun ⟨hcounts, hinputs, hlimit⟩ => ⟨hcounts, hinputs, hlimit⟩⟩

/-- The course that an entry takes, and what comes of it. -/
inductive Course (service : Service) (name : String) (e : PaginatorEntry) :
    Except PaginatorFault PaginatorOutcome → Prop where
  | unknown {fault : PaginatorFault} :
    service.operation? name = none → Course service name e (.error fault)
  | tokenless {o : Operation} :
    service.operation? name = some o → (∀ inputs outputs, ¬ e.Names inputs outputs) →
      Course service name e (.ok .tokenless)
  | unreadable {o : Operation} {inputs outputs : List String} {error : SelectorError} :
    service.operation? name = some o → e.Names inputs outputs →
      e.selectors outputs = .error error → Course service name e (.ok (.unreadable error))
  | misfit {o : Operation} {inputs outputs : List String} {fault : PaginatorFault} :
    service.operation? name = some o → e.Names inputs outputs →
      Succeeds (e.selectors outputs) → ¬ e.FitsInput service o inputs outputs →
        Course service name e (.error fault)
  | kept {o : Operation} {inputs outputs : List String} {outputTokens resultKeys : List Selector}
    {moreResults : Option Selector} :
    service.operation? name = some o → e.Names inputs outputs →
      e.selectors outputs = .ok (outputTokens, resultKeys, moreResults) →
        e.FitsInput service o inputs outputs →
          Course service name e (.ok (.kept ⟨name, inputs, outputTokens, e.limitKey, resultKeys,
            moreResults⟩))

theorem course_convert (service : Service) (name : String) (e : PaginatorEntry) :
    e.Course service name (e.convert service name) := by
  unfold convert
  split
  · next o ho =>
    split
    · next inputs outputs hnames =>
      have hnames : e.Names inputs outputs := ⟨(Prod.mk.inj hnames).1, (Prod.mk.inj hnames).2⟩
      split
      · next error herror => exact .unreadable ho hnames herror
      · next outputTokens resultKeys moreResults hselectors =>
        have hlength := (selectors_eq_ok.mp hselectors).1.length_eq
        have hfits := @fitsInput_iff service e o inputs outputs
        rw [hlength] at hfits
        by_cases hcounts : inputs.length = outputTokens.length
        · rw [if_neg (not_not.mpr hcounts)]
          cases hmissing : (inputs ++ e.limitKey.toList).find? fun t =>
              !hasInputMember service o t with
          | none => exact .kept ho hnames hselectors (hfits.mpr ⟨hcounts, hmissing⟩)
          | some t =>
              refine .misfit ho hnames ⟨_, hselectors⟩ fun h => ?_
              cases hmissing.symm.trans (hfits.mp h).2
        · rw [if_pos hcounts]
          exact .misfit ho hnames ⟨_, hselectors⟩ fun h => hcounts (hfits.mp h).1
    · next hnone =>
      refine .tokenless ho fun inputs outputs h => hnone inputs outputs ?_
      rw [h.input, h.output]
  · next hnone =>
    exact .unknown (Option.eq_none_iff_forall_ne_some.mpr hnone)

theorem Fits.fitsInput (h : e.Fits service name) (ho : service.operation? name = some o)
    (hnames : e.Names inputs outputs) (hselectors : Succeeds (e.selectors outputs)) :
    e.FitsInput service o inputs outputs := by
  obtain ⟨o', ho', hfits⟩ := h
  obtain rfl := Option.some.inj (ho.symm.trans ho')
  exact hfits inputs outputs hnames (readable_iff.mpr hselectors)

theorem Names.unique {inputs' outputs' : List String} (h : e.Names inputs outputs)
    (h' : e.Names inputs' outputs') : inputs' = inputs ∧ outputs' = outputs :=
  ⟨Option.some.inj (h'.input.symm.trans h.input), Option.some.inj (h'.output.symm.trans h.output)⟩

theorem Describes.names (h : e.Describes name p) : ∃ outputs, e.Names p.inputTokens outputs ∧
    e.selectors outputs = .ok (p.outputTokens, p.resultKeys, p.moreResults) := by
  obtain ⟨outputs, houtput, hread⟩ := h.outputTokens
  exact ⟨outputs, ⟨h.inputTokens, houtput⟩,
    selectors_eq_ok.mpr ⟨hread, h.resultKeys, h.moreResults⟩⟩

/-- An entry can be converted exactly if it fits the service. -/
theorem convert_succeeds : Succeeds (e.convert service name) ↔ e.Fits service name := by
  have hcourse := course_convert service name e
  generalize e.convert service name = r at hcourse ⊢
  cases hcourse with
  | unknown ho =>
      refine iff_of_false (not_succeeds_error _) ?_
      rintro ⟨o, ho', -⟩
      cases ho.symm.trans ho'
  | @tokenless o ho hnames =>
      exact iff_of_true (succeeds_ok _) ⟨o, ho, fun _ _ h => absurd h (hnames _ _)⟩
  | @unreadable o inputs outputs error ho hnames herror =>
      refine iff_of_true (succeeds_ok _) ⟨o, ho, fun inputs' outputs' hnames' htexts => ?_⟩
      obtain ⟨rfl, rfl⟩ := hnames.unique hnames'
      exact absurd (herror ▸ readable_iff.mp htexts) (not_succeeds_error _)
  | misfit ho hnames hselectors hmisfit =>
      exact iff_of_false (not_succeeds_error _)
        fun h => hmisfit (h.fitsInput ho hnames hselectors)
  | @kept o inputs outputs outputTokens resultKeys moreResults ho hnames hselectors hfits =>
      refine iff_of_true (succeeds_ok _) ⟨o, ho, fun inputs' outputs' hnames' _ => ?_⟩
      obtain ⟨rfl, rfl⟩ := hnames.unique hnames'
      exact hfits

/-- What is kept of an entry that fits is what it describes. -/
theorem convert_eq_kept_iff :
    e.convert service name = .ok (.kept p) ↔ e.Fits service name ∧ e.Describes name p := by
  have hfits : Succeeds (e.convert service name) ↔ e.Fits service name := convert_succeeds
  have hcourse := course_convert service name e
  generalize e.convert service name = r at hcourse hfits ⊢
  cases hcourse with
  | unknown ho | misfit ho hnames hselectors hmisfit =>
      exact iff_of_false nofun fun h => not_succeeds_error _ (hfits.mpr h.1)
  | tokenless ho hnames =>
      refine iff_of_false nofun fun h => ?_
      obtain ⟨outputs, hnames', -⟩ := h.2.names
      exact hnames _ _ hnames'
  | unreadable ho hnames herror =>
      refine iff_of_false nofun fun h => ?_
      obtain ⟨outputs, hnames', hselectors⟩ := h.2.names
      obtain ⟨-, rfl⟩ := hnames.unique hnames'
      cases herror.symm.trans hselectors
  | kept ho hnames hselectors hinput =>
      obtain ⟨houtputs, hresults, hmore⟩ := selectors_eq_ok.mp hselectors
      constructor
      · intro h
        obtain rfl := PaginatorOutcome.kept.inj (Except.ok.inj h)
        exact ⟨hfits.mp (succeeds_ok _),
          ⟨rfl, hnames.input, ⟨_, hnames.output, houtputs⟩, rfl, hresults, hmore⟩⟩
      · rintro ⟨-, h⟩
        obtain ⟨outputs', hnames', hselectors'⟩ := h.names
        obtain ⟨hinputs, rfl⟩ := hnames.unique hnames'
        have hvalues := Except.ok.inj (hselectors.symm.trans hselectors')
        simp only [Prod.mk.injEq] at hvalues
        obtain ⟨hos, hrs, hm⟩ := hvalues
        have hname := h.operation
        have hlimit := h.limitKey
        cases p
        simp_all

/-- What an entry that was converted is warned of is the first text that is no selector. -/
theorem warning?_of_convert {outcome : PaginatorOutcome}
    (h : e.convert service name = .ok outcome) : outcome.warning? name = e.warning? name := by
  have hcourse := course_convert service name e
  rw [h] at hcourse
  cases hcourse with
  | tokenless ho hnames =>
      refine (Option.eq_none_iff_forall_ne_some.mpr fun w hw => ?_).symm
      simp only [warning?, Option.bind_eq_bind, Option.bind_eq_some_iff] at hw
      obtain ⟨inputs, hinput, outputs, houtput, -⟩ := hw
      exact hnames inputs outputs ⟨hinput, houtput⟩
  | unreadable ho hnames herror => exact ((warning?_eq_some_iff hnames).mpr ⟨_, herror, rfl⟩).symm
  | kept ho hnames hselectors hinput =>
      refine (Option.eq_none_iff_forall_ne_some.mpr fun w hw => ?_).symm
      obtain ⟨error, herror, -⟩ := (warning?_eq_some_iff hnames).mp hw
      cases hselectors.symm.trans herror

end PaginatorEntry

/-! ## What becomes of a document -/

variable {service : Service} {entries : List (String × PaginatorEntry)} {t : Table Pagination}

/-- The warnings of a conversion are those of its entries, in the order of the document. -/
theorem events_convertPaginators (h : Succeeds (convertPaginators service entries).result) :
    (convertPaginators service entries).events =
      entries.filterMap fun e => e.2.warning? e.1 := by
  induction entries with
  | nil => rfl
  | cons e rest ih =>
      obtain ⟨name, e⟩ := e
      rw [List.filterMap_cons]
      cases hconvert : e.convert service name with
      | error fault =>
          rw [convertPaginators, hconvert] at h
          exact absurd h (not_succeeds_error _)
      | ok outcome =>
          rw [convertPaginators, hconvert] at h ⊢
          rw [← PaginatorEntry.warning?_of_convert hconvert]
          cases outcome with
          | kept p =>
              obtain ⟨t, ht, -⟩ := succeeds_bind.mp (Trace.result_bind .. ▸ h)
              exact (Trace.events_bind ht).trans ((List.append_nil _).trans (ih ⟨t, ht⟩))
          | tokenless => exact ih h
          | unreadable error => exact congrArg (_ :: ·) (ih h)

theorem convertPaginators_succeeds_iff (hentries : (entries.map (·.1)).Nodup) :
    Succeeds (convertPaginators service entries).result ↔
      ∀ e ∈ entries, e.2.Fits service e.1 := by
  simp only [← PaginatorEntry.convert_succeeds, ← succeeds_map (f := PaginatorOutcome.kept?)]
  constructor
  · rintro ⟨t, ht⟩
    exact ((convertPaginators_eq_ok_iff hentries).mp ht).succeeds
  · exact convertPaginators_succeeds

/-- A paginator is kept under a name exactly if the entry of the name describes it. -/
theorem get?_of_convertPaginators (hentries : (entries.map (·.1)).Nodup)
    (h : (convertPaginators service entries).result = .ok t) {name : String} {p : Pagination} :
    t.get? name = some p ↔ ∃ e, (name, e) ∈ entries ∧ e.Describes name p := by
  have hfits := (convertPaginators_succeeds_iff hentries).mp ⟨t, h⟩
  rw [((convertPaginators_eq_ok_iff hentries).mp h).holds]
  refine exists_congr fun e => and_congr_right fun he => ?_
  have hkept : e.paginator? service name = .ok (some p) ↔
      e.convert service name = .ok (.kept p) := by
    refine map_eq_ok.trans ⟨?_, fun h => ⟨_, h, rfl⟩⟩
    rintro ⟨outcome, hconvert, hkept⟩
    cases outcome with
    | kept q =>
        obtain rfl := Option.some.inj hkept
        exact hconvert
    | tokenless | unreadable error => cases hkept
  rw [hkept, PaginatorEntry.convert_eq_kept_iff]
  exact and_iff_right (hfits _ he)

/-- A document is converted exactly if all its entries fit the service. The
paginators are then what the entries describe that name tokens and whose texts
are all selectors, and each other entry with tokens gives a warning. -/
theorem convertPaginators_exact (hentries : (entries.map (·.1)).Nodup) :
    (Succeeds (convertPaginators service entries).result ↔
      ∀ e ∈ entries, e.2.Fits service e.1) ∧
    ∀ t, (convertPaginators service entries).result = .ok t →
      (∀ name p, t.get? name = some p ↔ ∃ e, (name, e) ∈ entries ∧ e.Describes name p) ∧
      (convertPaginators service entries).events =
        entries.filterMap fun e => e.2.warning? e.1 :=
  ⟨convertPaginators_succeeds_iff hentries, fun t h =>
    ⟨fun _ _ => get?_of_convertPaginators hentries h, events_convertPaginators ⟨t, h⟩⟩⟩

/-! ## An example

Two ways to leaf through books. One of them is written in a language of which
only a part is supported. -/

/-- The entries for two operations on books. -/
def shelf : List (String × PaginatorEntry) :=
  [("GetBook",
      { inputToken := some ["Title"], outputToken := some ["Sequels[-1] | [0]"]
        limitKey := none, resultKey := none, moreResults := none }),
    ("ListBooks",
      { inputToken := some ["Marker"], outputToken := some ["Marker || Books[-1].Title"]
        limitKey := none, resultKey := some ["Books"], moreResults := none })]

theorem convertPaginators_shelf : ∃ s t, Sources.books.toService.result = .ok s ∧
    (shelf.map (·.1)).Nodup ∧ (∀ e ∈ shelf, e.2.Fits s e.1) ∧
    (convertPaginators s shelf).result = .ok t ∧
    t.get? "ListBooks" = some
      { operation := "ListBooks", inputTokens := ["Marker"]
        outputTokens := [⟨[[.field "Marker"], [.field "Books", .index (-1), .field "Title"]]⟩]
        limitKey := none, resultKeys := [⟨[[.field "Books"]]⟩], moreResults := none } ∧
    t.get? "GetBook" = none ∧
    (convertPaginators s shelf).events =
      [.unreadablePaginator "GetBook" (.unsupported "Sequels[-1] | [0]")] := by
  have hrun : (Sources.books.toService.result.map fun s =>
      (convertPaginators s shelf).result.map (·.keys)) = .ok (.ok ["ListBooks"]) := by
    decide
  obtain ⟨s, hs, hrun⟩ := map_eq_ok.mp hrun
  obtain ⟨t, ht, hkeys⟩ := map_eq_ok.mp hrun
  have hnames : (shelf.map (·.1)).Nodup := by decide
  obtain ⟨hfits, hkept⟩ := @convertPaginators_exact s shelf hnames
  obtain ⟨hget, hevents⟩ := hkept t ht
  refine ⟨s, t, hs, hnames, hfits.mp ⟨t, ht⟩, ht, ?_, ?_, hevents.trans (by decide)⟩
  · refine (hget _ _).mpr ⟨_, List.mem_cons_of_mem _ List.mem_cons_self, ?_⟩
    exact ⟨rfl, rfl, ⟨_, rfl, .cons (by decide) .nil⟩, rfl,
      .cons (by decide) .nil, .none⟩
  · refine Option.eq_none_iff_forall_ne_some.mpr fun p hp => ?_
    have hmem := Table.mem_keys_iff.mpr ⟨p, hp⟩
    rw [hkeys] at hmem
    exact absurd hmem (by decide)

end Definition

end Clientwright
