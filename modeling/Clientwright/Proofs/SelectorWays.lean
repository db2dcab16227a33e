import Clientwright.Proofs.PageGuards
import Clientwright.Proofs.SelectorTexts

/-!
# Where selectors may lead

The selectors of waiters and those of paginators are followed by two walks over the
shapes, and the walks differ in what they cross. A waiter compares all values that
it finds, so it may go through whole lists and through boxes, but what it finds has
to be texts. A paginator takes one value over, whatever it is, and the ways to it
have to end at one type.

Each walk is said to accept what a judgement on shapes allows (`Spans`, `Leads`),
and the judgement has one rule for each kind of step. What comes out has a step
through generated types for each step of the selector, and this is seen once for
both: an index is taken from the start or from the end, and it fits a word there as
it did in the selector.
-/

namespace Clientwright

open Outcome Crate

/-! ## Judgements -/

/-- The steps of a selector lead from one shape to another, in lists to all items. -/
inductive Blueprint.Spans (b : Blueprint) : String → List Step → String → Prop where
  | here {k : String} : Spans b k [] k
  | field {k name leaf : String} {t : StructureShape} {m : Member} {rest : List Step} :
    b.service.shape? k = some (.structure t) → t.member? name = some m →
      Spans b m.shape rest leaf → Spans b k (.field name :: rest) leaf
  | project {k leaf : String} {l : ListShape} {rest : List Step} :
    b.service.shape? k = some (.list l) → Spans b l.member.shape rest leaf →
      Spans b k (.project :: rest) leaf
  | index {k leaf : String} {l : ListShape} {n : Int} {rest : List Step} :
    b.service.shape? k = some (.list l) → Spans b l.member.shape rest leaf →
      Spans b k (.index n :: rest) leaf

/-- The step through generated types that a step of a selector becomes. -/
inductive Step.Becomes : Step → AccessStep → Prop where
  | field (name : String) : Becomes (.field name) (.field (Naming.fieldIdent name))
  | project : Becomes .project .each
  | fromStart {n : Int} {i : Nat} : n = i → i < 0x8000000000000000 →
      Becomes (.index n) (.fromStart i)
  | fromEnd {n : Int} {i : Nat} : -n = i + 1 → i < 0x8000000000000000 →
      Becomes (.index n) (.fromEnd i)

variable {b : Blueprint} {k output leaf selector : String} {steps : List Step} {step : Step}
  {access : Access} {s : Selector} {text : String}

theorem becomes_ofStep (h : ∀ n, step = .index n → fitsInt64 n = true) :
    step.Becomes (.ofStep step) := by
  cases step with
  | field name => exact .field name
  | project => exact .project
  | index n =>
      have hn := h n rfl
      rw [fitsInt64, Bool.and_eq_true, decide_eq_true_eq, decide_eq_true_eq] at hn
      cases n with
      | ofNat i =>
          rw [Int.ofNat_eq_natCast] at hn
          exact .fromStart rfl (by omega)
      | negSucc i => exact .fromEnd rfl (by omega)

theorem becomes_ofAlternative {piece : List Char} (h : Selector.Alternative piece steps) :
    List.Forall₂ Step.Becomes steps (steps.map .ofStep) := by
  rw [List.forall₂_map_right_iff, List.forall₂_same]
  rintro step hstep
  exact becomes_ofStep fun n hn => Selector.fitsInt64_of_alternative h (hn ▸ hstep)

/-! ## All values -/

namespace Access

theorem spans_of_toValues (h : toValues b selector k steps = .ok access) :
    access.steps = steps.map .ofStep ∧ b.Spans k steps access.leaf := by
  induction steps generalizing k access with
  | nil =>
      obtain rfl := Except.ok.inj h
      exact ⟨rfl, .here⟩
  | cons step rest ih =>
      unfold toValues at h
      split at h
      · cases h
      · next name t hk =>
        split at h
        · cases h
        · next m hm =>
          obtain ⟨tail, htail, rfl⟩ := map_eq_ok.mp h
          obtain ⟨hsteps, hspans⟩ := ih htail
          refine ⟨?_, .field hk hm hspans⟩
          show AccessStep.field (Naming.fieldIdent m.name) :: tail.steps = _
          rw [hsteps, StructureShape.name_of_member? hm]
          rfl
      · next n l hk =>
        obtain ⟨tail, htail, rfl⟩ := map_eq_ok.mp h
        obtain ⟨hsteps, hspans⟩ := ih htail
        exact ⟨congrArg (AccessStep.ofIndex n :: ·) hsteps, .index hk hspans⟩
      · next l hk =>
        obtain ⟨tail, htail, rfl⟩ := map_eq_ok.mp h
        obtain ⟨hsteps, hspans⟩ := ih htail
        exact ⟨congrArg (AccessStep.each :: ·) hsteps, .project hk hspans⟩
      · cases h

theorem toValues_of_spans (h : b.Spans k steps leaf) (selector : String) :
    toValues b selector k steps = .ok ⟨steps.map .ofStep, leaf⟩ := by
  induction h with
  | here => rfl
  | field hk hm _ ih =>
      unfold toValues
      simp only [hk, hm, ih, Except.map, cons, StructureShape.name_of_member? hm]
      rfl
  | project hk _ ih | index hk _ ih =>
      unfold toValues
      simp only [hk, ih, Except.map, cons]
      rfl

end Access

/-- A selector is comparable if it has one alternative, and this leads to scalars that are
no bytes. -/
theorem comparable_eq_ok :
    comparable b output s = .ok access ↔ ∃ steps t, s.alternatives = [steps] ∧
      b.Spans output steps access.leaf ∧ access.steps = steps.map .ofStep ∧
        b.service.shape? access.leaf = some (.scalar t) ∧ t.kind ≠ .blob := by
  unfold comparable
  constructor
  · intro h
    split at h
    · next steps hsteps =>
      obtain ⟨way, hway, h⟩ := bind_eq_ok.mp h
      obtain ⟨hmap, hspans⟩ := Access.spans_of_toValues (mapError_eq_ok.mp hway)
      split at h
      · cases h
      · next t ht =>
        split at h
        · cases h
        · next hkind =>
          obtain rfl := pure_eq_ok.mp h
          exact ⟨steps, t, hsteps, hspans, hmap, ht, hkind⟩
      · cases h
    · cases h
  · rintro ⟨steps, t, hsteps, hspans, hmap, ht, hkind⟩
    rw [hsteps]
    refine bind_eq_ok.mpr ⟨access, mapError_eq_ok.mpr ?_, ?_⟩
    · rw [Access.toValues_of_spans hspans, ← hmap]
    · simp only [ht, if_neg hkind]
      rfl

/-! ## One value -/

/-- A selector may begin with a field. -/
theorem Access.toToken_of_leads {isFirst : Bool} (h : b.Leads k steps leaf)
    (hfirst : isFirst = true → ∃ name rest, steps = .field name :: rest) (selector : String) :
    toToken b selector k isFirst steps = .ok ⟨steps.map .ofStep, leaf⟩ := by
  induction h generalizing isFirst with
  | here => rfl
  | @field k name leaf t m rest hk hm hbox _ ih =>
      have hrest : toToken b selector m.shape false rest = .ok ⟨rest.map .ofStep, leaf⟩ :=
        ih fun h => absurd h Bool.false_ne_true
      unfold toToken
      simp only [hk, hm, hbox, hrest, Except.map, cons, StructureShape.name_of_member? hm]
      rfl
  | @index k leaf l n rest hk _ ih =>
      have hrest : toToken b selector l.member.shape false rest = .ok ⟨rest.map .ofStep, leaf⟩ :=
        ih fun h => absurd h Bool.false_ne_true
      have hlater : isFirst = false := by
        rw [Bool.eq_false_iff]
        intro htrue
        obtain ⟨name, rest, heq⟩ := hfirst htrue
        cases heq
      unfold toToken
      simp only [hk, hlater, hrest, Except.map, cons]
      rfl

/-- Ways that end at values of one type are accepted. -/
theorem tokenWays_of_forall₂ {before : Option String} {alternatives : List (List Step)}
    {ways : List Access} {type : Option ValueType}
    (h : List.Forall₂ (fun steps way => Access.toToken b selector output true steps = .ok way)
      alternatives ways)
    (hbefore : ∀ leaf ∈ before, (b.shapeType leaf).toOption = type)
    (hways : ∀ way ∈ ways, (b.shapeType way.leaf).toOption = type) :
    tokenWays b selector output before alternatives = .ok ways := by
  induction h generalizing before with
  | nil => rfl
  | @cons steps way rest others hway hrest ih =>
      obtain ⟨hfirst, hothers⟩ := List.forall_mem_cons.mp hways
      have hsame : before.any (fun leaf => !sameType b leaf way.leaf) = false := by
        cases before with
        | none => rfl
        | some leaf =>
            rw [Option.any_some, sameType, hbefore leaf rfl, hfirst, beq_self_eq_true]
            rfl
      have hnext : ∀ leaf ∈ some way.leaf, (b.shapeType leaf).toOption = type := by
        rintro leaf ⟨⟩
        exact hfirst
      refine bind_eq_ok.mpr ⟨way, mapError_eq_ok.mpr hway, ?_⟩
      dsimp only
      rw [hsame, if_neg Bool.false_ne_true]
      exact bind_eq_ok.mpr ⟨others, ih hnext hothers, rfl⟩

/-- A selector that was read gives a token if each alternative leads somewhere and the types
there are the same. -/
theorem succeeds_tokenOf (h : Selector.parse text = .ok s) :
    Succeeds (tokenOf b output s) ↔
      ∃ leaves, List.Forall₂ (b.Leads output) s.alternatives leaves ∧
        ∃ type, ∀ leaf ∈ leaves, (b.shapeType leaf).toOption = type := by
  constructor
  · rintro ⟨token, htoken⟩
    obtain ⟨hways, -, htype⟩ := leads_of_tokenOf htoken
    refine ⟨token.ways.map (·.leaf), ?_, _, List.forall_mem_map.mpr htype⟩
    rw [List.forall₂_map_right_iff]
    exact hways.imp fun _ _ hway => (Access.leads_of_toToken hway).2
  · rintro ⟨leaves, hleads, type, htype⟩
    have hfields : ∀ steps ∈ s.alternatives, ∃ name rest, steps = Step.field name :: rest := by
      intro steps hsteps
      obtain ⟨piece, hpath⟩ := Selector.exists_alternative h hsteps
      exact hpath.exists_field
    have htyped : List.Forall₂ (fun steps leaf =>
        (∃ name rest, steps = Step.field name :: rest) ∧ b.Leads output steps leaf)
        s.alternatives leaves := (List.forall₂_and_left _ _).mpr ⟨hfields, hleads⟩
    obtain ⟨ways, hways, hleaves⟩ := exists_forall₂_between
      (P := fun steps way => Access.toToken b s.text output true steps = .ok way)
      (Q := fun leaf way => way.leaf = leaf) htyped
      fun steps leaf hlead => ⟨_, Access.toToken_of_leads hlead.2 (fun _ => hlead.1) _, rfl⟩
    have hne : ways ≠ [] := by
      rintro rfl
      rw [List.forall₂_nil_right_iff] at hways
      exact Selector.alternatives_ne_nil h hways
    have hsame : ∀ way ∈ ways, (b.shapeType way.leaf).toOption = type := by
      intro way hway
      obtain ⟨leaf, hleaf, rfl⟩ := exists_left_of_forall₂ hleaves hway
      exact htype _ hleaf
    refine succeeds_bind.mpr ⟨ways, tokenWays_of_forall₂ hways nofun hsame, ?_⟩
    rw [List.getLast?_eq_some_getLast hne]
    exact succeeds_ok _

/-! ## Both walks -/

/-- The two walks take the selector as it is meant, from an output shape on. Each accepts it
exactly if it is well typed for the walk. What is emitted then takes its steps, each as it
is, in their order and in the order of the alternatives, and so finds what it finds. -/
structure Selector.Walked (b : Blueprint) (output : String) (s : Selector) : Prop where
  comparable : Succeeds (comparable b output s) ↔ ∃ steps leaf t, s.alternatives = [steps] ∧
    b.Spans output steps leaf ∧ b.service.shape? leaf = some (.scalar t) ∧ t.kind ≠ .blob
  token : Succeeds (tokenOf b output s) ↔
    ∃ leaves, List.Forall₂ (b.Leads output) s.alternatives leaves ∧
      ∃ type, ∀ leaf ∈ leaves, (b.shapeType leaf).toOption = type
  values : ∀ access, Crate.comparable b output s = .ok access →
    ∃ steps chain, s.alternatives = [steps] ∧ List.Forall₂ Step.Becomes steps chain ∧
      access.valuesExpr.stepsFromOutput? = some chain ∧
      ∀ d : Datum, d.Fits b.service output → d.textsAt chain = some (d.values s)
  ways : ∀ token, tokenOf b output s = .ok token →
    ∃ chains, List.Forall₂ (List.Forall₂ Step.Becomes) s.alternatives chains ∧
      token.expr.ways? = some chains ∧
      ∀ d : Datum, d.Fits b.service output → token.expr.tokenIn d = d.token s

/-- Every selector that was read is walked as it is meant. -/
theorem walked_of_parse (h : Selector.parse text = .ok s) (b : Blueprint) (output : String) :
    s.Walked b output := by
  constructor
  case comparable =>
    constructor
    · rintro ⟨access, haccess⟩
      obtain ⟨steps, t, hsteps, hspans, -, ht, hkind⟩ := comparable_eq_ok.mp haccess
      exact ⟨steps, _, t, hsteps, hspans, ht, hkind⟩
    · rintro ⟨steps, leaf, t, hsteps, hspans, ht, hkind⟩
      exact ⟨⟨_, leaf⟩, comparable_eq_ok.mpr ⟨steps, t, hsteps, hspans, rfl, ht, hkind⟩⟩
  case token => exact succeeds_tokenOf h
  case values =>
    intro access haccess
    obtain ⟨steps, t, hsteps, -, hmap, -⟩ := comparable_eq_ok.mp haccess
    have hmem : steps ∈ s.alternatives := hsteps ▸ List.mem_singleton_self steps
    obtain ⟨piece, hpath⟩ := Selector.exists_alternative h hmem
    refine ⟨steps, access.steps, hsteps, ?_, stepsFromOutput?_valuesExpr access, fun d hd => ?_⟩
    · rw [hmap]
      exact becomes_ofAlternative hpath
    · exact textsAt_comparable haccess hd
  case ways =>
    intro token htoken
    have hproper : s.Proper := fun steps => Selector.ne_nil_of_mem_alternatives h
    have hways := ways?_of_tokenOf hproper htoken
    refine ⟨_, ?_, hways, fun d hd => Expr.tokenIn_of_ways hways (fun steps hsteps => ?_) hd⟩
    · rw [List.forall₂_map_right_iff, List.forall₂_same]
      intro steps hsteps
      obtain ⟨piece, hpath⟩ := Selector.exists_alternative h hsteps
      exact becomes_ofAlternative hpath
    · obtain ⟨way, -, hway⟩ := exists_right_of_forall₂ (leads_of_tokenOf htoken).1 hsteps
      exact ⟨way.leaf, (Access.leads_of_toToken hway).2⟩

/-! Orbits have moons, and a moon may have an orbit of its own, which is boxed. -/

/-- A member of an orbit. -/
def orbitMember (name shape : String) : Member :=
  ⟨name, shape, false, .body, none, none, false, false, false, false, none, none, none, false⟩

/-- A structure of an orbit. -/
def orbitShape (name : String) (members : List Member) : StructureShape :=
  ⟨name, members, none, false, none, none, none, false, none, false⟩

/-- The service of orbits. -/
def orbits : Blueprint where
  service := {
    name := "orbits"
    metadata := ⟨"2020-02-29", "orbits", "Orbits", "Orbits", .json, none, none, none, none, none⟩
    documentation := none
    operations := .empty
    shapes := ⟨[
      ("Moon", .structure (orbitShape "Moon" [orbitMember "Name" "Text",
        orbitMember "Own" "Orbit"])),
      ("Moons", .list ⟨"Moons", ⟨"Moon", none⟩, false, none⟩),
      ("Orbit", .structure (orbitShape "Orbit" [orbitMember "Moons" "Moons",
        orbitMember "Next" "Text"])),
      ("Text", .scalar ⟨"Text", .string, [], none, false, false, none⟩)], by decide⟩
    paginators := .empty
    waiters := .empty }
  usage := ⟨[], [], [], []⟩
  names := []
  boxed := [("Moon", "Own")]

/-- A token may be in an item counted from the end. What is behind whole lists and boxes is for
waiters. -/
theorem walked_orbits :
    (∃ s, Selector.parse "Next || Moons[-9223372036854775808].Name" = .ok s ∧
      Succeeds (tokenOf orbits "Orbit" s) ∧ ¬ Succeeds (comparable orbits "Orbit" s) ∧
        s.Walked orbits "Orbit") ∧
    ∃ s, Selector.parse "Moons[*].Own.Next" = .ok s ∧
      ¬ Succeeds (tokenOf orbits "Orbit" s) ∧ Succeeds (comparable orbits "Orbit" s) ∧
        s.Walked orbits "Orbit" := by
  have hnear : Selector.parse "Next || Moons[-9223372036854775808].Name" = .ok ⟨[[.field "Next"],
      [.field "Moons", .index (-0x8000000000000000), .field "Name"]]⟩ := by decide
  have hfar : Selector.parse "Moons[*].Own.Next" = .ok ⟨[[.field "Moons", .project, .field "Own",
      .field "Next"]]⟩ := by decide
  have hwalked := walked_of_parse hnear orbits "Orbit"
  have hwalked' := walked_of_parse hfar orbits "Orbit"
  refine ⟨⟨_, hnear, ?_, ?_, hwalked⟩, _, hfar, ?_, ?_, hwalked'⟩
  · refine hwalked.token.mpr ⟨["Text", "Text"], .cons ?_ (.cons ?_ .nil), ?_⟩
    · exact .field rfl rfl rfl .here
    · exact .field rfl rfl rfl (.index rfl (.field rfl rfl rfl .here))
    · refine ⟨(orbits.shapeType "Text").toOption, fun leaf hleaf => ?_⟩
      rcases List.mem_pair.mp hleaf with rfl | rfl <;> rfl
  · rw [hwalked.comparable]
    rintro ⟨steps, leaf, t, h, -⟩
    cases h
  · rw [hwalked'.token]
    rintro ⟨leaves, h, -⟩
    obtain ⟨leaf, leaves, hleads, -⟩ := List.forall₂_cons_left_iff.mp h
    exact hleads.project_not_mem (List.mem_cons_of_mem _ List.mem_cons_self)
  · refine hwalked'.comparable.mpr ⟨_, "Text", _, rfl, ?_, rfl, nofun⟩
    exact .field rfl rfl (.project rfl (.field rfl rfl (.field rfl rfl .here)))

end Clientwright
