import Clientwright.Proofs.PageRuns
import Clientwright.Proofs.Polls
import Clientwright.Proofs.SkippedEntries

/-!
# When there is a next page

A page iterator takes the tokens of an output over into the next input and goes
on while it got one. Whether the code for this is right is decided in two
documents and three passes. The reader of documents counts the tokens and finds
their members, the walk along each selector finds a type at its end, and the
emitter writes assignments and a condition, which has one form for one token and
another for several.

`Advances` is what the method should be: each input token is assigned what its
output token finds, of the type of its field, and the next input is kept if the
flag for more results is set, some token was found, and the input has changed.
A method that advances goes on exactly then, and so it stops when no token comes
back.

Every paginator with tokens gives such a method. The form of the condition for
several tokens is also taken for none, so a paginator whose lists of tokens are
both empty gives one that assigns nothing and has a condition that says nothing.
-/

namespace Clientwright

open Outcome

/-! ## Where selectors lead -/

/-- The step of a selector as a step through generated types. -/
def AccessStep.ofStep : Step → AccessStep
  | .field name => .field (Naming.fieldIdent name)
  | .project => .each
  | .index n => .ofIndex n

/-- The steps of a selector lead from one shape to another, through no box. -/
inductive Blueprint.Leads (b : Blueprint) : String → List Step → String → Prop where
  | here {k : String} : Leads b k [] k
  | field {k name leaf : String} {t : StructureShape} {m : Member} {rest : List Step} :
    b.service.shape? k = some (.structure t) → t.member? name = some m →
      b.isBoxed t m = false → Leads b m.shape rest leaf → Leads b k (.field name :: rest) leaf
  | index {k leaf : String} {l : ListShape} {n : Int} {rest : List Step} :
    b.service.shape? k = some (.list l) → Leads b l.member.shape rest leaf →
      Leads b k (.index n :: rest) leaf

variable {b : Blueprint} {k output leaf : String} {steps : List Step} {access : Access}

namespace Access

theorem leads_of_toToken {selector : String} {isFirst : Bool}
    (h : toToken b selector k isFirst steps = .ok access) :
    access.steps = steps.map .ofStep ∧ b.Leads k steps access.leaf := by
  induction steps generalizing k isFirst access with
  | nil =>
      obtain rfl := Except.ok.inj h
      exact ⟨rfl, .here⟩
  | cons step rest ih =>
      unfold toToken at h
      split at h
      · cases h
      · next name t hk =>
        split at h
        · cases h
        · next m hm =>
          split at h
          · cases h
          · next hbox =>
            obtain ⟨tail, htail, rfl⟩ := map_eq_ok.mp h
            obtain ⟨hsteps, hleads⟩ := ih htail
            refine ⟨?_, .field hk hm (Bool.eq_false_of_not_eq_true hbox) hleads⟩
            show AccessStep.field (Naming.fieldIdent m.name) :: tail.steps = _
            rw [hsteps, StructureShape.name_of_member? hm]
            rfl
      · next n l hk =>
        split at h
        · cases h
        · obtain ⟨tail, htail, rfl⟩ := map_eq_ok.mp h
          obtain ⟨hsteps, hleads⟩ := ih htail
          exact ⟨congrArg (AccessStep.ofIndex n :: ·) hsteps, .index hk hleads⟩
      · cases h
      · cases h

theorem exists_field_of_toToken {selector : String} (hsteps : steps ≠ [])
    (h : toToken b selector k true steps = .ok access) :
    ∃ name rest, steps = .field name :: rest := by
  unfold toToken at h
  split at h
  · exact absurd rfl hsteps
  · next step rest =>
    split at h
    · cases h
    · next name t hk => exact ⟨name, rest, rfl⟩
    · next n l hk => cases h
    · cases h
    · cases h

end Access

namespace Blueprint.Leads

theorem project_not_mem (h : b.Leads k steps leaf) : .project ∉ steps := by
  induction h with
  | here => exact List.not_mem_nil
  | field _ _ _ _ ih | index _ _ ih => simpa using ih

theorem each_not_mem (h : b.Leads k steps leaf) : .each ∉ steps.map AccessStep.ofStep := by
  intro hmem
  obtain ⟨step, hstep, heach⟩ := List.mem_map.mp hmem
  cases step with
  | field name => cases heach
  | project => exact h.project_not_mem hstep
  | index n => cases n <;> cases heach

theorem toValues (h : b.Leads k steps leaf) (selector : String) :
    Access.toValues b selector k steps = .ok ⟨steps.map .ofStep, leaf⟩ := by
  induction h with
  | here => rfl
  | field hk hm _ _ ih =>
      unfold Access.toValues
      simp only [hk, hm, ih, Except.map, Access.cons, StructureShape.name_of_member? hm]
      rfl
  | index hk _ ih =>
      unfold Access.toValues
      simp only [hk, ih, Except.map, Access.cons]
      rfl

end Blueprint.Leads

/-! ## Tokens -/

/-- Each alternative has a step, as in every selector that was read. -/
def Selector.Proper (s : Selector) : Prop := ∀ steps ∈ s.alternatives, steps ≠ []

/-- What is certain of a paginator once its document was read. -/
structure Pagination.Proper (p : Pagination) : Prop where
  counts : p.inputTokens.length = p.outputTokens.length
  outputTokens : ∀ s ∈ p.outputTokens, s.Proper
  moreResults : ∀ s ∈ p.moreResults, s.Proper

/-- The token that a selector finds, by the first alternative that finds one. -/
def Datum.token (d : Datum) (s : Selector) : Option Datum :=
  s.alternatives.findSome? fun steps => (d.found steps).head?

/-- The expression reads what the selector finds in an output: it tries the alternatives
in their order, and each leads to a value of the type. -/
structure Expr.Reads (b : Blueprint) (output : String) (s : Selector) (type : ValueType)
    (e : Expr) : Prop where
  ways : e.ways? = some (s.alternatives.map fun steps => steps.map .ofStep)
  leaf : ∀ steps ∈ s.alternatives, ∃ leaf, b.Leads output steps leaf ∧ b.shapeType leaf = .ok type

/-- Ways along the alternatives find in an output what the selector finds. -/
theorem Expr.tokenIn_of_ways {s : Selector} {e : Expr} {d : Datum}
    (hways : e.ways? = some (s.alternatives.map fun steps => steps.map .ofStep))
    (hleads : ∀ steps ∈ s.alternatives, ∃ leaf, b.Leads output steps leaf)
    (hd : d.Fits b.service output) : e.tokenIn d = d.token s := by
  have hreached : ∀ steps ∈ s.alternatives,
      d.reached (steps.map .ofStep) = (d.found steps).head? := by
    intro steps hsteps
    obtain ⟨leaf, hleads⟩ := hleads steps hsteps
    obtain ⟨hfollow, -⟩ :=
      Access.followAll_toValues (hleads.toValues "") (List.forall_mem_singleton.mpr hd)
    rw [Datum.reached, hfollow, List.flatMap_singleton, Option.bind_some]
  rw [Expr.tokenIn, hways, Option.bind_some, List.findSome?_map, Datum.token,
    ← List.head?_filterMap, ← List.head?_filterMap]
  exact congrArg List.head? (List.filterMap_congr hreached)

theorem Expr.Reads.tokenIn {s : Selector} {type : ValueType} {e : Expr} {d : Datum}
    (h : e.Reads b output s type) (hd : d.Fits b.service output) : e.tokenIn d = d.token s := by
  refine Expr.tokenIn_of_ways h.ways (fun steps hsteps => ?_) hd
  obtain ⟨leaf, hleads, -⟩ := h.leaf steps hsteps
  exact ⟨leaf, hleads⟩

/-! The expression of an access is read back step by step. -/

namespace Access

/-- The access leads from an output to one value at most. -/
def IsSingle (a : Access) : Prop := ∃ ident rest, a.steps = .field ident :: rest ∧ .each ∉ rest

theorem isSingle_of_toToken {selector : String} (hsteps : steps ≠ [])
    (h : toToken b selector k true steps = .ok access) : access.IsSingle := by
  obtain ⟨hmap, hleads⟩ := leads_of_toToken h
  obtain ⟨name, rest, rfl⟩ := exists_field_of_toToken hsteps h
  exact ⟨_, _, hmap, fun heach => hleads.each_not_mem (List.mem_cons_of_mem _ heach)⟩

theorem way?_tokenExpr (h : access.IsSingle) : access.tokenExpr.way? = some access.steps := by
  obtain ⟨ident, rest, hsteps, hrest⟩ := h
  have hcalls : (rest.map fun step => Expr.of [".and_then(", .closure "v" step.expr, ")"]).mapM
      Expr.andThenStep? = some rest := by
    rw [List.mapM_map, mapM_eq_some_map (g := id), List.map_id]
    exact fun step hstep => AccessStep.ofClosure?_expr fun heach => hrest (heach ▸ hstep)
  have hway : access.tokenExpr.way? = (do
      return (← (Expr.of ["output.", .field ident, ".as_ref()"]).outputStep?) ::
        (← (rest.map fun step => Expr.of [".and_then(", .closure "v" step.expr, ")"]).mapM
          Expr.andThenStep?)) := by
    rw [tokenExpr, hsteps, Expr.way?, Expr.pieces_of]
  rw [hway, hcalls, hsteps]
  rfl

theorem ways?_tokenExpr (h : access.IsSingle) :
    access.tokenExpr.ways? = some [access.steps] := by
  have hways : access.tokenExpr.ways? = access.tokenExpr.way?.map ([·]) := by
    obtain ⟨ident, rest, hsteps, -⟩ := h
    rw [tokenExpr, hsteps]
    cases rest <;> rfl
  rw [hways, way?_tokenExpr h, Option.map_some]

end Access

namespace Crate

/-- Each further way is put around the expression of those before it. -/
theorem ways?_foldl {ways : List Access} {e : Expr} {before : List (List AccessStep)}
    (h : ∀ way ∈ ways, way.IsSingle) (he : e.ways? = some before) :
    (ways.foldl (fun e way => .of [e, ".or_else(|| ", way.tokenExpr, ")"]) e).ways? =
      some (before ++ ways.map (·.steps)) := by
  induction ways generalizing e before with
  | nil => rw [List.foldl_nil, List.map_nil, List.append_nil, he]
  | cons way ways ih =>
      obtain ⟨hway, hways⟩ := List.forall_mem_cons.mp h
      have hnext : (Expr.of [e, ".or_else(|| ", way.tokenExpr, ")"]).ways? =
          some (before ++ [way.steps]) := by
        show (do return (← e.ways?) ++ [← way.tokenExpr.way?]) = _
        rw [he, Access.way?_tokenExpr hway]
        rfl
      rw [List.foldl_cons, ih hways hnext, List.map_cons, List.append_assoc,
        List.singleton_append]

theorem Token.ways?_expr {t : Token} (hne : t.ways ≠ []) (h : ∀ way ∈ t.ways, way.IsSingle) :
    t.expr.ways? = some (t.ways.map (·.steps)) := by
  obtain ⟨ways, leaf⟩ := t
  cases ways with
  | nil => exact absurd rfl hne
  | cons first rest =>
      obtain ⟨hfirst, hrest⟩ := List.forall_mem_cons.mp h
      exact ways?_foldl hrest (Access.ways?_tokenExpr hfirst)

/-- The ways to a token all end at values of one type, if at any. -/
theorem tokenWays_eq_ok {selector : String} {before : Option String}
    {alternatives : List (List Step)} {ways : List Access}
    (h : tokenWays b selector output before alternatives = .ok ways) :
    List.Forall₂ (fun steps way => Access.toToken b selector output true steps = .ok way)
      alternatives ways ∧
    ∃ type, (∀ leaf ∈ before, (b.shapeType leaf).toOption = type) ∧
      ∀ way ∈ ways, (b.shapeType way.leaf).toOption = type := by
  induction alternatives generalizing before ways with
  | nil =>
      obtain rfl := Except.ok.inj h
      refine ⟨.nil, before.bind fun leaf => (b.shapeType leaf).toOption, ?_, nofun⟩
      rintro leaf ⟨⟩
      rfl
  | cons steps rest ih =>
      obtain ⟨way, hway, h⟩ := bind_eq_ok.mp h
      dsimp only at h
      split at h
      · cases h
      · next hsame =>
        obtain ⟨others, hothers, h⟩ := bind_eq_ok.mp h
        obtain rfl := pure_eq_ok.mp h
        obtain ⟨hrest, type, hleaf, hways⟩ := ih hothers
        refine ⟨.cons (mapError_eq_ok.mp hway) hrest, type, fun leaf hbefore => ?_,
          List.forall_mem_cons.mpr ⟨hleaf _ rfl, hways⟩⟩
        obtain rfl := Option.mem_def.mp hbefore
        have hbeq : sameType b leaf way.leaf = true := by simpa using hsame
        exact (beq_iff_eq.mp hbeq).trans (hleaf _ rfl)

/-- A token has a way for each alternative of its selector, and these end at values of the
type of the token, if it has one. -/
theorem leads_of_tokenOf {s : Selector} {t : Token} (h : tokenOf b output s = .ok t) :
    List.Forall₂ (fun steps way => Access.toToken b s.text output true steps = .ok way)
      s.alternatives t.ways ∧
    t.ways ≠ [] ∧
      ∀ way ∈ t.ways, (b.shapeType way.leaf).toOption = (b.shapeType t.leaf).toOption := by
  obtain ⟨ways, hways, h⟩ := bind_eq_ok.mp h
  obtain ⟨hfollow, found, -, hfound⟩ := tokenWays_eq_ok hways
  split at h
  · next last hlast =>
    obtain rfl := pure_eq_ok.mp h
    have hmem := List.mem_of_getLast? hlast
    refine ⟨hfollow, List.ne_nil_of_mem hmem, fun way hway => ?_⟩
    rw [hfound way hway, hfound last hmem]
  · cases h

/-- The expression of a token tries the alternatives of its selector. -/
theorem ways?_of_tokenOf {s : Selector} {t : Token} (hs : s.Proper)
    (h : tokenOf b output s = .ok t) :
    t.expr.ways? = some (s.alternatives.map fun steps => steps.map .ofStep) := by
  obtain ⟨hfollow, hne, -⟩ := leads_of_tokenOf h
  have hsteps : t.ways.map (·.steps) =
      s.alternatives.map fun steps => steps.map AccessStep.ofStep := by
    rw [← List.forall₂_eq_eq_eq, List.forall₂_map_left_iff, List.forall₂_map_right_iff]
    exact hfollow.flip.imp fun _ _ hway => (Access.leads_of_toToken hway).1
  rw [Token.ways?_expr hne, hsteps]
  intro way hway
  obtain ⟨steps, hsteps, htoken⟩ := exists_left_of_forall₂ hfollow hway
  exact Access.isSingle_of_toToken (hs steps hsteps) htoken

/-- It reads what its selector finds, where the token has a type. -/
theorem reads_of_tokenOf {s : Selector} {t : Token} {type : ValueType}
    (hs : s.Proper) (h : tokenOf b output s = .ok t)
    (htype : b.shapeType t.leaf = .ok type) : t.expr.Reads b output s type := by
  refine ⟨ways?_of_tokenOf hs h, fun steps hsteps => ?_⟩
  obtain ⟨hfollow, -, hfound⟩ := leads_of_tokenOf h
  obtain ⟨way, hway, htoken⟩ := exists_right_of_forall₂ hfollow hsteps
  refine ⟨way.leaf, (Access.leads_of_toToken htoken).2, toOption_eq_some.mp ?_⟩
  rw [hfound way hway, htype]
  rfl

/-- What the method of an iterator does with a token of the input: it assigns the field
of the member, and the value has the type that the field is declared with. -/
def Assigns (b : Blueprint) (input : StructureShape) (output : String) (token : String × Selector)
    (a : String × Expr) : Prop :=
  ∃ m f, input.member? token.1 = some m ∧ Field.ofMember b input m = .ok f ∧ f.ident = a.1 ∧
    a.2.Reads b output token.2 f.type

variable {input : StructureShape} {p : Pagination} {pages : Pages}

theorem exists_field_of_memberType {m : Member} {type : ValueType}
    (h : b.memberType input m = .ok type) :
    ∃ f, Field.ofMember b input m = .ok f ∧ f.ident = Naming.fieldIdent m.name ∧
      f.type = type := by
  obtain ⟨value, hvalue, rfl⟩ := map_eq_ok.mp h
  refine ⟨_, bind_eq_ok.mpr ⟨value, hvalue, pure_eq_ok.mpr rfl⟩, ?_, ?_⟩ <;> dsimp only

theorem assigns_of_assignment {token : String × Selector} {a : Assignment}
    (hs : token.2.Proper) (h : assignment b input output token = .ok a) :
    Assigns b input output token (a.field, a.token.expr) := by
  obtain ⟨name, s⟩ := token
  dsimp only [assignment] at h
  split at h
  · next m hm =>
    obtain ⟨t, ht, h⟩ := bind_eq_ok.mp h
    obtain ⟨expected, hexpected, h⟩ := bind_eq_ok.mp h
    obtain ⟨found, hfound, h⟩ := bind_eq_ok.mp h
    split at h
    · cases h
    · next hsame =>
      obtain rfl := not_not.mp hsame
      obtain rfl := pure_eq_ok.mp h
      obtain ⟨f, hf, hident, htype⟩ := exists_field_of_memberType (mapError_eq_ok.mp hexpected)
      refine ⟨m, f, hm, hf, hident.trans ?_, ?_⟩
      · rw [StructureShape.name_of_member? hm]
      · exact htype ▸ reads_of_tokenOf hs ht (mapError_eq_ok.mp hfound)
  · cases h

/-- The flag for more results is read as a truth value. -/
theorem reads_of_moreResults {s : Selector} {t : Token}
    (hs : s.Proper) (h : moreResults b output s = .ok t) :
    t.expr.Reads b output s (.scalar .boolean) := by
  obtain ⟨found, hfound, h⟩ := bind_eq_ok.mp h
  split at h
  · next scalar hscalar =>
    split at h
    · next hkind =>
      obtain rfl := pure_eq_ok.mp h
      refine reads_of_tokenOf hs hfound ?_
      rw [Blueprint.shapeType, Blueprint.value, Service.value, Service.valueWithin, hscalar]
      simp [Blueprint.typeOf, ScalarShape.isEnum, hkind]
    · cases h
  · cases h

/-! ## The method for the next page -/

namespace Pages

theorem assigned_next :
    pages.next.assigned = pages.assignments.map fun a => (a.field, a.token.expr) := by
  have hfields : (Code.all (pages.assignments.map fun a =>
      .line (.of ["next.", .field a.field, " = ", a.token.expr, ".cloned();"]))).assigned =
        pages.assignments.map fun a => (a.field, a.token.expr) := by
    rw [Code.assigned_all, List.flatMap_map, List.map_eq_flatMap]
    rfl
  show (Code.all _).assigned = _
  simp only [Code.assigned_all, List.flatMap_cons, List.flatMap_nil, hfields]
  exact List.append_nil _

theorem guards_next : pages.next.guards Code.keepsNext = [[pages.condition]] := by
  have hfields : (Code.all (pages.assignments.map fun a =>
      .line (.of ["next.", .field a.field, " = ", a.token.expr, ".cloned();"]))).guards
        Code.keepsNext = [] := by
    rw [Code.guards_all, List.flatMap_map, List.flatMap_eq_nil_iff]
    exact fun a _ => if_neg nofun
  show ((Code.all _).guards Code.keepsNext).map _ = _
  simp only [Code.guards_all, List.flatMap_cons, List.flatMap_nil, hfields]
  rfl

/-- Several tests stand in parentheses, and one alone does not. -/
theorem exists_tests (h : pages.assignments ≠ []) : ∃ tests : Expr,
    pages.condition = .separated " && " (pages.more.toList.map (fun t =>
      .of [t.expr, ".copied().unwrap_or(false)"]) ++ [tests, "next != input"]) ∧
    tests.split " && " = [tests] ∧
    tests.tests? = some (pages.assignments.map fun a => .set a.field) := by
  let isSome (a : Assignment) : Expr := .of ["next.", .field a.field, ".is_some()"]
  match ha : pages.assignments with
  | [] => exact absurd ha h
  | [a] =>
    refine ⟨isSome a, ?_, rfl, rfl⟩
    rw [condition, ha]
  | a :: a' :: rest =>
    have hsplit : (Expr.separated " || " ((a :: a' :: rest).map isSome)).split " || " =
        (a :: a' :: rest).map isSome :=
      Expr.split_separated (List.cons_ne_nil _ _) (List.forall_mem_map.mpr fun _ _ => rfl)
    refine ⟨.of ["(", .separated " || " ((a :: a' :: rest).map isSome), ")"], ?_, rfl, ?_⟩
    · rw [condition, ha]
    · rw [Expr.tests?, Expr.pieces_of]
      show (Expr.split _ _).mapM Expr.test? = _
      rw [hsplit, List.mapM_map]
      exact mapM_eq_some_map fun _ _ => rfl

theorem guard?_condition (h : pages.assignments ≠ []) : pages.condition.guard? =
    some (pages.more.toList.map (fun t => [.flag t.expr]) ++
      [pages.assignments.map fun a => .set a.field, [.changed]]) := by
  obtain ⟨tests, hcondition, hsplit, htests⟩ := exists_tests h
  have hflags : (pages.more.toList.map fun t =>
      Expr.of [t.expr, ".copied().unwrap_or(false)"]).mapM Expr.tests? =
        some (pages.more.toList.map fun t => [.flag t.expr]) := by
    rw [List.mapM_map]
    exact mapM_eq_some_map fun t _ => Expr.tests?_flag t.expr
  rw [Expr.guard?, hcondition, Expr.split_separated, List.mapM_append, hflags]
  · rw [List.mapM_cons, htests]
    rfl
  · exact List.append_ne_nil_of_right_ne_nil _ (List.cons_ne_nil _ _)
  · intro e he
    rcases List.mem_append.mp he with he | he
    · obtain ⟨t, -, rfl⟩ := List.mem_map.mp he
      rfl
    · rcases List.mem_cons.mp he with rfl | he
      · exact hsplit
      · obtain rfl := List.mem_singleton.mp he
        rfl

end Pages

/-- The method takes the tokens over and goes on as long as it got one: each input token is
assigned what its output token finds, and the next input is kept at one place, under one
condition. -/
structure Advances (b : Blueprint) (p : Pagination) (input : StructureShape) (output : String)
    (next : Code) : Prop where
  assigned_ne_nil : next.assigned ≠ []
  counts : next.assigned.length = p.inputTokens.length
  assigns : List.Forall₂ (Assigns b input output) (p.inputTokens.zip p.outputTokens) next.assigned
  guard : ∃ condition flag, next.guards Code.keepsNext = [[condition]] ∧
    Option.Rel (fun s e => Expr.Reads b output s (.scalar .boolean) e) p.moreResults flag ∧
    condition.guard? = some (flag.toList.map (fun e => [.flag e]) ++
      [next.assigned.map fun a => .set a.1, [.changed]])

theorem advances_of_assignments (hp : p.Proper) (htokens : p.inputTokens ≠ [])
    (hassigned : List.Forall₂ (fun token a => assignment b input output token = .ok a)
      (p.inputTokens.zip p.outputTokens) pages.assignments)
    (hmore : Option.Rel (fun s t => moreResults b output s = .ok t) p.moreResults pages.more) :
    Advances b p input output pages.next := by
  have hlength : pages.assignments.length = p.inputTokens.length := by
    rw [← hassigned.length_eq, List.length_zip, ← hp.counts, Nat.min_self]
  have hne : pages.assignments ≠ [] := fun hnone => by
    rw [hnone] at hlength
    exact htokens (List.eq_nil_of_length_eq_zero hlength.symm)
  constructor
  · rw [Pages.assigned_next]
    exact mt List.map_eq_nil_iff.mp hne
  · rw [Pages.assigned_next, List.length_map, hlength]
  · rw [Pages.assigned_next, List.forall₂_map_right_iff]
    have hproper : ∀ token ∈ p.inputTokens.zip p.outputTokens, token.2.Proper :=
      fun token htoken => hp.outputTokens _ (List.of_mem_zip htoken).2
    refine ((List.forall₂_and_left _ _).mpr ⟨hproper, hassigned⟩).imp ?_
    exact fun token a ⟨hs, ha⟩ => assigns_of_assignment hs ha
  · have hproper := hp.moreResults
    refine ⟨pages.condition, pages.more.map Token.expr, Pages.guards_next, ?_, ?_⟩
    · generalize p.moreResults = wanted, pages.more = found at hmore hproper
      cases hmore with
      | none => exact .none
      | some ht => exact .some (reads_of_moreResults (hproper _ rfl) ht)
    · rw [Pages.guard?_condition hne, Pages.assigned_next, List.map_map, Option.toList_map,
        List.map_map]
      rfl

/-- Where the method for the next page advances, there is one exactly if the flag for more
results is set, a field got a token, and the input has changed. -/
theorem Advances.goesOn_iff {next : Code} {d : Datum} {fields : Fields}
    (h : Advances b p input output next) (hd : d.Fits b.service output) :
    next.GoesOn d fields ↔
      (∀ s ∈ p.moreResults, (d.token s).bind Datum.text? = some "true") ∧
      (∃ a ∈ next.assigned, (next.nextInput d fields a.1).isSome) ∧
      next.nextInput d fields ≠ fields := by
  obtain ⟨condition, flag, hplace, hflag, hcondition⟩ := h.guard
  have hflags : (∀ e ∈ flag, e.IsSetIn d) ↔
      ∀ s ∈ p.moreResults, (d.token s).bind Datum.text? = some "true" := by
    generalize p.moreResults = wanted at hflag
    cases hflag with
    | none => exact iff_of_true nofun nofun
    | some hreads => simp [Expr.IsSetIn, hreads.tokenIn hd]
  have hplaces : next.GoesOn d fields ↔ condition.Holds d fields (next.nextInput d fields) := by
    simp [Code.GoesOn, hplace]
  rw [hplaces, Expr.holds_iff hcondition, List.forall_mem_append, List.forall_mem_map, ← hflags]
  simp [Test.Holds]

/-- It stops when no token comes back. -/
theorem Advances.not_goesOn {next : Code} {d : Datum} {fields : Fields}
    (h : Advances b p input output next) (hd : d.Fits b.service output)
    (hnone : ∀ s ∈ p.outputTokens, d.token s = none) : ¬ next.GoesOn d fields := by
  rw [h.goesOn_iff hd]
  rintro ⟨-, ⟨a, ha, hset⟩, -⟩
  have htokens : ∀ a ∈ next.assigned, a.2.tokenIn d = none := by
    intro a ha
    obtain ⟨token, htoken, m, f, -, -, -, hreads⟩ := exists_left_of_forall₂ h.assigns ha
    rw [hreads.tokenIn hd]
    exact hnone _ (List.of_mem_zip htoken).2
  rw [Code.nextInput, assignTokens_eq_none htokens (.inr (List.mem_map_of_mem ha))] at hset
  cases hset

end Crate

namespace Sources

open Definition

variable {src : Sources} {s : Service} {p : Pagination}

theorem proper_of_toService (hsrc : src.Distinct) (hs : src.toService.result = .ok s)
    (hp : p ∈ s.paginators.values) : p.Proper := by
  obtain ⟨k, hk⟩ := Table.mem_values_iff.mp hp
  obtain ⟨e, ⟨o, -, hfits⟩, hdescribes⟩ := exists_entry_of_toService hsrc hs hk
  obtain ⟨outputs, hnames, hselectors⟩ := hdescribes.names
  obtain ⟨houtputs, -, hmore⟩ := PaginatorEntry.selectors_eq_ok.mp hselectors
  have hreadable := PaginatorEntry.readable_iff.mpr ⟨_, hselectors⟩
  constructor
  · exact (hfits _ _ hnames hreadable).counts.trans houtputs.length_eq
  · intro x hx
    obtain ⟨text, -, htext⟩ := exists_left_of_forall₂ houtputs hx
    exact fun steps => Selector.ne_nil_of_mem_alternatives htext
  · intro x hx
    rw [Option.mem_def.mp hx] at hmore
    generalize e.moreResults = text at hmore
    cases hmore with
    | some htext => exact fun steps => Selector.ne_nil_of_mem_alternatives htext

/-- A paginator of a service gives a page iterator that advances exactly if it has a
token. -/
theorem advances_iff (hsrc : src.Distinct) (hs : src.toService.result = .ok s)
    {selection : List String} {b : Blueprint} (hb : Blueprint.of s selection = .ok b)
    {pages : Crate.Pages} (h : (p, pages) ∈ Crate.allPages b) :
    ∃ o input output, s.operation? p.operation = some o ∧ s.inputOf? o = some input ∧
      o.output = some output ∧
      (Crate.Advances b p input output pages.next ↔ p.inputTokens ≠ []) := by
  obtain ⟨hmem, o, -, ho, hpages⟩ := Crate.mem_allPages h
  obtain ⟨input, output, hinput, houtput, hassignments, hmore, -, -⟩ :=
    Crate.exists_of_pagesOf hpages
  obtain ⟨-, rfl⟩ := Blueprint.ready_of_of hs hb
  refine ⟨o, input, output, ho, hinput, houtput, fun h hnone => ?_, fun htokens => ?_⟩
  · exact h.assigned_ne_nil (List.eq_nil_of_length_eq_zero (by rw [h.counts, hnone]; rfl))
  · exact Crate.advances_of_assignments (proper_of_toService hsrc hs hmem) htokens
      (mapM_eq_ok.mp hassignments) (mapM_option_eq_ok.mp hmore)

/-! ## An example

Books are leafed through by a marker, or by the title of the last one if there is no
marker. -/

/-- The documents about books with one way to leaf through them, by these tokens. -/
def browsed (inputs outputs : List String) : Sources :=
  { books with
    paginators := some ⟨[("ListBooks",
      { inputToken := some inputs, outputToken := some outputs, limitKey := none
        resultKey := some ["Books"], moreResults := none })]⟩
    waiters := none }

theorem distinct_browsed (inputs outputs : List String) : (browsed inputs outputs).Distinct where
  definition := distinct_books.definition
  paginators d hd := by
    obtain rfl := Option.some.inj hd
    exact List.nodup_singleton _
  waiters d hd := nomatch hd

theorem exists_pages_of_browsed (inputs outputs : List String) (condition : String)
    (husage : ((browsed inputs outputs).toService.result.map fun s => Usage.analyze s []) =
      .ok (.ok usageOfBooks))
    (hrun : ((browsed inputs outputs).toService.result.map fun s =>
      (Crate.allPages ⟨s, usageOfBooks, TypeNames.assign s, s.boxedMembers⟩).map fun x =>
        (x.1.inputTokens, x.2.condition.text)) = .ok [(inputs, condition)]) :
    ∃ s b p pages, (browsed inputs outputs).toService.result = .ok s ∧
      Blueprint.of s [] = .ok b ∧ (p, pages) ∈ Crate.allPages b ∧ p.inputTokens = inputs ∧
      pages.condition.text = condition := by
  obtain ⟨s, hs, hpages⟩ := map_eq_ok.mp hrun
  rw [hs] at husage
  have hb : Blueprint.of s [] =
      .ok ⟨s, usageOfBooks, TypeNames.assign s, s.boxedMembers⟩ :=
    bind_eq_ok.mpr ⟨_, Except.ok.inj husage, rfl⟩
  have hmem : (inputs, condition) ∈ [(inputs, condition)] := List.mem_singleton_self _
  rw [← hpages] at hmem
  obtain ⟨⟨p, pages⟩, hpages, hpair⟩ := List.mem_map.mp hmem
  obtain ⟨htokens, hcondition⟩ := Prod.mk.inj hpair
  exact ⟨s, _, p, pages, hs, hb, hpages, htokens, hcondition⟩

theorem advances_browsed : ∃ s b p pages input output,
    (browsed ["Marker"] ["Marker || Books[-1].Title"]).Distinct ∧
    (browsed ["Marker"] ["Marker || Books[-1].Title"]).toService.result = .ok s ∧
    Blueprint.of s [] = .ok b ∧ (p, pages) ∈ Crate.allPages b ∧
    pages.condition.text = "next.marker.is_some() && next != input" ∧
    Crate.Advances b p input output pages.next := by
  obtain ⟨s, b, p, pages, hs, hb, hpages, htokens, hcondition⟩ :=
    exists_pages_of_browsed ["Marker"] ["Marker || Books[-1].Title"]
      "next.marker.is_some() && next != input" (by cbv) (by decide +kernel)
  have hdistinct := distinct_browsed ["Marker"] ["Marker || Books[-1].Title"]
  obtain ⟨o, input, output, -, -, -, hadvances⟩ := advances_iff hdistinct hs hb hpages
  refine ⟨s, b, p, pages, input, output, hdistinct, hs, hb, hpages, hcondition,
    hadvances.mpr ?_⟩
  rw [htokens]
  exact List.cons_ne_nil _ _

/-- With empty lists of tokens there is an iterator too. Nothing is assigned in it, and its
condition has no test where those of the tokens should stand. -/
theorem not_advances_browsed : ∃ s b p pages, (browsed [] []).Distinct ∧
    (browsed [] []).toService.result = .ok s ∧ Blueprint.of s [] = .ok b ∧
    (p, pages) ∈ Crate.allPages b ∧ pages.next.assigned = [] ∧
    pages.next.guards Code.keepsNext = [[pages.condition]] ∧
    pages.condition.text = "() && next != input" ∧
    ∀ input output, ¬ Crate.Advances b p input output pages.next := by
  obtain ⟨s, b, p, pages, hs, hb, hpages, htokens, hcondition⟩ :=
    exists_pages_of_browsed [] [] "() && next != input" (by cbv) (by decide)
  obtain ⟨-, o, -, -, hof⟩ := Crate.mem_allPages hpages
  obtain ⟨input, output, -, -, hassignments, -⟩ := Crate.exists_of_pagesOf hof
  have hnone : pages.next.assigned = [] := by
    rw [htokens] at hassignments
    rw [Crate.Pages.assigned_next, ← Except.ok.inj hassignments]
    rfl
  exact ⟨s, b, p, pages, distinct_browsed [] [], hs, hb, hpages, hnone, Crate.Pages.guards_next,
    hcondition, fun input output h => h.assigned_ne_nil hnone⟩

end Sources

end Clientwright
