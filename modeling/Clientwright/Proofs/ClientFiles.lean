import Clientwright.Crate.Pages
import Clientwright.Crate.Waiters
import Clientwright.Proofs.ItemFiles

/-!
# Files that extend the client

The client, its page iterators and its waiters mention the inputs and outputs of
operations. They come by them in different ways: the client from the selected
operations, the others from documents of their own that name operations too. So
what has to be shown of each is that the operation is a selected one, and of an
output that the operation has any.

That there is an output is asked at different moments. A page iterator is only
made for an operation with one. A waiter needs one only if it looks at values,
and whether it does is known after its acceptors have been turned into questions
(`output_of_asks`). The items of a list of results are the one place here where a
type is mentioned.
-/

namespace Clientwright

open Outcome

variable {b : Blueprint} {P : Area → String → Prop} {o : Operation}

/-! ## Ways through types

A way through generated types is made of fields and positions and names none of
the types it passes. -/

theorem AccessStep.within_expr {step : AccessStep} : step.expr.Within P := by
  cases step <;> simp [AccessStep.expr]

theorem Access.within_tokenExpr {a : Access} : a.tokenExpr.Within P := by
  rw [Access.tokenExpr]
  split
  · trivial
  · refine ⟨?_, Expr.within_of.mpr ?_⟩
    · split
      · simp
      · exact AccessStep.within_expr
    · rw [List.forall_mem_map]
      exact fun step _ => by simp [AccessStep.within_expr]

theorem Access.within_valuesExpr {a : Access} : a.valuesExpr.Within P := by
  refine ⟨trivial, Expr.within_of.mpr ?_⟩
  rw [List.forall_mem_map]
  intro step _
  split <;> simp [AccessStep.within_expr]

namespace Crate

/-- The operation may be mentioned: its input, and its output if it has one. -/
structure Mentions (P : Area → String → Prop) (o : Operation) : Prop where
  input : P .input (inputType o)
  output : o.output.isSome = true → P .output (outputType o)

theorem within_inputItem (h : Mentions P o) : (inputItem o).Within P := h.input

theorem within_outputItem (h : Mentions P o) (ho : o.output.isSome = true) :
    (outputItem o).Within P := h.output ho

/-! ## The client -/

theorem within_errorDocumentation {s : Service} :
    (errorDocumentation s o).Within P := by
  simp [errorDocumentation]

theorem within_operationMethod {s : Service} (h : Mentions P o) :
    (operationMethod s o).Within P := by
  dsimp only [operationMethod]
  split
  next ho =>
    simp [within_errorDocumentation, within_inputItem h, within_outputItem h ho]
  next => simp [within_errorDocumentation, within_inputItem h]

theorem within_sendMethod : (sendMethod b).Within P := by
  simp [sendMethod]

theorem within_clientFile (h : ∀ o ∈ b.operations, Mentions P o) :
    (clientFile b).Within P := by
  have hmethods : ∀ o ∈ b.operations, (operationMethod b.service o).Within P :=
    fun o ho => within_operationMethod (h o ho)
  simpa [clientFile, within_sendMethod] using hmethods

/-! ## Page iterators -/

theorem Token.within_expr {t : Token} : t.expr.Within P := by
  rw [Token.expr]
  split
  · trivial
  next first rest _ =>
    have hfold : ∀ (ways : List Access) (e : Expr), e.Within P →
        (ways.foldl (fun e way => .of [e, ".or_else(|| ", way.tokenExpr, ")"]) e).Within
          P := by
      intro ways
      induction ways with
      | nil => exact fun e he => he
      | cons way ways ih =>
          exact fun e he => ih _ (by simp [he, Access.within_tokenExpr])
    exact hfold rest _ Access.within_tokenExpr

/-- What the code of an iterator needs of it. -/
structure Pages.Sound (P : Area → String → Prop) (p : Pages) : Prop where
  mentions : Mentions P p.operation
  output : p.operation.output.isSome = true
  items : ∀ items, p.items = some items → items.type.expr.Within P

namespace Pages

variable {p : Pages}

theorem within_condition : p.condition.Within P := by
  rw [condition, Expr.within_separated]
  intro e he
  rcases List.mem_append.mp he with he | he
  · obtain ⟨t, -, rfl⟩ := List.mem_map.mp he
    simp [Token.within_expr]
  · rcases List.mem_cons.mp he with rfl | he
    · split <;> simp
    · obtain rfl := List.mem_singleton.mp he
      trivial

theorem within_next : p.next.Within P := by
  simp [next, within_condition, Token.within_expr]

theorem within_code (h : p.Sound P) (client : String) : (p.code client).Within P := by
  have hinput := within_inputItem h.mentions
  have houtput := within_outputItem h.mentions h.output
  have hiterator : (p.iterator client).Within P := by
    simp [iterator, within_next, hinput, houtput]
  have hpages : p.pagesMethod.Within P := by
    dsimp only [pagesMethod]
    split <;> simp [hinput]
  have hitems : ((p.items.map p.itemsMethod).getD .empty).Within P := by
    cases hp : p.items with
    | none => trivial
    | some items => simp [itemsMethod, hinput, h.items items hp]
  simp [code, hiterator, hpages, hitems]

end Pages

theorem items?_within {output : String} {p : Pagination} {items : Items}
    (h : ∀ t, b.service.structure? output = some t → b.Covers P t)
    (hi : items? b output p = some items) : items.type.expr.Within P := by
  unfold items? at hi
  split at hi
  · obtain ⟨t, ht, hi⟩ := Option.bind_eq_some_iff.mp hi
    obtain ⟨m, hm, hi⟩ := Option.bind_eq_some_iff.mp hi
    have hfits := h t ht m (List.mem_of_find?_eq_some hm)
    split at hi
    next k l item hv =>
      rw [hv] at hfits
      obtain ⟨type, htype, hi⟩ := Option.bind_eq_some_iff.mp hi
      obtain rfl := Option.some.inj hi
      have hitem := Blueprint.typeOf_meets (v := item) hfits
      exact hitem.value (toOption_eq_some.mp htype)
    next => cases hi
  · cases hi

/-- What an iterator is made of. -/
theorem exists_of_pagesOf {p : Pagination} {pages : Pages} (h : pagesOf b o p = .ok pages) :
    ∃ input output, b.service.inputOf? o = some input ∧ o.output = some output ∧
      (p.inputTokens.zip p.outputTokens).mapM (assignment b input output) =
        .ok pages.assignments ∧
      p.moreResults.mapM (moreResults b output) = .ok pages.more ∧
      pages.operation = o ∧ pages.items = items? b output p := by
  rw [pagesOf] at h
  split at h
  next input output hpair =>
    obtain ⟨hinput, houtput⟩ := Prod.mk.inj hpair
    obtain ⟨assignments, hassignments, h⟩ := bind_eq_ok.mp h
    obtain ⟨more, hmore, h⟩ := bind_eq_ok.mp h
    obtain rfl := pure_eq_ok.mp h
    exact ⟨input, output, hinput, houtput, hassignments, hmore, rfl, rfl⟩
  next => cases h

theorem pagesOf_sound {p : Pagination} {pages : Pages} (ho : Mentions P o)
    (h : ∀ t, b.service.outputOf? o = some t → b.Covers P t)
    (hp : pagesOf b o p = .ok pages) : pages.Sound P := by
  obtain ⟨input, output, -, hout, -, -, rfl, hitems⟩ := exists_of_pagesOf hp
  have houtput : b.service.outputOf? pages.operation = b.service.structure? output := by
    rw [Service.outputOf?, hout, Option.bind_some]
  refine ⟨ho, Option.isSome_of_eq_some hout, fun items hi => items?_within ?_ (hitems ▸ hi)⟩
  exact fun t ht => h t (houtput.trans ht)

theorem mem_pagesAttempts_of_mem_allPages {p : Pagination} {pages : Pages}
    (h : (p, pages) ∈ allPages b) : (p, .ok pages) ∈ pagesAttempts b := by
  obtain ⟨⟨q, attempt⟩, hattempt, h⟩ := List.mem_filterMap.mp h
  obtain ⟨found, hfound, h⟩ := Option.map_eq_some_iff.mp h
  cases h
  exact toOption_eq_some.mp hfound ▸ hattempt

/-- The iterators that are generated are those of selected operations. -/
theorem mem_allPages {p : Pagination} {pages : Pages} (h : (p, pages) ∈ allPages b) :
    p ∈ b.service.paginators.values ∧
      ∃ o ∈ b.operations, b.service.operation? p.operation = some o ∧
        pagesOf b o p = .ok pages := by
  obtain ⟨r, hr, h⟩ := List.mem_filterMap.mp (mem_pagesAttempts_of_mem_allPages h)
  obtain ⟨hselected, h⟩ := Option.ite_none_right_eq_some.mp h
  obtain ⟨o, ho, h⟩ := Option.map_eq_some_iff.mp h
  obtain ⟨rfl, hpages⟩ := Prod.mk.inj h
  have hname : r.operation ∈ b.usage.operations := List.contains_iff_mem.mp hselected
  exact ⟨hr, o, List.mem_filterMap.mpr ⟨r.operation, hname, ho⟩, ho, hpages⟩

theorem within_pagesFile (hmentions : ∀ o ∈ b.operations, Mentions P o)
    (h : ∀ o ∈ b.operations, ∀ t, b.service.outputOf? o = some t → b.Covers P t) :
    (pagesFile b ((allPages b).map (·.2))).Within P := by
  refine ⟨trivial, trivial, within_usingRuntime.mpr trivial, ?_, trivial⟩
  rw [Code.within_spaced, List.forall_mem_map, List.forall_mem_map]
  intro ⟨p, pages⟩ hp
  obtain ⟨-, o, ho, -, hpages⟩ := mem_allPages hp
  exact Pages.within_code (pagesOf_sound (hmentions o ho) (h o ho) hpages) _

/-! ## Waiters -/

/-- A question that looks at values is only asked where there is an output. -/
theorem output_of_asks {l : List Acceptor} {questions : List Guarded}
    (h : succeededQuestions b o l = .ok questions)
    (hq : ∃ g ∈ questions, g.question.asksOutput = true) : o.output.isSome = true := by
  induction l generalizing questions with
  | nil =>
      obtain rfl := Except.ok.inj h
      obtain ⟨g, hg, -⟩ := hq
      cases hg
  | cons a l ih =>
      obtain ⟨g, hg, hasks⟩ := hq
      dsimp only [succeededQuestions] at h
      split at h
      · obtain ⟨rest, hrest, rfl⟩ := map_eq_ok.mp h
        rcases List.mem_cons.mp hg with rfl | hg
        · cases hasks
        · exact ih hrest ⟨g, hg, hasks⟩
      · obtain rfl := Except.ok.inj h
        obtain rfl := List.mem_singleton.mp hg
        cases hasks
      on_goal 4 => exact ih h ⟨g, hg, hasks⟩
      all_goals
        split at h
        next output ho => exact Option.isSome_of_eq_some ho
        next => cases h

theorem within_endIn {s : AcceptorState} : (endIn s).Within P := trivial

theorem Guarded.within_code {g : Guarded} {index : Nat} : (g.code index).Within P := by
  dsimp only [Guarded.code]
  split <;> simp [within_endIn, collect, Access.within_valuesExpr]

theorem within_questionsCode {index : Nat} {l : List Guarded} :
    (questionsCode index l).Within P := by
  induction l generalizing index with
  | nil => trivial
  | cons g l ih => exact ⟨Guarded.within_code, ih⟩

theorem Poll.within_failedCode {p : Poll} {format : String} :
    (p.failedCode format).Within P := by
  simp [Poll.failedCode, within_questionsCode]

theorem Poll.within_succeededCode {p : Poll} (h : Mentions P o)
    (hasks : (∃ g ∈ p.succeeded, g.question.asksOutput = true) →
      o.output.isSome = true) : (p.succeededCode o).Within P := by
  have houtput : (p.succeeded.any fun g => g.question.asksOutput) = true →
      (outputItem o).Within P :=
    fun hany => within_outputItem h (hasks (List.any_eq_true.mp hany))
  refine ⟨Code.within_when.mpr fun hany => ?_, within_questionsCode, ?_, trivial⟩
  · simp [houtput hany]
  · simp

theorem within_waiterCode {w : Waiter} {p : Poll} (h : Mentions P o)
    (hasks : (∃ g ∈ p.succeeded, g.question.asksOutput = true) →
      o.output.isSome = true) : (waiterCode b w o p).Within P := by
  have hinput := within_inputItem h
  have hpoll : (p.code b o (Naming.snake w.name)).Within P := by
    simp [Poll.code, hinput, Poll.within_failedCode, Poll.within_succeededCode h hasks]
  simp [waiterCode, waiterDocumentation, hinput, hpoll]

/-- A waiter with code has a poll for its operation. -/
theorem exists_of_waiterAttempt {w : Waiter} {c : Code} (h : waiterAttempt b w = .ok c) :
    ∃ o p, b.service.operation? w.operation = some o ∧ pollOf b o w = .ok p ∧
      waiterCode b w o p = c := by
  rw [waiterAttempt] at h
  split at h
  · cases h
  · cases ho : b.service.operation? w.operation with
    | none =>
        rw [ho] at h
        cases h
    | some o =>
        rw [ho] at h
        obtain ⟨p, hp, h⟩ := bind_eq_ok.mp h
        exact ⟨o, p, rfl, hp, pure_eq_ok.mp h⟩

theorem mem_waiterAttempts_of_mem_allWaiters {w : Waiter} {c : Code}
    (h : (w, c) ∈ allWaiters b) : (w, .ok c) ∈ waiterAttempts b := by
  obtain ⟨⟨v, attempt⟩, hattempt, h⟩ := List.mem_filterMap.mp h
  obtain ⟨found, hfound, h⟩ := Option.map_eq_some_iff.mp h
  cases h
  exact toOption_eq_some.mp hfound ▸ hattempt

/-- The waiters that are generated are those of selected operations. -/
theorem mem_allWaiters {w : Waiter} {c : Code} (h : (w, c) ∈ allWaiters b) :
    w.operation ∈ b.usage.operations ∧ waiterAttempt b w = .ok c := by
  obtain ⟨v, hv, h⟩ := List.mem_map.mp (mem_waiterAttempts_of_mem_allWaiters h)
  obtain ⟨rfl, hcode⟩ := Prod.mk.inj h
  exact ⟨List.contains_iff_mem.mp (List.mem_filter.mp hv).2, hcode⟩

theorem waiterAttempt_within {w : Waiter} {c : Code}
    (h : ∀ o, b.service.operation? w.operation = some o → Mentions P o)
    (hc : waiterAttempt b w = .ok c) : c.Within P := by
  obtain ⟨o, p, ho, hp, rfl⟩ := exists_of_waiterAttempt hc
  obtain ⟨succeeded, hs, hp⟩ := bind_eq_ok.mp hp
  obtain rfl := pure_eq_ok.mp hp
  exact within_waiterCode (h o ho) (output_of_asks hs)

theorem within_waitersFile
    (h : ∀ o ∈ b.operations, Mentions P o) :
    (waitersFile b ((allWaiters b).map (·.2))).Within P := by
  refine ⟨trivial, trivial, within_usingRuntime.mpr trivial, ⟨by simp, ?_⟩, trivial⟩
  rw [Code.within_spaced, List.forall_mem_map]
  intro ⟨w, c⟩ hw
  obtain ⟨hselected, hattempt⟩ := mem_allWaiters hw
  refine waiterAttempt_within (fun o ho => h o ?_) hattempt
  exact List.mem_filterMap.mpr ⟨w.operation, hselected, ho⟩

end Crate

end Clientwright
