import Clientwright.Proofs.ClientFiles
import Clientwright.Proofs.PollRuns

/-!
# What a poll decides

A waiter has one list of acceptors, and the first that accepts an answer decides.
The code that is emitted for it does not look like that. There is one row of
questions for failed responses and another for successful ones, each with some
of the acceptors only; either may stop early at an acceptor that takes every
answer of its kind; and what is asked of values is asked of texts that a line
before collected.

The two come to the same because an acceptor that is left out of a row would not
have accepted any answer that gets there, and what comes after an acceptor that
takes every answer is never asked. So in each row the first question that is
answered with yes belongs to the first acceptor that accepts.

`Mirrors` says this of a row and of the acceptors that it was made of, question
by question. Both rows mirror the acceptors, each at the answers that get to it,
and code for questions that mirror acceptors decides like these.
-/

namespace Clientwright

open Outcome Crate

/-! ## What acceptors accept -/

/-- The item at an index; negative ones count from the end, where `-1` is the last. -/
def itemAt? {α : Type} (l : List α) : Int → Option α
  | .ofNat n => l[n]?
  | .negSucc n => if n < l.length then l[l.length - (n + 1)]? else none

theorem mem_of_itemAt? {α : Type} {l : List α} {n : Int} {x : α} (h : itemAt? l n = some x) :
    x ∈ l := by
  cases n with
  | ofNat n => exact List.mem_of_getElem? h
  | negSucc n =>
      rw [itemAt?] at h
      split at h
      · exact List.mem_of_getElem? h
      · cases h

namespace Datum

/-- Where a step of a selector leads from a datum. -/
def step : Step → Datum → List Datum
  | .field name, .record fields => (fields (Naming.fieldIdent name)).toList
  | .project, .items l => l
  | .index n, .items l => (itemAt? l n).toList
  | _, _ => []

/-- What the steps of a selector lead to, in order. -/
def found : List Step → Datum → List Datum
  | [], d => [d]
  | step :: rest, d => (d.step step).flatMap (found rest)

/-- The texts that a selector finds, by the first alternative that finds any. -/
def values (d : Datum) (s : Selector) : List String :=
  ((s.alternatives.map fun steps => (d.found steps).filterMap text?).find? (!·.isEmpty)).getD []

theorem values_of_alternatives {d : Datum} {s : Selector} {steps : List Step}
    (h : s.alternatives = [steps]) : d.values s = (d.found steps).filterMap text? := by
  rw [values, h, List.map_singleton, List.find?_singleton]
  cases (d.found steps).filterMap text? with
  | nil => rfl
  | cons v l => rfl

end Datum

/-- The texts that a selector finds in the output of the operation. -/
def Answer.valuesAt (a : Answer) (o : Operation) (s : Selector) : List String :=
  match a.body (outputType o) with
  | some d => d.values s
  | none => []

/-- Does the answer of the operation match? -/
def Matcher.accepts (o : Operation) (a : Answer) : Matcher → Bool
  | .status code => a.status == code
  | .errorCode code => !a.isSuccess && a.errorCode == some code
  | .anyError failed => failed == !a.isSuccess
  | .path s expected | .pathAny s expected =>
    a.isSuccess && (a.valuesAt o s).any (· == expected.text)
  | .pathAll s expected =>
    a.isSuccess && (!(a.valuesAt o s).isEmpty && (a.valuesAt o s).all (· == expected.text))
  | .unsupported _ _ => false

/-- Does the acceptor take the answer? -/
def Acceptor.accepts (o : Operation) (a : Answer) (x : Acceptor) : Bool := x.matcher.accepts o a

section

variable {o : Operation} {a : Answer} {state : AcceptorState} {m : Matcher} {l : List Acceptor}

theorem Acceptor.find?_of_accepts (h : m.accepts o a = true) :
    (⟨state, m⟩ :: l).find? (Acceptor.accepts o a) = some ⟨state, m⟩ :=
  List.find?_cons_of_pos h

theorem Acceptor.find?_of_not_accepts (h : m.accepts o a = false) :
    (⟨state, m⟩ :: l).find? (Acceptor.accepts o a) = l.find? (Acceptor.accepts o a) :=
  List.find?_cons_of_neg (Bool.not_eq_true _ ▸ h)

end

/-- What the acceptors come to: the first that accepts decides. -/
def Waiter.verdict (w : Waiter) (o : Operation) (a : Answer) : Verdict :=
  match w.acceptors.find? (Acceptor.accepts o a) with
  | some x => .state x.state
  | none => if a.isSuccess then .state .retry else .apiError

/-- The output type of the operation can read the body of a successful answer. -/
def Answer.Readable (s : Service) (o : Operation) (a : Answer) : Prop :=
  a.isSuccess = true → ∀ k, o.output = some k →
    ∃ d, a.body (outputType o) = some d ∧ d.Fits s k

/-! ## Ways into an output -/

/-- What is done to each item of a list. -/
theorem mapM_eq_some_map {α β : Type} {f : α → Option β} {g : α → β} {l : List α}
    (h : ∀ x ∈ l, f x = some (g x)) : l.mapM f = some (l.map g) := by
  induction l with
  | nil => rfl
  | cons x l ih =>
      rw [List.mapM_cons, h x List.mem_cons_self, ih fun y hy => h y (List.mem_cons_of_mem x hy)]
      rfl

theorem StructureShape.name_of_member? {t : StructureShape} {name : String} {m : Member}
    (h : t.member? name = some m) : m.name = name :=
  beq_iff_eq.mp (List.find?_some (p := fun m : Member => m.name == name) h)

theorem AccessStep.follow_ofIndex (n : Int) (l : List Datum) :
    (AccessStep.ofIndex n).follow (.items l) = some (itemAt? l n).toList := by
  cases n with
  | ofNat n => rfl
  | negSucc n =>
      show some l.reverse[n]?.toList = _
      rw [itemAt?]
      split
      · next hn => rw [List.getElem?_reverse hn, Nat.sub_sub, Nat.add_comm]
      · next hn => rw [List.getElem?_eq_none (by rw [List.length_reverse]; omega)]

namespace Access

variable {b : Blueprint} {selector k : String} {step : Step} {rest steps : List Step}
  {access : Access} {data : List Datum}

/-- A way that begins with a step goes on from wherever that step leads. -/
theorem exists_of_toValues_cons (h : toValues b selector k (step :: rest) = .ok access) :
    ∃ first next tail, access = cons first tail ∧ toValues b selector next rest = .ok tail ∧
      ∀ d : Datum, d.Fits b.service k → first.follow d = some (d.step step) ∧
        ∀ e ∈ d.step step, e.Fits b.service next := by
  unfold toValues at h
  split at h
  · cases h
  · next name t hk =>
    split at h
    · cases h
    · next m hm =>
      obtain ⟨tail, htail, rfl⟩ := map_eq_ok.mp h
      have hname := StructureShape.name_of_member? hm
      refine ⟨_, _, tail, rfl, htail, fun d hd => ?_⟩
      obtain ⟨fields, rfl, hfields⟩ := hd.exists_fields hk
      refine ⟨hname ▸ rfl, fun e he => hfields m (List.mem_of_find?_eq_some hm) e ?_⟩
      exact hname ▸ Option.mem_toList.mp he
  · next n l hk =>
    obtain ⟨tail, htail, rfl⟩ := map_eq_ok.mp h
    refine ⟨_, _, tail, rfl, htail, fun d hd => ?_⟩
    obtain ⟨items, rfl, hitems⟩ := hd.exists_items hk
    refine ⟨AccessStep.follow_ofIndex n items, fun e he => hitems e ?_⟩
    exact mem_of_itemAt? (Option.mem_toList.mp he)
  · next l hk =>
    obtain ⟨tail, htail, rfl⟩ := map_eq_ok.mp h
    refine ⟨_, _, tail, rfl, htail, fun d hd => ?_⟩
    obtain ⟨items, rfl, hitems⟩ := hd.exists_items hk
    exact ⟨rfl, hitems⟩
  · cases h

/-- The steps of the access find in the output what the selector finds. -/
theorem followAll_toValues (h : toValues b selector k steps = .ok access)
    (hdata : ∀ d ∈ data, d.Fits b.service k) :
    AccessStep.followAll access.steps data = some (data.flatMap (Datum.found steps)) ∧
      ∀ d ∈ data.flatMap (Datum.found steps), d.Fits b.service access.leaf := by
  -- The data are all that the steps before have led to, so they change with the steps.
  induction steps generalizing k access data with
  | nil =>
      obtain rfl : ⟨[], k⟩ = access := Except.ok.inj h
      have hfound : data.flatMap (Datum.found []) = data := List.flatMap_singleton' data
      rw [hfound]
      exact ⟨rfl, hdata⟩
  | cons step rest ih =>
      obtain ⟨first, next, tail, rfl, htail, hstep⟩ := exists_of_toValues_cons h
      have hfirst : data.mapM first.follow = some (data.map (Datum.step step)) :=
        mapM_eq_some_map fun d hd => (hstep d (hdata d hd)).1
      have hnext : ∀ d ∈ data.flatMap (Datum.step step), d.Fits b.service next := by
        intro e he
        obtain ⟨d, hd, hed⟩ := List.mem_flatMap.mp he
        exact (hstep d (hdata d hd)).2 e hed
      have hfound : data.flatMap (Datum.found (step :: rest)) =
          (data.flatMap (Datum.step step)).flatMap (Datum.found rest) :=
        List.flatMap_assoc.symm
      obtain ⟨hfollow, hleaf⟩ := ih htail hnext
      rw [hfound]
      refine ⟨?_, hleaf⟩
      show (data.mapM first.follow >>= fun l => AccessStep.followAll tail.steps l.flatten) = _
      rw [hfirst, ← hfollow, List.flatMap]
      rfl

end Access

/-- An access to comparable values collects the texts that its selector finds. -/
theorem textsAt_comparable {b : Blueprint} {k : String} {s : Selector} {access : Access}
    {d : Datum} (h : comparable b k s = .ok access) (hd : d.Fits b.service k) :
    d.textsAt access.steps = some (d.values s) := by
  unfold comparable at h
  split at h
  · next steps hsteps =>
    obtain ⟨way, hway, h⟩ := bind_eq_ok.mp h
    obtain ⟨hfollow, hleaf⟩ :=
      Access.followAll_toValues (mapError_eq_ok.mp hway) (List.forall_mem_singleton.mpr hd)
    split at h
    · cases h
    · next t ht =>
      obtain rfl : way = access := by
        split at h
        · cases h
        · exact pure_eq_ok.mp h
      rw [List.flatMap_singleton] at hfollow hleaf
      have htext : ∀ e ∈ d.found steps, e.text? = some (e.text?.getD "") := by
        intro e he
        obtain ⟨v, rfl⟩ := (hleaf e he).exists_text ht
        rfl
      rw [Datum.textsAt, hfollow, Datum.values_of_alternatives hsteps,
        List.filterMap_congr htext, List.filterMap_eq_map']
      exact mapM_eq_some_map htext
    · cases h
  · cases h

namespace Crate

/-! ## Questions -/

/-- What the question is answered with, if what it asks for is bound. -/
def Question.answer? (a : Answer) (σ : Scope) : Question → Option Bool
  | always => some true
  | status code => if σ.response then some (a.status == code) else none
  | errorCode code => if σ.error then some (a.errorCode == some code) else none
  | anyValue access expected =>
    (σ.output.bind (·.textsAt access.steps)).map fun l => l.any (· == expected)
  | allValues access expected =>
    (σ.output.bind (·.textsAt access.steps)).map fun l =>
      !l.isEmpty && l.all (· == expected)

/-- Collections do not change what questions are answered with. -/
theorem Question.answer?_values (a : Answer) (σ : Scope) (q : Question)
    (values : String → Option (List String)) :
    q.answer? a { σ with values } = q.answer? a σ := by
  cases q <;> rfl

/-! ## The code of questions -/

section Code

variable {a : Answer} {σ : Scope}

theorem run?_endIn (s : AcceptorState) : (endIn s).run? a σ = some (.returns (.state s)) := by
  cases s <;> rfl

theorem run?_braces_endIn {head : Expr} {condition : Condition} {yes : Bool} (s : AcceptorState)
    (hhead : Condition.ofHead? (head ++ Expr.plain " \x7b") = some condition)
    (hyes : condition.holds? a σ = some yes) :
    (Code.braces head (endIn s)).run? a σ =
      some (if yes then .returns (.state s) else .goesOn σ) := by
  cases yes with
  | true => exact Code.run?_braces_of_returns hhead hyes (run?_endIn s)
  | false => exact Code.run?_braces_of_false hhead hyes

theorem ofHead?_status (code : Nat) :
    Condition.ofHead? (Expr.plain ("if response.status == " ++ toString code) ++
      Expr.plain " \x7b") = some (.status code) := by
  have hnumber := numberBetween?_append "if response.status == " "" code
  rw [String.append_empty] at hnumber
  show ((numberBetween? _ _ _).map Condition.status).or _ = _
  rw [hnumber]
  rfl

theorem ofHead?_all (values expected : String) :
    Condition.ofHead? (Expr.of ["if !", .var values, ".is_empty() && ", .var values,
      ".iter().all(|v| v == ", .quoted expected, ")"] ++ Expr.plain " \x7b") =
        some (.all values expected) := if_pos rfl

theorem ofCall?_call (step : AccessStep) :
    AccessStep.ofCall? (match step with
      | .each => Expr.of [".flat_map(", .closure "v" step.expr, ")"]
      | step => Expr.of [".filter_map(", .closure "v" step.expr, ")"]) = some step := by
  cases step with
  | each => rfl
  | field ident => rfl
  | fromStart n => exact AccessStep.ofClosure?_expr (nofun : AccessStep.fromStart n ≠ .each)
  | fromEnd n => exact AccessStep.ofClosure?_expr (nofun : AccessStep.fromEnd n ≠ .each)

/-- The steps of an access are read back from the expression that is printed for it. -/
theorem stepsFromOutput?_valuesExpr (access : Access) :
    access.valuesExpr.stepsFromOutput? = some access.steps := by
  rw [Access.valuesExpr, Expr.stepsFromOutput?, Expr.pieces_of]
  show List.mapM AccessStep.ofCall? (access.steps.map _) = _
  rw [List.mapM_map]
  rw [mapM_eq_some_map (g := id), List.map_id]
  intro step _
  exact ofCall?_call step

theorem run?_collect {texts : List String} (name : String) (access : Access)
    (h : σ.output.bind (·.textsAt access.steps) = some texts) :
    (collect name access).run? a σ = some (.goesOn (σ.collected name texts)) := by
  obtain ⟨d, hd, htexts⟩ := Option.bind_eq_some_iff.mp h
  have hline : Statement.ofLine? (.of ["let ", .var name, ": Vec<String> = ", access.valuesExpr,
      ".map(|v| v.to_string()).collect();"]) = some (.collect name access.steps) := by
    show access.valuesExpr.stepsFromOutput?.map (Statement.collect name) = _
    rw [stepsFromOutput?_valuesExpr, Option.map_some]
  rw [collect, Code.run?, hline, Option.bind_some, Statement.run?, hd, Option.bind_eq_bind,
    Option.bind_some, htexts]
  rfl

/-- A question that can be answered is asked, and leaves at most a collection behind. -/
theorem run?_code {g : Guarded} {yes : Bool} (index : Nat)
    (h : g.question.answer? a σ = some yes) :
    ∃ values, (g.code index).run? a σ =
      some (if yes then .returns (.state g.state) else .goesOn { σ with values }) := by
  obtain ⟨question, state⟩ := g
  cases question with
  | always =>
      obtain rfl : true = yes := Option.some.inj h
      exact ⟨σ.values, run?_endIn state⟩
  | status code => exact ⟨σ.values, run?_braces_endIn state (ofHead?_status code) h⟩
  | errorCode code => exact ⟨σ.values, run?_braces_endIn state rfl h⟩
  | anyValue access expected =>
      obtain ⟨texts, htexts, rfl⟩ := Option.map_eq_some_iff.mp h
      refine ⟨(σ.collected (localName "values" index) texts).values, ?_⟩
      refine (Code.run?_seq_of_goesOn (run?_collect _ access htexts)).trans ?_
      refine run?_braces_endIn state rfl ?_
      rw [Condition.holds?, Scope.values_collected]
      rfl
  | allValues access expected =>
      obtain ⟨texts, htexts, rfl⟩ := Option.map_eq_some_iff.mp h
      refine ⟨(σ.collected (localName "values" index) texts).values, ?_⟩
      refine (Code.run?_seq_of_goesOn (run?_collect _ access htexts)).trans ?_
      refine run?_braces_endIn state (ofHead?_all _ expected) ?_
      rw [Condition.holds?, Scope.values_collected]
      rfl

end Code

/-! ## Rows of questions -/

/-- The questions stand for the acceptors, at an answer in a scope: an acceptor
without a question does not accept, the others accept when their question is
answered with yes, and after an acceptor that accepts there may be nothing. -/
inductive Mirrors (o : Operation) (a : Answer) (σ : Scope) :
    List Guarded → List Acceptor → Prop where
  | nil : Mirrors o a σ [] []
  | skip {gs : List Guarded} {state : AcceptorState} {m : Matcher} {l : List Acceptor} :
    m.accepts o a = false → Mirrors o a σ gs l → Mirrors o a σ gs (⟨state, m⟩ :: l)
  | ask {q : Question} {gs : List Guarded} {state : AcceptorState} {m : Matcher}
    {l : List Acceptor} :
    q.answer? a σ = some (m.accepts o a) → Mirrors o a σ gs l →
      Mirrors o a σ (⟨q, state⟩ :: gs) (⟨state, m⟩ :: l)
  | always {state : AcceptorState} {m : Matcher} {l : List Acceptor} :
    m.accepts o a = true → Mirrors o a σ [⟨.always, state⟩] (⟨state, m⟩ :: l)

namespace Mirrors

variable {o : Operation} {a : Answer} {σ : Scope} {gs : List Guarded} {l : List Acceptor}

/-- The code of the questions ends in the state of the first acceptor that
accepts, and goes on if there is none. -/
theorem run? (h : Mirrors o a σ gs l) (index : Nat) (values : String → Option (List String)) :
    ∃ values', (questionsCode index gs).run? a { σ with values } =
      some (match l.find? (Acceptor.accepts o a) with
        | some x => .returns (.state x.state)
        | none => .goesOn { σ with values := values' }) := by
  -- Every question may leave a collection behind, and none is answered by those of others: the
  -- scope stays the same but for its collections.
  induction h generalizing index values with
  | nil => exact ⟨values, rfl⟩
  | skip hx _ ih =>
      rw [Acceptor.find?_of_not_accepts hx]
      exact ih index values
  | @ask q gs state m l hq _ ih =>
      have hanswer : q.answer? a { σ with values } = some (m.accepts o a) :=
        (Question.answer?_values a σ q values).trans hq
      obtain ⟨values', hcode⟩ := run?_code (g := ⟨q, state⟩) index hanswer
      cases hx : m.accepts o a with
      | true =>
          rw [hx] at hcode
          rw [Acceptor.find?_of_accepts hx]
          exact ⟨values', Code.run?_seq_of_returns hcode⟩
      | false =>
          rw [hx] at hcode
          rw [Acceptor.find?_of_not_accepts hx]
          obtain ⟨values'', hrest⟩ := ih (if q.asksOutput then index + 1 else index) values'
          exact ⟨values'', (Code.run?_seq_of_goesOn hcode).trans hrest⟩
  | @always state m l hx =>
      rw [Acceptor.find?_of_accepts hx]
      exact ⟨values, Code.run?_seq_of_returns (run?_endIn state)⟩

/-- Where no acceptor accepts there is no question that needs no answer. -/
theorem decides_eq_false (h : Mirrors o a σ gs l)
    (hnone : l.find? (Acceptor.accepts o a) = none) : Poll.decides gs = false := by
  induction h with
  | nil => rfl
  | skip hx _ ih =>
      rw [Acceptor.find?_of_not_accepts hx] at hnone
      exact ih hnone
  | @ask q gs state m l hq _ ih =>
      cases hx : m.accepts o a with
      | true =>
          rw [Acceptor.find?_of_accepts hx] at hnone
          cases hnone
      | false =>
          rw [Acceptor.find?_of_not_accepts hx] at hnone
          have hne : q ≠ .always := by
            rintro rfl
            cases hq.trans (congrArg some hx)
          exact Bool.or_eq_false_iff.mpr ⟨beq_eq_false_iff_ne.mpr hne, ih hnone⟩
  | always hx =>
      rw [Acceptor.find?_of_accepts hx] at hnone
      cases hnone

end Mirrors

section Rows

variable {b : Blueprint} {o : Operation} {a : Answer} {σ : Scope}

theorem mirrors_failedQuestions (hfailed : a.isSuccess = false) (hresponse : σ.response = true)
    (l : List Acceptor)
    (herror : ((failedQuestions l).any fun g => g.question.asksError) = true → σ.error = true) :
    Mirrors o a σ (failedQuestions l) l := by
  induction l with
  | nil => exact .nil
  | cons x l ih =>
      obtain ⟨state, matcher⟩ := x
      have hsilent : Matcher.accepts o a matcher = false →
          failedQuestions (⟨state, matcher⟩ :: l) = failedQuestions l →
            Mirrors o a σ (failedQuestions (⟨state, matcher⟩ :: l)) (⟨state, matcher⟩ :: l) := by
        intro hx heq
        rw [heq] at herror ⊢
        exact .skip hx (ih herror)
      cases matcher with
      | path s expected | pathAny s expected | pathAll s expected =>
          refine hsilent ?_ rfl
          rw [Matcher.accepts, hfailed, Bool.false_and]
      | unsupported matcher reason => exact hsilent rfl rfl
      | status code =>
          refine .ask (if_pos hresponse) (ih fun h => herror ?_)
          exact List.any_cons.trans (Bool.or_eq_true_iff.mpr (.inr h))
      | errorCode code =>
          refine .ask ?_ (ih fun _ => herror rfl)
          show (if σ.error = true then some _ else none) = some (!a.isSuccess && _)
          rw [if_pos (herror rfl), hfailed, Bool.not_false, Bool.true_and]
      | anyError failed =>
          cases failed with
          | true =>
              refine .always ?_
              show (true == !a.isSuccess) = true
              rw [hfailed]
              rfl
          | false =>
              refine hsilent ?_ rfl
              rw [Matcher.accepts, hfailed]
              rfl

/-- A question for values was made from an access to the output. -/
theorem exists_of_asked (s : Selector) (make : Access → Question) (state : AcceptorState)
    (rest : Except WaitFault (List Guarded)) {gs : List Guarded}
    (h : (do
      let some output := o.output | .error (.noOutput o.name)
      let access ← comparable b output s
      let others ← rest
      return ⟨make access, state⟩ :: others : Except WaitFault (List Guarded)) = .ok gs) :
    ∃ k access others, o.output = some k ∧ comparable b k s = .ok access ∧ rest = .ok others ∧
      ⟨make access, state⟩ :: others = gs := by
  cases hk : o.output with
  | none =>
      rw [hk] at h
      cases h
  | some k =>
      rw [hk] at h
      obtain ⟨access, haccess, h⟩ := bind_eq_ok.mp h
      obtain ⟨others, hothers, h⟩ := bind_eq_ok.mp h
      exact ⟨k, access, others, rfl, haccess, hothers, pure_eq_ok.mp h⟩

/-- What a row of questions for successful responses is made of. -/
inductive SucceededRow (b : Blueprint) (o : Operation) :
    List Guarded → List Acceptor → Prop where
  | nil : SucceededRow b o [] []
  | silent {gs : List Guarded} {state : AcceptorState} {m : Matcher} {l : List Acceptor} :
    (∀ a : Answer, a.isSuccess = true → m.accepts o a = false) → SucceededRow b o gs l →
      SucceededRow b o gs (⟨state, m⟩ :: l)
  | status {gs : List Guarded} {state : AcceptorState} {code : Nat} {l : List Acceptor} :
    SucceededRow b o gs l →
      SucceededRow b o (⟨.status code, state⟩ :: gs) (⟨state, .status code⟩ :: l)
  | any {gs : List Guarded} {state : AcceptorState} {m : Matcher} {l : List Acceptor} {k : String}
    {s : Selector} {access : Access} {e : String} :
    o.output = some k → comparable b k s = .ok access →
      (∀ a : Answer, m.accepts o a = (a.isSuccess && (a.valuesAt o s).any (· == e))) →
        SucceededRow b o gs l →
          SucceededRow b o (⟨.anyValue access e, state⟩ :: gs) (⟨state, m⟩ :: l)
  | all {gs : List Guarded} {state : AcceptorState} {l : List Acceptor} {k : String}
    {s : Selector} {access : Access} {e : Expected} :
    o.output = some k → comparable b k s = .ok access → SucceededRow b o gs l →
      SucceededRow b o (⟨.allValues access e.text, state⟩ :: gs) (⟨state, .pathAll s e⟩ :: l)
  | always {state : AcceptorState} {l : List Acceptor} :
    SucceededRow b o [⟨.always, state⟩] (⟨state, .anyError false⟩ :: l)

theorem row_of_succeededQuestions {l : List Acceptor} {gs : List Guarded}
    (h : succeededQuestions b o l = .ok gs) : SucceededRow b o gs l := by
  induction l generalizing gs with
  | nil =>
      obtain rfl : [] = gs := Except.ok.inj h
      exact .nil
  | cons x l ih =>
      obtain ⟨state, matcher⟩ := x
      cases matcher with
      | path s expected | pathAny s expected =>
          obtain ⟨k, access, others, hk, haccess, hothers, rfl⟩ :=
            exists_of_asked s (.anyValue · expected.text) state _ h
          exact .any hk haccess (fun _ => rfl) (ih hothers)
      | pathAll s expected =>
          obtain ⟨k, access, others, hk, haccess, hothers, rfl⟩ :=
            exists_of_asked s (.allValues · expected.text) state _ h
          exact .all hk haccess (ih hothers)
      | status code =>
          obtain ⟨others, hothers, rfl⟩ := map_eq_ok.mp h
          exact .status (ih hothers)
      | unsupported matcher reason => exact .silent (fun _ _ => rfl) (ih h)
      | errorCode code =>
          refine .silent (fun a hs => ?_) (ih h)
          rw [Matcher.accepts, hs, Bool.not_true, Bool.false_and]
      | anyError failed =>
          cases failed with
          | true =>
              refine .silent (fun a hs => ?_) (ih h)
              rw [Matcher.accepts, hs]
              rfl
          | false =>
              obtain rfl : [⟨Question.always, state⟩] = gs := Except.ok.inj h
              exact .always

/-- Only the operation's output is asked for values. -/
theorem SucceededRow.exists_output {gs : List Guarded} {l : List Acceptor}
    (h : SucceededRow b o gs l) (hasks : (gs.any fun g => g.question.asksOutput) = true) :
    ∃ k, o.output = some k := by
  induction h with
  | nil | always => cases hasks
  | silent _ _ ih | status _ ih => exact ih hasks
  | @any _ _ _ _ k _ _ _ hk | @all _ _ _ k _ _ _ hk => exact ⟨k, hk⟩

theorem textsAt_of_readable {k : String} {s : Selector} {access : Access}
    (hs : a.isSuccess = true) (hreadable : a.Readable b.service o) (hk : o.output = some k)
    (h : comparable b k s = .ok access) :
    (a.body (outputType o)).bind (·.textsAt access.steps) = some (a.valuesAt o s) := by
  obtain ⟨d, hd, hfits⟩ := hreadable hs k hk
  rw [Answer.valuesAt, hd]
  exact textsAt_comparable h hfits

theorem SucceededRow.mirrors {gs : List Guarded} {l : List Acceptor} (h : SucceededRow b o gs l)
    (hs : a.isSuccess = true) (hresponse : σ.response = true)
    (hreadable : a.Readable b.service o)
    (houtput : (gs.any fun g => g.question.asksOutput) = true →
      σ.output = a.body (outputType o)) :
    Mirrors o a σ gs l := by
  induction h with
  | nil => exact .nil
  | silent hm _ ih => exact .skip (hm a hs) (ih houtput)
  | status _ ih => exact .ask (if_pos hresponse) (ih houtput)
  | any hk haccess hm _ ih =>
      refine .ask ?_ (ih fun _ => houtput rfl)
      rw [Question.answer?, houtput rfl, textsAt_of_readable hs hreadable hk haccess, hm, hs,
        Bool.true_and]
      rfl
  | all hk haccess _ ih =>
      refine .ask ?_ (ih fun _ => houtput rfl)
      rw [Question.answer?, houtput rfl, textsAt_of_readable hs hreadable hk haccess,
        Matcher.accepts, hs, Bool.true_and]
      rfl
  | always =>
      refine .always ?_
      rw [Matcher.accepts, hs]
      rfl

end Rows

/-! ## The function -/

section Function

variable {b : Blueprint} {o : Operation} {p : Poll} {l : List Acceptor} {a : Answer} {σ : Scope}

theorem run?_when_bindError (uses : Bool) (hresponse : σ.response = true)
    (herror : σ.error = false) :
    (Code.when uses (.text ("let error = runtime::api_error(&response, runtime::ErrorFormat::" ++
      errorFormat b ++ ");"))).run? a σ = some (.goesOn { σ with error := uses }) := by
  cases uses with
  | false => exact congrArg (fun e => some (Flow.goesOn { σ with error := e })) herror
  | true =>
      have hline : Statement.ofLine? (.plain
          ("let error = runtime::api_error(&response, runtime::ErrorFormat::" ++
            errorFormat b ++ ");")) = some .bindError := by
        unfold errorFormat
        cases b.protocol.responseEncoding <;> rfl
      rw [Code.when, if_pos rfl, Code.text, Code.run?, hline]
      exact if_pos hresponse

theorem run?_when_bindOutput (asks : Bool) (hresponse : σ.response = true)
    (hbody : asks = true → ∃ d, a.body (outputType o) = some d) :
    ∃ τ : Scope, (asks = true → τ.output = a.body (outputType o)) ∧ τ.response = true ∧
      (Code.when asks (.line (.of ["let output = ", outputItem o,
        "::from_response(&response)?;"]))).run? a σ = some (.goesOn τ) := by
  cases asks with
  | false => exact ⟨σ, nofun, hresponse, rfl⟩
  | true =>
      obtain ⟨d, hd⟩ := hbody rfl
      refine ⟨{ σ with output := some d }, fun _ => hd.symm, hresponse, ?_⟩
      have hline : Statement.ofLine? (.of ["let output = ", outputItem o,
          "::from_response(&response)?;"]) = some (.bindOutput (outputType o)) := rfl
      rw [Code.when, if_pos rfl, Code.run?, hline, Option.bind_some, Statement.run?,
        if_pos hresponse, hd]

/-- A failed response is decided inside the block for failed responses. -/
theorem run?_failedCode (hp : p.failed = failedQuestions l) (hfailed : a.isSuccess = false)
    (hresponse : σ.response = true) (herror : σ.error = false) :
    (p.failedCode (errorFormat b)).run? a σ =
      some (.returns (match l.find? (Acceptor.accepts o a) with
        | some x => .state x.state
        | none => .apiError)) := by
  have hholds : Condition.failed.holds? a σ = some true := by
    rw [Condition.holds?, if_pos hresponse, hfailed]
    rfl
  rw [Poll.failedCode, hp]
  refine Code.run?_braces_of_returns rfl hholds ?_
  refine (Code.run?_seq_of_goesOn (run?_when_bindError _ hresponse herror)).trans ?_
  have hmirrors := mirrors_failedQuestions (o := o) (σ := { σ with
      error := !Poll.decides (failedQuestions l) ||
        (failedQuestions l).any fun g => g.question.asksError }) hfailed hresponse l
    fun h => Bool.or_eq_true_iff.mpr (.inr h)
  obtain ⟨values, hrun⟩ := hmirrors.run? 0 σ.values
  cases hfind : l.find? (Acceptor.accepts o a) with
  | some x =>
      rw [hfind] at hrun
      exact Code.run?_seq_of_returns hrun
  | none =>
      -- Then no question is one that needs no answer, so the error was bound and is returned.
      rw [hfind] at hrun
      refine (Code.run?_seq_of_goesOn hrun).trans (Code.run?_seq_of_returns ?_)
      rw [hmirrors.decides_eq_false hfind]
      rfl

/-- A successful one goes past it. -/
theorem run?_failedCode_of_isSuccess (format : String) (hs : a.isSuccess = true)
    (hresponse : σ.response = true) :
    (p.failedCode format).run? a σ = some (.goesOn σ) := by
  have hholds : Condition.failed.holds? a σ = some false := by
    rw [Condition.holds?, if_pos hresponse, hs]
    rfl
  exact Code.run?_braces_of_false rfl hholds

/-- After the block a successful response is decided. -/
theorem run?_succeededCode (hp : succeededQuestions b o l = .ok p.succeeded)
    (hs : a.isSuccess = true) (hreadable : a.Readable b.service o)
    (hresponse : σ.response = true) :
    (p.succeededCode o).run? a σ =
      some (match l.find? (Acceptor.accepts o a) with
        | some x => .returns (.state x.state)
        | none => .value (.state .retry)) := by
  have hrow := row_of_succeededQuestions hp
  have hbody : (p.succeeded.any fun g => g.question.asksOutput) = true →
      ∃ d, a.body (outputType o) = some d := by
    intro hasks
    obtain ⟨k, hk⟩ := hrow.exists_output hasks
    obtain ⟨d, hd, -⟩ := hreadable hs k hk
    exact ⟨d, hd⟩
  obtain ⟨τ, hτ, hresponse', hbind⟩ := run?_when_bindOutput _ hresponse hbody
  have hmirrors := hrow.mirrors hs hresponse' hreadable hτ
  obtain ⟨values, hrun⟩ := hmirrors.run? 0 τ.values
  refine (Code.run?_seq_of_goesOn hbind).trans ?_
  cases hfind : l.find? (Acceptor.accepts o a) with
  | some x =>
      rw [hfind] at hrun
      exact Code.run?_seq_of_returns hrun
  | none =>
      rw [hfind] at hrun
      refine (Code.run?_seq_of_goesOn hrun).trans ?_
      rw [hmirrors.decides_eq_false hfind]
      rfl

theorem pollOf_eq_ok {w : Waiter} :
    pollOf b o w = .ok p ↔ p.failed = failedQuestions w.acceptors ∧
      succeededQuestions b o w.acceptors = .ok p.succeeded := by
  rw [pollOf, bind_eq_ok]
  constructor
  · rintro ⟨succeeded, hsucceeded, h⟩
    obtain rfl := pure_eq_ok.mp h
    exact ⟨rfl, hsucceeded⟩
  · rintro ⟨hfailed, hsucceeded⟩
    exact ⟨p.succeeded, hsucceeded, pure_eq_ok.mpr (congrArg (Poll.mk · p.succeeded) hfailed.symm)⟩

/-- The whole function: the request is sent, and one of the two rows decides. -/
theorem verdict?_code {w : Waiter} (hp : pollOf b o w = .ok p)
    (hreadable : a.Readable b.service o) :
    (Code.all [.text "let response = self.transport.send(input.request()?)?;", .blank,
      p.failedCode (errorFormat b), .blank, p.succeededCode o]).verdict? a =
        some (w.verdict o a) := by
  obtain ⟨hfailed, hsucceeded⟩ := pollOf_eq_ok.mp hp
  have hsend : ∀ rest : Code,
      (Code.text "let response = self.transport.send(input.request()?)?;" ++
        (Code.blank ++ rest)).run? a .bare = rest.run? a .answered := fun _ => rfl
  cases hs : a.isSuccess with
  | false =>
      have hrow := run?_failedCode (b := b) (o := o) (σ := .answered) hfailed hs rfl rfl
      refine Code.verdict?_of_returns ((hsend _).trans (Code.run?_seq_of_returns (hrow.trans ?_)))
      rw [Waiter.verdict, hs]
      rfl
  | true =>
      have hskip := run?_failedCode_of_isSuccess (p := p) (σ := .answered) (errorFormat b) hs rfl
      have hrow := run?_succeededCode (σ := .answered) hsucceeded hs hreadable rfl
      have hrest : ∀ rest : Code, (p.failedCode (errorFormat b) ++
          (Code.blank ++ rest)).run? a .answered = rest.run? a .answered :=
        fun _ => Code.run?_seq_of_goesOn hskip
      rw [Waiter.verdict, hs]
      cases hfind : w.acceptors.find? (Acceptor.accepts o a) with
      | some x =>
          rw [hfind] at hrow
          exact Code.verdict?_of_returns
            (((hsend _).trans (hrest _)).trans (Code.run?_seq_of_returns hrow))
      | none =>
          rw [hfind] at hrow
          exact Code.verdict?_of_value
            (((hsend _).trans (hrest _)).trans (Code.run?_seq_of_value hrow rfl))

end Function

/-- Where a waiter has code, the function that polls once decides every readable
answer like the first acceptor that accepts it. If there is none, a failed
response is the error that it brings and a successful one means to try again. -/
theorem poll_decides {b : Blueprint} {w : Waiter} {c : Code}
    (h : waiterAttempt b w = .ok c) :
    ∃ o before body, b.service.operation? w.operation = some o ∧
      c = Code.all (before ++ [.braces (.of ["fn poll_", (Naming.snake w.name : String),
        "(&self, input: &", inputItem o, ") -> Result<runtime::WaiterState, runtime::Error>"])
          body]) ∧
      ∀ a : Answer, a.Readable b.service o → body.verdict? a = some (w.verdict o a) := by
  obtain ⟨o, p, ho, hp, rfl⟩ := exists_of_waiterAttempt h
  refine ⟨o, [waiterDocumentation w o, _, .blank, _, _, .blank], _, ho, rfl, fun a hreadable => ?_⟩
  exact verdict?_code hp hreadable

end Crate

/-! ## An example

Somebody waits for a tree to bear apples. The acceptors for failed responses
stand between those for successful ones, and the last of each kind takes what is
left. -/

/-- The waiter as a document has it. -/
def Definition.treeRipe : Definition.WaiterEntry where
  operation := "GetTree"
  delay := 60
  maxAttempts := 10
  description := none
  acceptors :=
    [⟨"retry", "error", none, .string "NotPlanted"⟩,
      ⟨"success", "path", some "Tree.Kind", .string "apple"⟩,
      ⟨"failure", "error", none, .bool true⟩,
      ⟨"failure", "pathAll", some "Tree.Branches[].Kind", .string "pear"⟩,
      ⟨"retry", "status", none, .ofNat 202⟩,
      ⟨"success", "pathAny", some "Tree.Branches[-1].Kind", .string "apple"⟩,
      ⟨"failure", "error", none, .bool false⟩]

/-- The orchard with the waiter. -/
def Sources.harvest : Sources where
  definition := Definition.orchard
  givenName := none
  paginators := none
  waiters := some ⟨2, [("TreeRipe", Definition.treeRipe)]⟩

/-- The waiter that the document describes. -/
def Waiter.treeRipe : Waiter where
  name := "TreeRipe"
  operation := "GetTree"
  delay := 60
  maxAttempts := 10
  description := none
  acceptors :=
    [⟨.retry, .errorCode "NotPlanted"⟩,
      ⟨.success, .path ⟨[[.field "Tree", .field "Kind"]]⟩ (.string "apple")⟩,
      ⟨.failure, .anyError true⟩,
      ⟨.failure, .pathAll ⟨[[.field "Tree", .field "Branches", .project, .field "Kind"]]⟩
        (.string "pear")⟩,
      ⟨.retry, .status 202⟩,
      ⟨.success, .pathAny ⟨[[.field "Tree", .field "Branches", .index (-1), .field "Kind"]]⟩
        (.string "apple")⟩,
      ⟨.failure, .anyError false⟩]

/-- A tree of a kind with branches. -/
def Datum.tree (kind : String) (branches : List Datum) : Datum :=
  .record fun ident =>
    if ident = "kind" then some (.text kind)
    else if ident = "branches" then some (.items branches)
    else none

/-- The output with a tree. -/
def Datum.treeOutput (tree : Datum) : Datum :=
  .record fun ident => if ident = "tree" then some tree else none

/-- A pear tree whose last branch bears apples. -/
def Answer.grafted : Answer where
  status := 200
  errorCode := none
  body _ := some (.treeOutput (.tree "pear" [.tree "pear" [], .tree "apple" []]))

/-- There is no tree yet. -/
def Answer.notPlanted : Answer where
  status := 404
  errorCode := some "NotPlanted"
  body _ := none

/-- The members and what they target, where the name is one of a structure. -/
def Service.targetsOf (s : Service) (k : String) : List (String × String) :=
  match s.shape? k with
  | some (.structure t) => t.members.map fun m => (m.name, m.shape)
  | _ => []

theorem Datum.Fits.of_targetsOf {s : Service} {k : String} {fields : String → Option Datum}
    (hk : s.targetsOf k ≠ [])
    (h : ∀ name shape, (name, shape) ∈ s.targetsOf k → ∀ d,
      fields (Naming.fieldIdent name) = some d → d.Fits s shape) :
    (Datum.record fields).Fits s k := by
  unfold Service.targetsOf at hk h
  split at hk
  · next t ht =>
    rw [ht] at h
    exact .structure ht fun m hm => h m.name m.shape (List.mem_map_of_mem hm)
  · exact absurd rfl hk

theorem Sources.shapes_harvest : (Sources.harvest.toService.result.map fun s =>
    (s.targetsOf "GetTreeOutput", s.targetsOf "Tree", s.shape? "Branches", s.shape? "Kind")) =
      .ok ([("Tree", "Tree")], [("Kind", "Kind"), ("Branches", "Branches")],
        some (.list ⟨"Branches", ⟨"Tree", none⟩, false, none⟩),
        some (.scalar ⟨"Kind", .string, ["apple", "pear"], none, false, false, none⟩)) := rfl

theorem Answer.readable_grafted {s : Service} (hs : Sources.harvest.toService.result = .ok s)
    {o : Operation} (ho : o.output = some "GetTreeOutput") : Answer.grafted.Readable s o := by
  have hshapes := Sources.shapes_harvest
  rw [hs] at hshapes
  simp only [Except.map, Except.ok.injEq, Prod.mk.injEq] at hshapes
  obtain ⟨houtput, htree, hbranches, hkind⟩ := hshapes
  have hfits : ∀ kind branches, (∀ d ∈ branches, Datum.Fits s "Tree" d) →
      (Datum.tree kind branches).Fits s "Tree" := by
    intro kind branches h
    refine .of_targetsOf (by rw [htree]; nofun) fun name shape hmem d hd => ?_
    rw [htree] at hmem
    have hkindIdent : Naming.fieldIdent "Kind" = "kind" := by decide
    have hbranchesIdent : Naming.fieldIdent "Branches" = "branches" := by decide
    simp only [List.mem_cons, Prod.mk.injEq, List.not_mem_nil, or_false] at hmem
    rcases hmem with ⟨rfl, rfl⟩ | ⟨rfl, rfl⟩
    · rw [hkindIdent] at hd
      obtain rfl := Option.some.inj hd
      exact .scalar hkind
    · rw [hbranchesIdent] at hd
      obtain rfl := Option.some.inj hd
      exact .list hbranches h
  intro _ k hk
  obtain rfl : "GetTreeOutput" = k := Option.some.inj (ho.symm.trans hk)
  refine ⟨_, rfl, .of_targetsOf (by rw [houtput]; nofun) fun name shape hmem d hd => ?_⟩
  rw [houtput, List.mem_singleton, Prod.mk.injEq] at hmem
  obtain ⟨rfl, rfl⟩ := hmem
  have htreeIdent : Naming.fieldIdent "Tree" = "tree" := by decide
  rw [htreeIdent] at hd
  obtain rfl := Option.some.inj hd
  refine hfits "pear" _ (List.forall_mem_cons.mpr ⟨hfits "pear" [] nofun, ?_⟩)
  exact List.forall_mem_singleton.mpr (hfits "apple" [] nofun)

theorem Waiter.exists_attempt_treeRipe {b : Blueprint}
    (h : Sources.harvest.toService.result = .ok b.service) :
    ∃ c, Crate.waiterAttempt b .treeRipe = .ok c := by
  obtain ⟨s, usage, names, boxed⟩ := b
  have hcheck : (Sources.harvest.toService.result.map fun s =>
      (Crate.waiterAttempt ⟨s, usage, names, boxed⟩ .treeRipe).isOk) = .ok true := rfl
  rw [h] at hcheck
  have hok : (Crate.waiterAttempt ⟨s, usage, names, boxed⟩ .treeRipe).isOk = true :=
    Except.ok.inj hcheck
  cases hattempt : Crate.waiterAttempt ⟨s, usage, names, boxed⟩ .treeRipe with
  | ok c => exact ⟨c, rfl⟩
  | error e =>
      rw [hattempt] at hok
      cases hok

/-- What the three paths of the waiter find in the grafted tree. -/
theorem Answer.valuesAt_grafted (o : Operation) :
    Answer.grafted.valuesAt o ⟨[[.field "Tree", .field "Kind"]]⟩ = ["pear"] ∧
      Answer.grafted.valuesAt o
        ⟨[[.field "Tree", .field "Branches", .project, .field "Kind"]]⟩ = ["pear", "apple"] ∧
      Answer.grafted.valuesAt o
        ⟨[[.field "Tree", .field "Branches", .index (-1), .field "Kind"]]⟩ = ["apple"] := by
  refine ⟨?_, ?_, ?_⟩
  all_goals
    show Datum.values _ _ = _
    decide

theorem Waiter.verdict_grafted (o : Operation) :
    Waiter.treeRipe.verdict o .grafted = .state .success := by
  obtain ⟨hkind, hkinds, hlast⟩ := Answer.valuesAt_grafted o
  have hs : Answer.grafted.isSuccess = true := rfl
  have hstatus : Answer.grafted.status = 200 := rfl
  simp [Waiter.verdict, Waiter.treeRipe, Acceptor.accepts, Matcher.accepts,
    Expected.text, hs, hstatus, hkind, hkinds, hlast]

theorem Waiter.verdict_notPlanted (o : Operation) :
    Waiter.treeRipe.verdict o .notPlanted = .state .retry := rfl

theorem Waiter.poll_treeRipe : ∃ s b c o before body,
    Sources.harvest.toService.result = .ok s ∧ Blueprint.of s [] = .ok b ∧
      s.waiters.values = [.treeRipe] ∧ Crate.waiterAttempt b .treeRipe = .ok c ∧
      c = Code.all (before ++ [.braces (.of ["fn poll_", "tree_ripe", "(&self, input: &",
        Crate.inputItem o, ") -> Result<runtime::WaiterState, runtime::Error>"]) body]) ∧
      Answer.grafted.Readable s o ∧ body.verdict? .grafted = some (.state .success) ∧
      body.verdict? .notPlanted = some (.state .retry) := by
  have hfacts : (Sources.harvest.toService.result.map fun s =>
      (s.waiters.values, (s.operation? "GetTree").map (·.output))) =
        .ok ([.treeRipe], some (some "GetTreeOutput")) := rfl
  obtain ⟨s, hs, hfacts⟩ := map_eq_ok.mp hfacts
  rw [Prod.mk.injEq] at hfacts
  obtain ⟨hwaiters, houtput⟩ := hfacts
  have hknown : Usage.Known s [] := nofun
  obtain ⟨b, hb⟩ := Blueprint.exists_of_known hknown
  obtain ⟨-, rfl⟩ := Blueprint.ready_of_of hs hb
  obtain ⟨c, hc⟩ := exists_attempt_treeRipe hs
  obtain ⟨o, before, body, ho, rfl, hbody⟩ := Crate.poll_decides hc
  have hsnake : Naming.snake treeRipe.name = "tree_ripe" := by decide
  have ho' : o.output = some "GetTreeOutput" := by
    rw [show b.service.operation? "GetTree" = some o from ho] at houtput
    exact Option.some.inj houtput
  have hreadable := Answer.readable_grafted hs ho'
  refine ⟨_, b, _, o, before, body, hs, hb, hwaiters, hc, ?_, hreadable, ?_, ?_⟩
  · rw [hsnake]
  · rw [hbody _ hreadable, verdict_grafted]
  · have hfailed : Answer.notPlanted.Readable b.service o := nofun
    rw [hbody _ hfailed, verdict_notPlanted]

end Clientwright
