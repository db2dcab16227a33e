import Clientwright.Crate.Waiters
import Clientwright.Text.Pieces

/-!
# Running the code of a poll

The function that polls once is straight code: it sends the request, binds an
error or an output, collects texts, and returns under conditions. To say what it
decides one has to run it, and this file does so for the code as it is emitted.
Nothing here knows of waiters. A line is read by its own text, and what it means
is said of that text alone.

Running code is a function, so there is one result at most, and it has none if a
name is used that is not bound, if a way leads through a value that is not there
for it, or if the code holds anything else than the lines of a poll.

What a response carries is an `Answer`. Its body is kept as each output type
would read it, since only the code says which type reads it.
-/

namespace Clientwright

/-! ## Data -/

/-- A value of a generated type, a scalar by the text that it prints as. -/
inductive Datum where
  | text (s : String)
  | items (l : List Datum)
  | entries (l : List (String × Datum))
  /-- the fields by their identifiers, so far as they are set -/
  | record (fields : String → Option Datum)

namespace Datum

/-- The text of a scalar. -/
def text? : Datum → Option String
  | text s => some s
  | items _ | entries _ | record _ => none

/-- The datum has the type that is generated for the shape of the name. -/
inductive Fits (s : Service) : String → Datum → Prop where
  | scalar {k : String} {t : ScalarShape} {v : String} :
    s.shape? k = some (.scalar t) → Fits s k (.text v)
  | list {k : String} {l : ListShape} {items : List Datum} :
    s.shape? k = some (.list l) → (∀ d ∈ items, Fits s l.member.shape d) → Fits s k (.items items)
  | map {k : String} {m : MapShape} {entries : List (String × Datum)} :
    s.shape? k = some (.map m) → (∀ e ∈ entries, Fits s m.value.shape e.2) →
      Fits s k (.entries entries)
  | «structure» {k : String} {t : StructureShape} {fields : String → Option Datum} :
    s.shape? k = some (.structure t) →
      (∀ m ∈ t.members, ∀ d, fields (Naming.fieldIdent m.name) = some d → Fits s m.shape d) →
      Fits s k (.record fields)

namespace Fits

variable {s : Service} {k : String} {d : Datum}

theorem exists_text {t : ScalarShape} (h : d.Fits s k) (hk : s.shape? k = some (.scalar t)) :
    ∃ v, d = .text v := by
  cases h with
  | scalar _ => exact ⟨_, rfl⟩
  | list hk' _ | map hk' _ | «structure» hk' _ => cases hk.symm.trans hk'

theorem exists_items {l : ListShape} (h : d.Fits s k) (hk : s.shape? k = some (.list l)) :
    ∃ items, d = .items items ∧ ∀ e ∈ items, e.Fits s l.member.shape := by
  cases h with
  | list hk' hitems =>
      cases hk.symm.trans hk'
      exact ⟨_, rfl, hitems⟩
  | scalar hk' | map hk' _ | «structure» hk' _ => cases hk.symm.trans hk'

theorem exists_fields {t : StructureShape} (h : d.Fits s k)
    (hk : s.shape? k = some (.structure t)) :
    ∃ fields, d = .record fields ∧
      ∀ m ∈ t.members, ∀ e, fields (Naming.fieldIdent m.name) = some e → e.Fits s m.shape := by
  cases h with
  | «structure» hk' hfields =>
      cases hk.symm.trans hk'
      exact ⟨_, rfl, hfields⟩
  | scalar hk' | list hk' _ | map hk' _ => cases hk.symm.trans hk'

end Fits

end Datum

namespace AccessStep

/-- Where the step leads from a datum; it is stuck at one of another kind. -/
def follow : AccessStep → Datum → Option (List Datum)
  | field ident, .record fields => some (fields ident).toList
  | fromStart n, .items l => some l[n]?.toList
  | fromEnd n, .items l => some l.reverse[n]?.toList
  | each, .items l => some l
  | _, _ => none

/-- Where the steps lead from the data, in order. -/
def followAll : List AccessStep → List Datum → Option (List Datum)
  | [], data => some data
  | step :: rest, data => do followAll rest (← data.mapM step.follow).flatten

end AccessStep

/-! ## Answers -/

/-- What a poll comes to. -/
inductive Verdict where
  | state (s : AcceptorState)
  /-- the error that the service answered with -/
  | apiError
  /-- the body cannot be read as the output -/
  | unreadable
  deriving DecidableEq, Repr

/-- A response as a poll sees it. -/
structure Answer where
  status : Nat
  /-- the code in the body of an error -/
  errorCode : Option String
  /-- the body as an output type reads it, if it can -/
  body : String → Option Datum

/-- Was the request successful? -/
def Answer.isSuccess (a : Answer) : Bool := decide (200 ≤ a.status ∧ a.status < 300)

/-! ## Reading lines -/

/-- The pieces that are written one after the other. -/
def Expr.pieces : Expr → List Expr
  | .empty => []
  | .seq a b => a :: b.pieces
  | e => [e]

@[simp]
theorem Expr.pieces_of (l : List Expr) : (Expr.of l).pieces = l := by
  induction l with
  | nil => rfl
  | cons e l ih => exact congrArg (e :: ·) ih

/-- The number that the digits write. -/
def numberOf? (digits : List Char) : Option Nat :=
  if !digits.isEmpty && digits.all Char.isDigit then some (Nat.ofDigitChars 10 digits 0) else none

theorem numberOf?_toString (n : Nat) : numberOf? (toString n).toList = some n := by
  have hdigits : (toString n).toList = Nat.toDigits 10 n := by
    rw [Nat.toString_eq_ofList_toDigits, String.toList_ofList]
  have hall : (Nat.toDigits 10 n).all Char.isDigit = true :=
    List.all_eq_true.mpr fun _ hc => Nat.isDigit_of_mem_toDigits (by decide) (by decide) hc
  have hsome : (Nat.toDigits 10 n).isEmpty = false :=
    List.isEmpty_eq_false_iff.mpr Nat.toDigits_ne_nil
  rw [hdigits, numberOf?, hall, hsome, Nat.ofDigitChars_toDigits (by decide) (by decide)]
  rfl

/-- The number that stands between two texts. -/
def numberBetween? (before after s : String) : Option Nat := do
  let rest ← Text.dropStart? before.toList s.toList
  let digits ← Text.dropStart? after.toList.reverse rest.reverse
  numberOf? digits.reverse

theorem numberBetween?_append (before after : String) (n : Nat) :
    numberBetween? before after (before ++ toString n ++ after) = some n := by
  have hrest : Text.dropStart? before.toList (before ++ toString n ++ after).toList =
      some ((toString n).toList ++ after.toList) := by
    rw [Text.dropStart?_eq_some_iff, String.toList_append, String.toList_append, List.append_assoc]
  have hdigits : Text.dropStart? after.toList.reverse
      ((toString n).toList ++ after.toList).reverse = some (toString n).toList.reverse := by
    rw [Text.dropStart?_eq_some_iff, List.reverse_append]
  simp only [numberBetween?, hrest, hdigits, Option.bind_eq_bind, Option.bind_some,
    List.reverse_reverse, numberOf?_toString]

/-- The step that a closure takes from `v` to something that may be missing. -/
def AccessStep.ofClosure? (body : Expr) : Option AccessStep :=
  match body.pieces with
  | [.plain "v.", .field ident, .plain ".as_ref()"] => some (.field ident)
  | [.plain s] =>
    ((numberBetween? "v.get(" ")" s).map .fromStart).or
      ((numberBetween? "v.iter().rev().nth(" ")" s).map .fromEnd)
  | _ => none

theorem AccessStep.ofClosure?_expr {step : AccessStep} (h : step ≠ .each) :
    ofClosure? step.expr = some step := by
  cases step with
  | field ident => rfl
  | fromStart n =>
      show ((numberBetween? _ _ ("v.get(" ++ toString n ++ ")")).map AccessStep.fromStart).or _ = _
      rw [numberBetween?_append]
      rfl
  | fromEnd n =>
      have hnone :
          numberBetween? "v.get(" ")" ("v.iter().rev().nth(" ++ toString n ++ ")") = none := by
        rw [numberBetween?, String.toList_append, String.toList_append]
        rfl
      show ((numberBetween? _ _ ("v.iter().rev().nth(" ++ toString n ++ ")")).map
        AccessStep.fromStart).or ((numberBetween? _ _ _).map AccessStep.fromEnd) = _
      rw [hnone, numberBetween?_append]
      rfl
  | each => exact absurd rfl h

/-- The step that is taken on every value by a call. -/
def AccessStep.ofCall? (call : Expr) : Option AccessStep :=
  match call.pieces with
  | [.plain ".flat_map(", .closure (.var "v") (.plain "v.iter()"), .plain ")"] => some .each
  | [.plain ".filter_map(", .closure (.var "v") body, .plain ")"] => ofClosure? body
  | _ => none

/-- The steps by which an expression collects values of the output. -/
def Expr.stepsFromOutput? (e : Expr) : Option (List AccessStep) :=
  match e.pieces with
  | .plain "std::iter::once(&output)" :: calls => calls.mapM AccessStep.ofCall?
  | _ => none

/-- What is asked before a block. -/
inductive Condition where
  | failed
  | status (code : Nat)
  | errorCode (code : String)
  | any (values expected : String)
  | all (values expected : String)
  deriving DecidableEq, Repr

/-- The condition that an opening line asks. -/
def Condition.ofHead? (head : Expr) : Option Condition :=
  match head with
  | .seq (.plain s) (.plain " \x7b") =>
    ((numberBetween? "if response.status == " "" s).map .status).or
      (if s = "if !response.is_success()" then some .failed else none)
  | .seq condition (.plain " \x7b") =>
    match condition.pieces with
    | [.plain "if error.code() == Some(", .quoted code, .plain ")"] => some (.errorCode code)
    | [.plain "if ", .var values, .plain ".iter().any(|v| v == ", .quoted expected, .plain ")"] =>
      some (.any values expected)
    | [.plain "if !", .var values, .plain ".is_empty() && ", .var again,
        .plain ".iter().all(|v| v == ", .quoted expected, .plain ")"] =>
      if values = again then some (.all values expected) else none
    | _ => none
  | _ => none

/-- What a line does. -/
inductive Statement where
  | nothing
  | send
  | bindError
  | bindOutput (type : String)
  | collect (name : String) (steps : List AccessStep)
  | returnError
  | returnState (s : AcceptorState)
  /-- the state as the value of the function, on its last line -/
  | state (s : AcceptorState)
  deriving DecidableEq, Repr

/-- The statement on a line. -/
def Statement.ofLine? (line : Expr) : Option Statement :=
  match line.pieces with
  | [] => some .nothing
  | [.plain "let response = self.transport.send(input.request()?)?;"] => some .send
  | [.plain "let error = runtime::api_error(&response, runtime::ErrorFormat::Json);"] =>
    some .bindError
  | [.plain "let error = runtime::api_error(&response, runtime::ErrorFormat::Xml);"] =>
    some .bindError
  | [.plain "return Err(error);"] => some .returnError
  | [.plain "return Ok(runtime::WaiterState::Success);"] => some (.returnState .success)
  | [.plain "return Ok(runtime::WaiterState::Failure);"] => some (.returnState .failure)
  | [.plain "return Ok(runtime::WaiterState::Retry);"] => some (.returnState .retry)
  | [.plain "Ok(runtime::WaiterState::Success)"] => some (.state .success)
  | [.plain "Ok(runtime::WaiterState::Failure)"] => some (.state .failure)
  | [.plain "Ok(runtime::WaiterState::Retry)"] => some (.state .retry)
  | [.plain "let output = ", .item .output type, .plain "::from_response(&response)?;"] =>
    some (.bindOutput type)
  | [.plain "let ", .var name, .plain ": Vec<String> = ", values,
      .plain ".map(|v| v.to_string()).collect();"] =>
    values.stepsFromOutput?.map (.collect name)
  | _ => none

/-! ## Running -/

/-- What is bound, and to what. -/
structure Scope where
  /-- is there a response? -/
  response : Bool
  /-- is there the error of a response? -/
  error : Bool
  output : Option Datum
  /-- the collections of texts -/
  values : String → Option (List String)

/-- What comes of a piece of code. -/
inductive Flow where
  | goesOn (σ : Scope)
  | returns (v : Verdict)
  /-- the value of the function, if nothing comes after -/
  | value (v : Verdict)

namespace Scope

/-- Nothing is bound. -/
def bare : Scope := ⟨false, false, none, fun _ => none⟩

/-- A response is bound and nothing else. -/
def answered : Scope := { bare with response := true }

/-- A collection of texts is bound. -/
def collected (σ : Scope) (name : String) (texts : List String) : Scope :=
  { σ with values := fun x => if x = name then some texts else σ.values x }

@[simp]
theorem values_collected (σ : Scope) (name : String) (texts : List String) :
    (σ.collected name texts).values name = some texts := if_pos rfl

end Scope

/-- The texts at the end of the steps from a datum. -/
def Datum.textsAt (d : Datum) (steps : List AccessStep) : Option (List String) := do
  (← AccessStep.followAll steps [d]).mapM Datum.text?

/-- Does the condition hold? -/
def Condition.holds? (a : Answer) (σ : Scope) : Condition → Option Bool
  | failed => if σ.response then some !a.isSuccess else none
  | status code => if σ.response then some (a.status == code) else none
  | errorCode code => if σ.error then some (a.errorCode == some code) else none
  | any values expected => (σ.values values).map fun l => l.any (· == expected)
  | all values expected => (σ.values values).map fun l => !l.isEmpty && l.all (· == expected)

/-- What comes of a statement. -/
def Statement.run? (a : Answer) (σ : Scope) : Statement → Option Flow
  | nothing => some (.goesOn σ)
  | send => some (.goesOn { σ with response := true })
  | bindError => if σ.response then some (.goesOn { σ with error := true }) else none
  | bindOutput type =>
    if σ.response then
      match a.body type with
      | some d => some (.goesOn { σ with output := some d })
      | none => some (.returns .unreadable)
    else none
  | collect name steps => do
    let texts ← (← σ.output).textsAt steps
    return .goesOn (σ.collected name texts)
  | returnError => if σ.error then some (.returns .apiError) else none
  | returnState s => some (.returns (.state s))
  | state s => some (.value (.state s))

namespace Code

/-- What comes of code. What a block binds is bound in the block only. -/
def run? (a : Answer) : Code → Scope → Option Flow
  | empty, σ => some (.goesOn σ)
  | seq c d, σ =>
    match c.run? a σ with
    | some (.goesOn τ) => d.run? a τ
    | some (.returns v) => some (.returns v)
    | some (.value v) => if d.isEmpty then some (.value v) else none
    | none => none
  | line e, σ => (Statement.ofLine? e).bind (Statement.run? a σ)
  | block head _ body _, σ =>
    match (Condition.ofHead? head).bind (Condition.holds? a σ) with
    | some true =>
      match body.run? a σ with
      | some (.goesOn _) => some (.goesOn σ)
      | some (.returns v) => some (.returns v)
      | some (.value _) | none => none
    | some false => some (.goesOn σ)
    | none => none
  | bind _ _, _ | branch _ _ _, _ => none

/-- What a function decides that has the code as its body. -/
def verdict? (a : Answer) (body : Code) : Option Verdict :=
  match body.run? a .bare with
  | some (.returns v) | some (.value v) => some v
  | some (.goesOn _) | none => none

variable {a : Answer} {σ τ : Scope} {c d body : Code} {v : Verdict} {head : Expr}
  {condition : Condition}

theorem run?_seq_of_goesOn (h : c.run? a σ = some (.goesOn τ)) :
    (c ++ d).run? a σ = d.run? a τ := by
  show (seq c d).run? a σ = _
  simp only [run?, h]

theorem run?_seq_of_returns (h : c.run? a σ = some (.returns v)) :
    (c ++ d).run? a σ = some (.returns v) := by
  show (seq c d).run? a σ = _
  simp only [run?, h]

/-- The value of the function is on its last line. -/
theorem run?_seq_of_value (h : c.run? a σ = some (.value v)) (hd : d.isEmpty = true) :
    (c ++ d).run? a σ = some (.value v) := by
  show (seq c d).run? a σ = _
  simp only [run?, h, hd, if_true]

theorem verdict?_of_returns (h : body.run? a .bare = some (.returns v)) :
    body.verdict? a = some v := by
  rw [verdict?, h]

theorem verdict?_of_value (h : body.run? a .bare = some (.value v)) :
    body.verdict? a = some v := by
  rw [verdict?, h]

theorem run?_braces_of_false
    (hhead : Condition.ofHead? (head ++ Expr.plain " \x7b") = some condition)
    (h : condition.holds? a σ = some false) :
    (braces head body).run? a σ = some (.goesOn σ) := by
  simp only [braces, run?, hhead, Option.bind_some, h]

theorem run?_braces_of_returns
    (hhead : Condition.ofHead? (head ++ Expr.plain " \x7b") = some condition)
    (h : condition.holds? a σ = some true) (hbody : body.run? a σ = some (.returns v)) :
    (braces head body).run? a σ = some (.returns v) := by
  simp only [braces, run?, hhead, Option.bind_some, h, hbody]

end Code

end Clientwright
