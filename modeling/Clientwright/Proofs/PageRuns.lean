import Clientwright.Proofs.PollRuns

/-!
# Running the code of a page

The method of a page iterator sends one request, copies the input, assigns some
fields of the copy, and keeps the copy under a condition. What it does after a
page is said here for code as it is emitted: which fields it assigns and from
what, and under which conditions it keeps the copy. Nothing here knows of
paginators.

An expression for a token is read back as the ways that it tries, and a condition
as a conjunction of groups of tests, of each of which one has to succeed. What
cannot be read has no meaning: a condition that joins an empty pair of
parentheses to a test is refused by a compiler, and here it is never met.
-/

namespace Clientwright

/-! ## Reading expressions -/

namespace Expr

/-- The step that an expression begins with at the output. -/
def outputStep? (e : Expr) : Option AccessStep :=
  match e.pieces with
  | [.plain "output.", .field ident, .plain ".as_ref()"] => some (.field ident)
  | _ => none

/-- The step that a call takes from a value that may be missing. -/
def andThenStep? (e : Expr) : Option AccessStep :=
  match e.pieces with
  | [.plain ".and_then(", .closure (.var "v") body, .plain ")"] => AccessStep.ofClosure? body
  | _ => none

/-- The steps by which an expression gets to one value of the output. -/
def way? (e : Expr) : Option (List AccessStep) :=
  match e.pieces with
  | first :: calls => do return (← first.outputStep?) :: (← calls.mapM andThenStep?)
  | [] => none

/-- The ways that an expression tries, one after the other. -/
def ways? : Expr → Option (List (List AccessStep))
  | .seq e (.seq (.plain ".or_else(|| ") (.seq way (.seq (.plain ")") .empty))) => do
    return (← e.ways?) ++ [← way.way?]
  | e => e.way?.map ([·])

/-- The expressions with the text between each two of them. -/
def split (separator : String) : Expr → List Expr
  | .seq e (.seq (.plain s) rest) =>
    if s = separator then e :: rest.split separator else [.seq e (.seq (.plain s) rest)]
  | e => [e]

/-- What is separated can be split again, if nothing in it is itself separated. -/
theorem split_separated {separator : String} {l : List Expr} (hl : l ≠ [])
    (h : ∀ e ∈ l, e.split separator = [e]) : (separated separator l).split separator = l := by
  induction l with
  | nil => exact absurd rfl hl
  | cons e rest ih =>
      cases rest with
      | nil => exact h e List.mem_cons_self
      | cons e' rest =>
          have hrest := ih (List.cons_ne_nil _ _) fun x hx => h x (List.mem_cons_of_mem _ hx)
          show (Expr.seq e (.seq (.plain separator) _)).split separator = _
          rw [split, if_pos rfl, hrest]

end Expr

/-- What a condition asks. -/
inductive Test where
  /-- a flag that is taken as not set where it is missing -/
  | flag (value : Expr)
  /-- has the field of the next input a value? -/
  | set (field : String)
  /-- is the next input another one? -/
  | changed
  deriving DecidableEq, Repr

namespace Expr

/-- The test that an expression makes. -/
def test? (e : Expr) : Option Test :=
  match e.pieces with
  | [.plain "next != input"] => some .changed
  | [value, .plain ".copied().unwrap_or(false)"] => some (.flag value)
  | [.plain "next.", .field f, .plain ".is_some()"] => some (.set f)
  | _ => none

/-- The tests of which one has to succeed; several of them stand in parentheses. -/
def tests? (e : Expr) : Option (List Test) :=
  match e.pieces with
  | [.plain "(", tests, .plain ")"] => (tests.split " || ").mapM test?
  | _ => e.test?.map ([·])

theorem test?_flag (value : Expr) :
    (Expr.of [value, ".copied().unwrap_or(false)"]).test? = some (.flag value) := by
  rw [test?, pieces_of]
  split
  · next h => cases h
  · next h => cases h; rfl
  · next h => cases h
  · next hflag _ => exact absurd rfl (hflag _)

theorem tests?_flag (value : Expr) :
    (Expr.of [value, ".copied().unwrap_or(false)"]).tests? = some [.flag value] := by
  rw [tests?, pieces_of]
  split
  · next h => cases h
  · rw [test?_flag, Option.map_some]

/-- The groups of tests that a condition asks for. -/
def guard? (e : Expr) : Option (List (List Test)) := (e.split " && ").mapM tests?

/-- The condition of a block, if its opening line asks one. -/
def condition? : Expr → Option Expr
  | .seq (.seq (.plain "if ") (.seq condition .empty)) (.plain " \x7b") => some condition
  | _ => none

end Expr

/-! ## Reading code -/

namespace Code

/-- The fields of the next input that are assigned, in order, and the tokens that they get. -/
def assigned : Code → List (String × Expr)
  | empty | bind _ _ => []
  | seq c d => c.assigned ++ d.assigned
  | line e =>
    match e.pieces with
    | [.plain "next.", .field f, .plain " = ", token, .plain ".cloned();"] => [(f, token)]
    | _ => []
  | block _ _ body _ => body.assigned
  | branch _ c d => c.assigned ++ d.assigned

/-- The conditions around each place where a line stands, the outermost first. -/
def guards (target : Expr) : Code → List (List Expr)
  | empty | bind _ _ => []
  | seq c d => c.guards target ++ d.guards target
  | line e => if e = target then [[]] else []
  | block head _ body _ => (body.guards target).map (head.condition?.toList ++ ·)
  | branch condition c d =>
    (c.guards target).map (condition :: ·) ++
      (d.guards target).map (.of ["!(", condition, ")"] :: ·)

/-- The line that keeps the next input. -/
def keepsNext : Expr := .plain "self.input = Some(next);"

variable {target : Expr} {pieces : List Code}

theorem assigned_all : (all pieces).assigned = pieces.flatMap assigned := by
  induction pieces with
  | nil => rfl
  | cons c pieces ih => exact congrArg (c.assigned ++ ·) ih

theorem guards_all : (all pieces).guards target = pieces.flatMap (guards target) := by
  induction pieces with
  | nil => rfl
  | cons c pieces ih => exact congrArg (c.guards target ++ ·) ih

end Code

/-! ## Running -/

/-- The fields of a record that are set. -/
abbrev Fields : Type := String → Option Datum

/-- The value at the end of the steps. -/
def Datum.reached (output : Datum) (steps : List AccessStep) : Option Datum :=
  (AccessStep.followAll steps [output]).bind List.head?

/-- The token that an expression finds in an output, by the first way that leads to one. -/
def Expr.tokenIn (e : Expr) (output : Datum) : Option Datum :=
  e.ways?.bind fun ways => ways.findSome? output.reached

/-- Is the flag at the expression set? -/
def Expr.IsSetIn (e : Expr) (output : Datum) : Prop :=
  (e.tokenIn output).bind Datum.text? = some "true"

/-- The test succeeds after a page. -/
def Test.Holds (output : Datum) (input next : Fields) : Test → Prop
  | flag value => value.IsSetIn output
  | set field => (next field).isSome
  | changed => next ≠ input

/-- The condition is met after a page. -/
def Expr.Holds (output : Datum) (input next : Fields) (e : Expr) : Prop :=
  ∃ groups, e.guard? = some groups ∧
    ∀ tests ∈ groups, ∃ test ∈ tests, test.Holds output input next

theorem Expr.holds_iff {output : Datum} {input next : Fields} {e : Expr}
    {groups : List (List Test)} (h : e.guard? = some groups) :
    e.Holds output input next ↔
      ∀ tests ∈ groups, ∃ test ∈ tests, test.Holds output input next := by
  simp only [Holds, h, Option.some.injEq, exists_eq_left']

/-- The fields after the tokens of an output were assigned. -/
def assignTokens (output : Datum) : List (String × Expr) → Fields → Fields
  | [], fields => fields
  | (f, token) :: rest, fields =>
    assignTokens output rest fun x => if x = f then token.tokenIn output else fields x

/-- A field that gets nothing is not set, whatever it was before. -/
theorem assignTokens_eq_none {output : Datum} {l : List (String × Expr)}
    (h : ∀ a ∈ l, a.2.tokenIn output = none) {fields : Fields} {x : String}
    (hx : fields x = none ∨ x ∈ l.map (·.1)) : assignTokens output l fields x = none := by
  induction l generalizing fields with
  | nil => exact hx.resolve_right List.not_mem_nil
  | cons a l ih =>
      obtain ⟨f, token⟩ := a
      rw [assignTokens]
      refine ih (fun a ha => h a (List.mem_cons_of_mem _ ha)) ?_
      by_cases hf : x = f
      · rw [if_pos hf]
        exact .inl (h (f, token) List.mem_cons_self)
      · rw [if_neg hf]
        exact hx.imp_right fun hx => (List.mem_cons.mp hx).resolve_left hf

namespace Code

/-- The input for the next page. -/
def nextInput (c : Code) (output : Datum) (input : Fields) : Fields :=
  assignTokens output c.assigned input

/-- There is a next page after the output: somewhere the next input is kept, and the
conditions around that place are met. -/
def GoesOn (c : Code) (output : Datum) (input : Fields) : Prop :=
  ∃ conditions ∈ c.guards keepsNext, ∀ e ∈ conditions,
    e.Holds output input (c.nextInput output input)

end Code

end Clientwright
