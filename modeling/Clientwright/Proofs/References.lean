import Clientwright.Source.Code

/-!
# What code refers to

The generated items that a piece of code mentions are leaves of its expressions.
What stands in string literals and in comments is text, whatever it looks like,
so it mentions nothing, and neither do names that only exist inside the file.

`Within` says of a piece of code that every item in it is one of a given kind.
It is computed by the pieces: each way of putting code together is within a kind
exactly if its parts are, and these rules are for `simp`. The rules for lists are
for lists that are written out and for those that come from a map; what is known
of any other list is known of its members. What is left of an emitter is then the
handful of places where it puts an item itself.
-/

namespace Clientwright

variable {P : Area → String → Prop}

namespace Expr

/-- Every generated item in the expression is one of these. -/
def Within (P : Area → String → Prop) : Expr → Prop
  | item area name => P area name
  | seq a b => a.Within P ∧ b.Within P
  | closure _ body => body.Within P
  | empty | plain _ | quoted _ | var _ | field _ | convert _ _ | timestamp _ => True

/-- Being within a kind is being within every wider one. -/
theorem Within.mono {Q : Area → String → Prop} (hQ : ∀ a n, P a n → Q a n) {e : Expr}
    (h : e.Within P) : e.Within Q := by
  induction e with
  | item area name => exact hQ area name h
  | seq a b iha ihb => exact ⟨iha h.1, ihb h.2⟩
  | closure _ body ih => exact ih h
  | empty | plain _ | quoted _ | var _ | field _ | convert _ _ | timestamp _ => trivial

@[simp]
theorem within_empty : empty.Within P ↔ True := .rfl

@[simp]
theorem within_plain {s : String} : (plain s).Within P ↔ True := .rfl

@[simp]
theorem within_quoted {s : String} : (quoted s).Within P ↔ True := .rfl

@[simp]
theorem within_var {name : String} : (var name).Within P ↔ True := .rfl

@[simp]
theorem within_field {ident : String} : (field ident).Within P ↔ True := .rfl

@[simp]
theorem within_item {area : Area} {name : String} :
    (item area name).Within P ↔ P area name := .rfl

@[simp]
theorem within_convert {conversion : Conversion} {owner : String} :
    (convert conversion owner).Within P ↔ True := .rfl

@[simp]
theorem within_timestamp {format : TimestampFormat} :
    (timestamp format).Within P ↔ True := .rfl

@[simp]
theorem within_seq {a b : Expr} : (seq a b).Within P ↔ a.Within P ∧ b.Within P := .rfl

@[simp]
theorem within_append {a b : Expr} : (a ++ b).Within P ↔ a.Within P ∧ b.Within P := .rfl

@[simp]
theorem within_closure {params : Pattern} {body : Expr} :
    (closure params body).Within P ↔ body.Within P := .rfl

@[simp]
theorem within_of_nil : (Expr.of []).Within P ↔ True := .rfl

@[simp]
theorem within_of_cons {e : Expr} {pieces : List Expr} :
    (Expr.of (e :: pieces)).Within P ↔ e.Within P ∧ (Expr.of pieces).Within P := .rfl

theorem within_of {pieces : List Expr} :
    (Expr.of pieces).Within P ↔ ∀ e ∈ pieces, e.Within P := by
  induction pieces with
  | nil => simp
  | cons e pieces ih => rw [within_of_cons, ih, List.forall_mem_cons]

theorem within_separated {separator : String} {l : List Expr} :
    (separated separator l).Within P ↔ ∀ e ∈ l, e.Within P := by
  fun_induction separated separator l with
  | case1 => simp
  | case2 e => simp
  | case3 e rest _ ih =>
      rw [within_seq, within_seq, within_plain, true_and, ih, List.forall_mem_cons]

@[simp]
theorem within_separated_map {α : Type} {separator : String} {l : List α}
    {f : α → Expr} :
    (separated separator (l.map f)).Within P ↔ ∀ a ∈ l, (f a).Within P := by
  rw [within_separated, List.forall_mem_map]

end Expr

namespace Code

/-- Every generated item in the code is one of these. -/
def Within (P : Area → String → Prop) : Code → Prop
  | empty => True
  | seq a b => a.Within P ∧ b.Within P
  | line e => e.Within P
  | bind _ value => value.Within P
  | block head _ body _ => head.Within P ∧ body.Within P
  | branch condition first second =>
    condition.Within P ∧ first.Within P ∧ second.Within P

theorem Within.mono {Q : Area → String → Prop} (hQ : ∀ a n, P a n → Q a n) {c : Code}
    (h : c.Within P) : c.Within Q := by
  induction c with
  | empty => trivial
  | seq a b iha ihb => exact ⟨iha h.1, ihb h.2⟩
  | line e => exact Expr.Within.mono hQ h
  | bind _ value => exact Expr.Within.mono hQ h
  | block head _ body _ ih => exact ⟨Expr.Within.mono hQ h.1, ih h.2⟩
  | branch condition first second ihf ihs =>
      exact ⟨Expr.Within.mono hQ h.1, ihf h.2.1, ihs h.2.2⟩

@[simp]
theorem within_empty : empty.Within P ↔ True := .rfl

@[simp]
theorem within_seq {a b : Code} : (seq a b).Within P ↔ a.Within P ∧ b.Within P := .rfl

@[simp]
theorem within_append {a b : Code} : (a ++ b).Within P ↔ a.Within P ∧ b.Within P := .rfl

@[simp]
theorem within_line {e : Expr} : (line e).Within P ↔ e.Within P := .rfl

@[simp]
theorem within_bind {name : String} {value : Expr} :
    (bind name value).Within P ↔ value.Within P := .rfl

@[simp]
theorem within_block {head : Expr} {binds : List String} {body : Code} {close : String} :
    (block head binds body close).Within P ↔ head.Within P ∧ body.Within P := .rfl

@[simp]
theorem within_branch {condition : Expr} {first second : Code} :
    (branch condition first second).Within P ↔
      condition.Within P ∧ first.Within P ∧ second.Within P := .rfl

@[simp]
theorem within_all_nil : (all []).Within P ↔ True := .rfl

@[simp]
theorem within_all_cons {c : Code} {pieces : List Code} :
    (all (c :: pieces)).Within P ↔ c.Within P ∧ (all pieces).Within P := .rfl

theorem within_all {pieces : List Code} :
    (all pieces).Within P ↔ ∀ c ∈ pieces, c.Within P := by
  induction pieces with
  | nil => simp
  | cons c pieces ih => rw [within_all_cons, ih, List.forall_mem_cons]

@[simp]
theorem within_all_map {α : Type} {l : List α} {f : α → Code} :
    (all (l.map f)).Within P ↔ ∀ a ∈ l, (f a).Within P := by
  rw [within_all, List.forall_mem_map]

@[simp]
theorem within_text {s : String} : (text s).Within P ↔ True := .rfl

@[simp]
theorem within_texts {l : List String} : (texts l).Within P ↔ True := by
  simp [texts]

@[simp]
theorem within_blank : blank.Within P ↔ True := .rfl

@[simp]
theorem within_orBlank {c : Option Code} :
    (orBlank c).Within P ↔ ∀ code, c = some code → code.Within P := by
  cases c with
  | none => simp [orBlank]
  | some c => simp [orBlank]

@[simp]
theorem within_when {condition : Bool} {code : Code} :
    (when condition code).Within P ↔ (condition = true → code.Within P) := by
  cases condition with
  | false => simp [when]
  | true => simp [when]

@[simp]
theorem within_braces {head : Expr} {body : Code} :
    (braces head body).Within P ↔ head.Within P ∧ body.Within P := by
  simp [braces]

@[simp]
theorem within_forEach {pattern : Pattern} {subject : Expr} {body : Code} :
    (forEach pattern subject body).Within P ↔ subject.Within P ∧ body.Within P := by
  simp [forEach]

@[simp]
theorem within_ifSet {name receiver ident : String} {body : Code} :
    (ifSet name receiver ident body).Within P ↔ body.Within P := by
  simp [ifSet]

theorem within_spaced {pieces : List Code} :
    (spaced pieces).Within P ↔ ∀ c ∈ pieces, c.Within P := by
  fun_induction spaced pieces with
  | case1 => simp
  | case2 c => simp
  | case3 c rest _ ih =>
      rw [within_seq, within_seq, within_blank, true_and, ih, List.forall_mem_cons]

end Code

end Clientwright
