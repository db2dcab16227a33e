import Clientwright.Source.Code

/-!
# Calls of conversions

Structures convert themselves. Code that has a value at hand asks it to write
itself, and code that wants a value asks the value's type to read one, so a call
is a method of a value or a function of a type. Which of them it is shows in what
stands before it: reading an expression from left to right, a function comes
after the path of its type.

`CallsAfter` says of every call in an expression that it is one of a given kind.
The rules are equivalences and go along with the reading, each piece taking up
what the one before has left, so `simp` computes the calls of code whose parts
are written out. Parts that come from elsewhere may be read after anything.
-/

namespace Clientwright

/-- A call of a conversion. -/
inductive Call where
  /-- of a value -/
  | method (conversion : Conversion) (owner : String)
  /-- of a generated type -/
  | function (area : Area) (type : String) (conversion : Conversion) (owner : String)
  deriving DecidableEq, Repr

/-- What stands right before a piece of an expression. -/
inductive Qualifier where
  | none
  /-- a generated type -/
  | type (area : Area) (name : String)
  /-- a generated type and the mark that leads into it -/
  | path (area : Area) (name : String)
  deriving DecidableEq, Repr

namespace Qualifier

/-- What stands there after a text. -/
def afterText (s : String) : Qualifier → Qualifier
  | type area name => if s = "::" then path area name else none
  | none | path _ _ => none

/-- The call of a conversion there. -/
def call (conversion : Conversion) (owner : String) : Qualifier → Call
  | path area name => .function area name conversion owner
  | none | type _ _ => .method conversion owner

@[simp]
theorem afterText_of_ne {s : String} {q : Qualifier} (h : s ≠ "::") : q.afterText s = none := by
  cases q with
  | type area name => exact if_neg h
  | none | path _ _ => rfl

@[simp]
theorem afterText_type {area : Area} {name : String} :
    (type area name).afterText "::" = path area name := rfl

@[simp]
theorem call_none {conversion : Conversion} {owner : String} :
    none.call conversion owner = .method conversion owner := rfl

@[simp]
theorem call_path {conversion : Conversion} {owner : String} {area : Area} {name : String} :
    (path area name).call conversion owner = .function area name conversion owner := rfl

end Qualifier

variable {S : Call → Prop} {q : Qualifier}

namespace Expr

/-- What stands there after an expression. -/
def after (q : Qualifier) : Expr → Qualifier
  | empty => q
  | plain s => q.afterText s
  | item area name => .type area name
  | seq a b => b.after (a.after q)
  | closure _ body => body.after .none
  | quoted _ | var _ | field _ | convert _ _ | timestamp _ => .none

/-- The calls in an expression, in order. -/
def calls (q : Qualifier) : Expr → List Call
  | convert conversion owner => [q.call conversion owner]
  | seq a b => a.calls q ++ b.calls (a.after q)
  | closure _ body => body.calls .none
  | empty | plain _ | quoted _ | var _ | field _ | item _ _ | timestamp _ => []

/-- Every call in the expression is one of these. -/
def CallsAfter (S : Call → Prop) (q : Qualifier) (e : Expr) : Prop := ∀ c ∈ e.calls q, S c

/-- And so it is wherever the expression stands. -/
abbrev Calls (S : Call → Prop) (e : Expr) : Prop := ∀ q, e.CallsAfter S q

@[simp]
theorem after_seq {a b : Expr} : (seq a b).after q = b.after (a.after q) := rfl

@[simp]
theorem after_item {area : Area} {name : String} :
    (item area name).after q = .type area name := rfl

@[simp]
theorem after_plain {s : String} : (plain s).after q = q.afterText s := rfl

@[simp]
theorem after_quoted {s : String} : (quoted s).after q = .none := rfl

@[simp]
theorem after_var {name : String} : (var name).after q = .none := rfl

@[simp]
theorem after_field {ident : String} : (field ident).after q = .none := rfl

@[simp]
theorem after_convert {conversion : Conversion} {owner : String} :
    (convert conversion owner).after q = .none := rfl

/-- Where there is no call there is nothing to say. -/
theorem callsAfter_silent {e : Expr} (h : e.calls q = []) : e.CallsAfter S q ↔ True := by
  rw [CallsAfter, h]
  exact iff_of_true (List.forall_mem_nil S) trivial

@[simp]
theorem callsAfter_empty : empty.CallsAfter S q ↔ True := callsAfter_silent rfl

@[simp]
theorem callsAfter_plain {s : String} : (plain s).CallsAfter S q ↔ True :=
  callsAfter_silent rfl

@[simp]
theorem callsAfter_quoted {s : String} : (quoted s).CallsAfter S q ↔ True :=
  callsAfter_silent rfl

@[simp]
theorem callsAfter_var {name : String} : (var name).CallsAfter S q ↔ True :=
  callsAfter_silent rfl

@[simp]
theorem callsAfter_field {ident : String} : (field ident).CallsAfter S q ↔ True :=
  callsAfter_silent rfl

@[simp]
theorem callsAfter_item {area : Area} {name : String} :
    (item area name).CallsAfter S q ↔ True :=
  callsAfter_silent rfl

@[simp]
theorem callsAfter_timestamp {format : TimestampFormat} :
    (timestamp format).CallsAfter S q ↔ True :=
  callsAfter_silent rfl

@[simp]
theorem callsAfter_convert {conversion : Conversion} {owner : String} :
    (convert conversion owner).CallsAfter S q ↔ S (q.call conversion owner) :=
  List.forall_mem_singleton

@[simp]
theorem callsAfter_seq {a b : Expr} :
    (seq a b).CallsAfter S q ↔ a.CallsAfter S q ∧ b.CallsAfter S (a.after q) :=
  List.forall_mem_append

@[simp]
theorem callsAfter_append {a b : Expr} :
    (a ++ b).CallsAfter S q ↔ a.CallsAfter S q ∧ b.CallsAfter S (a.after q) :=
  callsAfter_seq

@[simp]
theorem callsAfter_closure {params : Pattern} {body : Expr} :
    (closure params body).CallsAfter S q ↔ body.CallsAfter S .none := .rfl

@[simp]
theorem callsAfter_of_nil : (Expr.of []).CallsAfter S q ↔ True := callsAfter_empty

@[simp]
theorem callsAfter_of_cons {e : Expr} {pieces : List Expr} :
    (Expr.of (e :: pieces)).CallsAfter S q ↔
      e.CallsAfter S q ∧ (Expr.of pieces).CallsAfter S (e.after q) :=
  callsAfter_seq

theorem calls_of {pieces : List Expr} (h : ∀ e ∈ pieces, e.Calls S) :
    (Expr.of pieces).Calls S := by
  induction pieces with
  | nil => exact fun q => callsAfter_of_nil.mpr trivial
  | cons e pieces ih =>
      rw [List.forall_mem_cons] at h
      exact fun q => callsAfter_of_cons.mpr ⟨h.1 q, ih h.2 _⟩

theorem calls_separated {separator : String} {l : List Expr} (h : ∀ e ∈ l, e.Calls S) :
    (separated separator l).Calls S := by
  induction l with
  | nil => exact fun q => callsAfter_empty.mpr trivial
  | cons e l ih =>
      rw [List.forall_mem_cons] at h
      cases l with
      | nil => exact h.1
      | cons e' l =>
          exact fun q => callsAfter_seq.mpr ⟨h.1 q, callsAfter_seq.mpr
            ⟨callsAfter_plain.mpr trivial, ih h.2 _⟩⟩

@[simp]
theorem callsAfter_separated_map {α : Type} {separator : String} {l : List α}
    {f : α → Expr} (h : ∀ a ∈ l, ∀ q, (f a).CallsAfter S q) :
    (separated separator (l.map f)).CallsAfter S q :=
  calls_separated (List.forall_mem_map.mpr h) q

end Expr

namespace Code

/-- The calls in the code, in order. -/
def calls : Code → List Call
  | empty => []
  | seq a b => a.calls ++ b.calls
  | line e => e.calls .none
  | bind _ value => value.calls .none
  | block head _ body _ => head.calls .none ++ body.calls
  | branch condition first second => condition.calls .none ++ first.calls ++ second.calls

/-- Every call in the code is one of these. -/
def Calls (S : Call → Prop) (c : Code) : Prop := ∀ call ∈ c.calls, S call

@[simp]
theorem calls_empty : empty.Calls S ↔ True := iff_of_true (List.forall_mem_nil S) trivial

@[simp]
theorem calls_seq {a b : Code} : (seq a b).Calls S ↔ a.Calls S ∧ b.Calls S :=
  List.forall_mem_append

@[simp]
theorem calls_append {a b : Code} : (a ++ b).Calls S ↔ a.Calls S ∧ b.Calls S := calls_seq

@[simp]
theorem calls_line {e : Expr} : (line e).Calls S ↔ e.CallsAfter S .none := .rfl

@[simp]
theorem calls_bind {name : String} {value : Expr} :
    (bind name value).Calls S ↔ value.CallsAfter S .none := .rfl

@[simp]
theorem calls_block {head : Expr} {binds : List String} {body : Code} {close : String} :
    (block head binds body close).Calls S ↔ head.CallsAfter S .none ∧ body.Calls S :=
  List.forall_mem_append

@[simp]
theorem calls_branch {condition : Expr} {first second : Code} :
    (branch condition first second).Calls S ↔
      condition.CallsAfter S .none ∧ first.Calls S ∧ second.Calls S :=
  List.forall_mem_append.trans ((and_congr_left' List.forall_mem_append).trans and_assoc)

@[simp]
theorem calls_all_nil : (all []).Calls S ↔ True := calls_empty

@[simp]
theorem calls_all_cons {c : Code} {pieces : List Code} :
    (all (c :: pieces)).Calls S ↔ c.Calls S ∧ (all pieces).Calls S := calls_seq

theorem calls_all {pieces : List Code} :
    (all pieces).Calls S ↔ ∀ c ∈ pieces, c.Calls S := by
  induction pieces with
  | nil => simp
  | cons c pieces ih => rw [calls_all_cons, ih, List.forall_mem_cons]

@[simp]
theorem calls_all_map {α : Type} {l : List α} {f : α → Code} :
    (all (l.map f)).Calls S ↔ ∀ a ∈ l, (f a).Calls S := by
  rw [calls_all, List.forall_mem_map]

@[simp]
theorem calls_text {s : String} : (text s).Calls S ↔ True := Expr.callsAfter_plain

@[simp]
theorem calls_texts {l : List String} : (texts l).Calls S ↔ True := by simp [texts]

@[simp]
theorem calls_blank : blank.Calls S ↔ True := Expr.callsAfter_empty

@[simp]
theorem calls_orBlank {c : Option Code} :
    (orBlank c).Calls S ↔ ∀ code, c = some code → code.Calls S := by
  cases c with
  | none => simp [orBlank]
  | some c => simp [orBlank]

@[simp]
theorem calls_when {condition : Bool} {code : Code} :
    (when condition code).Calls S ↔ (condition = true → code.Calls S) := by
  cases condition with
  | false => simp [when]
  | true => simp [when]

@[simp]
theorem calls_braces {head : Expr} {body : Code} :
    (braces head body).Calls S ↔ head.CallsAfter S .none ∧ body.Calls S := by
  simp [braces]

@[simp]
theorem calls_forEach {pattern : Pattern} {subject : Expr} {body : Code} :
    (forEach pattern subject body).Calls S ↔
      subject.CallsAfter S .none ∧ body.Calls S := by
  simp [forEach]

@[simp]
theorem calls_ifSet {name receiver ident : String} {body : Code} :
    (ifSet name receiver ident body).Calls S ↔ body.Calls S := by
  simp [ifSet]

theorem calls_spaced {pieces : List Code} :
    (spaced pieces).Calls S ↔ ∀ c ∈ pieces, c.Calls S := by
  induction pieces with
  | nil => simp [spaced]
  | cons c pieces ih =>
      cases pieces with
      | nil => simp [spaced]
      | cons c' pieces =>
          show (seq c (seq blank (spaced (c' :: pieces)))).Calls S ↔ _
          rw [calls_seq, calls_seq, calls_blank, true_and, ih]
          exact List.forall_mem_cons.symm

end Code

end Clientwright
