import Clientwright.Proofs.Fitting

/-!
# What code for values depends on

The code that writes a value and the code that reads it are emitted by walks of
their own over the unfolded value, with a format of timestamps carried along.
To say that they agree one needs what both of them depend on, and it is little:
what shape a name stands for, which format is in force where it is used, and
that the unfolding did not stop halfway.

The formats are said here of names of shapes, as the documents say them. The
emitters ask the unfolded value instead, which knows no more than its own shape,
so both come to the same. The unfolding stops where a list or map would be
inside itself, and `GuardedFrom` says of one shape that it does not get there.

Code is told apart by its pieces. Two rows of pieces are equal only piece by
piece, which `simp` does with the rules at the end.
-/

namespace Clientwright

open Relation Outcome

namespace Service

variable {s : Service} {available : List String} {k n : String}

/-! ## Guarded shapes -/

/-- Nothing that the shape holds, itself included, is a list or map inside
itself. -/
def GuardedFrom (s : Service) (k : String) : Prop :=
  ∀ n, ReflTransGen s.Holds k n → ¬ TransGen s.Holds n n

theorem Guarded.guardedFrom (h : s.Guarded) (k : String) : s.GuardedFrom k :=
  fun n _ => h n

theorem GuardedFrom.held (h : s.GuardedFrom k) (hn : s.Holds k n) : s.GuardedFrom n :=
  fun m hm => h m (.head hn hm)

/-- So the unfolding never meets a name again that it has used up. -/
theorem GuardedFrom.mem_available (h : s.GuardedFrom k) (hspent : s.Spent available k)
    (hk : ∃ shape, s.shape? k = some shape) : k ∈ available := by
  by_contra hmem
  exact h k .refl (hspent k (Table.mem_keys_iff.mpr hk) hmem)

/-- Holding cannot go in a circle if it goes down in some order. -/
theorem guarded_of_rank (rank : String → Nat)
    (h : ∀ k n, s.Holds k n → rank n < rank k) : s.Guarded := by
  have hpath : ∀ k n, TransGen s.Holds k n → rank n < rank k := by
    intro k n hn
    induction hn with
    | single hstep => exact h _ _ hstep
    | tail _ hstep ih => exact Nat.lt_trans (h _ _ hstep) ih
  exact fun n hn => Nat.lt_irrefl _ (hpath n n hn)

/-! ## Formats of timestamps -/

/-- The format that the shape of a name asks for. -/
def formatOf? (s : Service) (n : String) : Option TimestampFormat :=
  match s.shape? n with
  | some (.scalar t) => t.timestampFormat
  | _ => none

/-- The format for what a list or map holds: the one of its shape, or else the
one of the protocol. -/
def heldFormat (s : Service) (n : String) : TimestampFormat :=
  (s.formatOf? n).getD s.metadata.protocol.bodyTimestampFormat

/-- The format for a member: its own, or the one of its shape, or the one of its
place in the message, or else the one of the protocol. -/
def memberFormat (s : Service) (m : Member) : TimestampFormat :=
  match m.timestampFormat, s.formatOf? m.shape, m.location.timestampFormat? with
  | some format, _, _ => format
  | none, some format, _ => format
  | none, none, some format => format
  | none, none, none => s.metadata.protocol.bodyTimestampFormat

theorem timestampFormat?_valueWithin :
    (s.valueWithin available n).timestampFormat? = s.formatOf? n := by
  rw [valueWithin, formatOf?]
  cases s.shape? n with
  | none => rfl
  | some shape =>
      cases shape with
      | «structure» t => rfl
      | scalar t => rfl
      | list l =>
          show (if n ∈ available then _ else _ : ValueShape).timestampFormat? = none
          split <;> rfl
      | map m =>
          show (if n ∈ available then _ else _ : ValueShape).timestampFormat? = none
          split <;> rfl

end Service

namespace Blueprint

theorem bodyFormat_valueWithin (b : Blueprint) (available : List String) (n : String) :
    b.bodyFormat (b.service.valueWithin available n) = b.service.heldFormat n := by
  rw [bodyFormat, Service.timestampFormat?_valueWithin]
  rfl

theorem memberFormat_eq (b : Blueprint) (m : Member) :
    b.memberFormat m = b.service.memberFormat m := by
  have hshape : (b.value m.shape).timestampFormat? = b.service.formatOf? m.shape :=
    Service.timestampFormat?_valueWithin
  rw [memberFormat, Service.memberFormat, hshape]
  cases m.timestampFormat with
  | some format => rfl
  | none =>
      cases b.service.formatOf? m.shape with
      | some format => rfl
      | none =>
          cases m.location.timestampFormat? with
          | some format => rfl
          | none => rfl

end Blueprint

/-! ## Names of structures -/

/-- The structures in the value carry the names by which they were referred to. -/
def ValueShape.Named (v : ValueShape) : Prop :=
  ∀ k t, (k, .structure t) ∈ v.leaves → t.name = k

theorem ValueShape.Named.values {k : String} {m : MapShape} {keys values : ValueShape}
    (h : (ValueShape.map k m keys values).Named) : values.Named :=
  fun n t hmem => h n t (List.mem_append_right _ hmem)

theorem Blueprint.named_value {b : Blueprint} (hs : b.service.Closed) (k : String) :
    (b.value k).Named := by
  intro n t hmem
  exact hs.named (Service.mem_leaves_value_iff.mp hmem).2.1

/-! ## Names of variables -/

/-- The variables of two roles differ if the roles do in their first letters. -/
theorem localName_ne {role role' : String} {depth depth' : Nat} (c c' : Char)
    {l l' : List Char} (hrole : role.toList = c :: l) (hrole' : role'.toList = c' :: l')
    (hne : c ≠ c') : localName role depth ≠ localName role' depth' := by
  intro h
  have hchars := congrArg String.toList h
  rw [localName, localName, String.toList_append, String.toList_append, hrole, hrole'] at hchars
  exact hne (List.cons.inj hchars).1

theorem localName_key_ne_item {depth : Nat} : localName "key" depth ≠ localName "item" depth :=
  localName_ne 'k' 'i' rfl rfl (by decide)

theorem localName_key_ne_parsed {depth : Nat} : localName "key" depth ≠ "parsed" := by
  intro h
  have hchars := congrArg (List.head? ∘ String.toList) h
  rw [localName, Function.comp_apply, String.toList_append] at hchars
  exact absurd (Option.some.inj hchars) (by decide)

/-! ## Pieces of code -/

namespace Expr

@[simp]
theorem of_nil_ne_of_cons {e : Expr} {l : List Expr} : Expr.of [] ≠ Expr.of (e :: l) := nofun

@[simp]
theorem of_cons_ne_of_nil {e : Expr} {l : List Expr} : Expr.of (e :: l) ≠ Expr.of [] := nofun

@[simp]
theorem of_cons_eq_of_cons {e e' : Expr} {l l' : List Expr} :
    Expr.of (e :: l) = Expr.of (e' :: l') ↔ e = e' ∧ Expr.of l = Expr.of l' := by
  show Expr.seq e (Expr.of l) = Expr.seq e' (Expr.of l') ↔ _
  rw [Expr.seq.injEq]

end Expr

end Clientwright
