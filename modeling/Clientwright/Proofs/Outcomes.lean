import Clientwright.Trace
import Mathlib.Data.List.Forall2

/-!
# What may come of a computation

Everything that can fail answers with a value or an error, and everything that
is written on the way is an event before that answer. This file has the two
ways in which the other files speak of such answers.

Inversion takes an answer apart: a composition succeeded exactly if its first
part did and the rest did with its value, and a list of computations succeeded
exactly if each of them did. These are equivalences, so a checker can be read
off as the conjunction of what it checks.

`Meets` goes the other way and puts answers together. It says at once what
holds of the value and what holds of the error, and it passes through a
composition without either being known. An emitter walks over a service in
dozens of small functions, all of them compositions, and each gets one such
statement about itself instead of one for its code and one for its faults.
-/

namespace Clientwright

namespace Outcome

variable {ε α β : Type}

/-! ## Taking answers apart -/

theorem bind_eq_ok {x : Except ε α} {f : α → Except ε β} {b : β} :
    (x >>= f) = .ok b ↔ ∃ a, x = .ok a ∧ f a = .ok b := by
  cases x with
  | ok a => simp [Bind.bind, Except.bind]
  | error e => simp [Bind.bind, Except.bind]

theorem map_eq_ok {x : Except ε α} {f : α → β} {b : β} :
    x.map f = .ok b ↔ ∃ a, x = .ok a ∧ f a = b := by
  cases x with
  | ok a => simp [Except.map]
  | error e => simp [Except.map]

theorem pure_eq_ok {a b : α} : (pure a : Except ε α) = .ok b ↔ a = b := by
  simp [pure, Except.pure]

theorem mapError_eq_ok {x : Except ε α} {f : ε → β} {a : α} :
    x.mapError f = .ok a ↔ x = .ok a := by
  cases x with
  | ok a => simp [Except.mapError]
  | error e => simp [Except.mapError]

/-- A list of computations succeeds with the list of their values. -/
theorem mapM_eq_ok {f : α → Except ε β} {l : List α} {r : List β} :
    l.mapM f = .ok r ↔ List.Forall₂ (fun a b => f a = .ok b) l r := by
  induction l generalizing r with
  | nil =>
      rw [List.mapM_nil, pure_eq_ok, List.forall₂_nil_left_iff]
      exact eq_comm
  | cons a l ih =>
      rw [List.mapM_cons, bind_eq_ok, List.forall₂_cons_left_iff]
      constructor
      · rintro ⟨b, hb, h⟩
        obtain ⟨r', hr', h⟩ := bind_eq_ok.mp h
        exact ⟨b, r', hb, ih.mp hr', (pure_eq_ok.mp h).symm⟩
      · rintro ⟨b, r', hb, hr', rfl⟩
        exact ⟨b, hb, bind_eq_ok.mpr ⟨r', ih.mpr hr', rfl⟩⟩

/-- Each computation of the list has its value among the values. -/
theorem exists_right_of_forall₂ {R : α → β → Prop} {l : List α} {r : List β}
    (h : List.Forall₂ R l r) {a : α} (ha : a ∈ l) : ∃ b ∈ r, R a b := by
  induction h with
  | nil => cases ha
  | cons hab _ ih =>
      rcases List.mem_cons.mp ha with rfl | ha
      · exact ⟨_, List.mem_cons_self, hab⟩
      · obtain ⟨b, hb, hr⟩ := ih ha
        exact ⟨b, List.mem_cons_of_mem _ hb, hr⟩

/-- And each value comes from one of the computations. -/
theorem exists_left_of_forall₂ {R : α → β → Prop} {l : List α} {r : List β}
    (h : List.Forall₂ R l r) {b : β} (hb : b ∈ r) : ∃ a ∈ l, R a b :=
  exists_right_of_forall₂ h.flip hb

/-- Where each item is related to something, the list is related to a list. -/
theorem exists_forall₂ {R : α → β → Prop} {l : List α}
    (h : ∀ a ∈ l, ∃ b, R a b) : ∃ r, List.Forall₂ R l r := by
  induction l with
  | nil => exact ⟨[], .nil⟩
  | cons a l ih =>
      obtain ⟨b, hb⟩ := h a List.mem_cons_self
      obtain ⟨r, hr⟩ := ih fun a ha => h a (List.mem_cons_of_mem _ ha)
      exact ⟨b :: r, .cons hb hr⟩

/-- What each related pair has in common makes a list. -/
theorem exists_forall₂_between {γ : Type} {R : α → β → Prop} {P : α → γ → Prop}
    {Q : β → γ → Prop} {l : List α} {r : List β} (h : List.Forall₂ R l r)
    (hmid : ∀ a b, R a b → ∃ c, P a c ∧ Q b c) :
    ∃ mid, List.Forall₂ P l mid ∧ List.Forall₂ Q r mid := by
  induction h with
  | nil => exact ⟨[], .nil, .nil⟩
  | cons hab _ ih =>
      obtain ⟨c, hp, hq⟩ := hmid _ _ hab
      obtain ⟨mid, hps, hqs⟩ := ih
      exact ⟨c :: mid, .cons hp hps, .cons hq hqs⟩

/-- The error, if the computation has no value. -/
def fault? : Except ε α → Option ε
  | .ok _ => none
  | .error e => some e

theorem fault?_eq_some {x : Except ε α} {e : ε} : fault? x = some e ↔ x = .error e := by
  cases x with
  | ok a => exact ⟨nofun, nofun⟩
  | error e => simp [fault?]

/-- A composition has the error of its first part, or else that of its rest. -/
theorem fault?_bind {x : Except ε α} {f : α → Except ε β} {rest : Option ε}
    (h : ∀ a, fault? (f a) = rest) : fault? (x >>= f) = (fault? x).or rest := by
  cases x with
  | ok a => exact h a
  | error e => rfl

theorem fault?_bind_pure {x : Except ε α} {f : α → β} :
    fault? (x >>= fun a => pure (f a)) = fault? x := by
  cases x with
  | ok a => rfl
  | error e => rfl

/-- A list of computations has the first error among theirs. -/
theorem fault?_mapM {f : α → Except ε β} {l : List α} :
    fault? (l.mapM f) = l.findSome? fun a => fault? (f a) := by
  induction l with
  | nil => rfl
  | cons a l ih =>
      rw [List.mapM_cons, fault?_bind fun b => fault?_bind_pure, ih, List.findSome?_cons]
      cases fault? (f a) with
      | none => rfl
      | some e => rfl

theorem mapM_option_eq_ok {f : α → Except ε β} {o : Option α} {r : Option β} :
    o.mapM f = .ok r ↔ Option.Rel (fun a b => f a = .ok b) o r := by
  cases o with
  | none =>
      refine pure_eq_ok.trans ⟨?_, ?_⟩
      · rintro rfl
        exact .none
      · rintro ⟨⟩
        rfl
  | some a =>
      refine map_eq_ok.trans ⟨?_, ?_⟩
      · rintro ⟨b, hb, rfl⟩
        exact .some hb
      · rintro ⟨⟩
        exact ⟨_, by assumption, rfl⟩

theorem fault?_mapM_option {f : α → Except ε β} {o : Option α} :
    fault? (o.mapM f) = o.toList.findSome? fun a => fault? (f a) := by
  cases o with
  | none => rfl
  | some a =>
      show fault? ((f a).map some) = _
      cases h : f a with
      | ok b => simp [h, Except.map, fault?]
      | error e => simp [h, Except.map, fault?]

theorem toOption_eq_some {x : Except ε α} {a : α} : x.toOption = some a ↔ x = .ok a := by
  cases x with
  | ok found => exact ⟨fun h => congrArg _ (Option.some.inj h), congrArg _⟩
  | error fault => exact ⟨nofun, nofun⟩

/-- The computation has a value. -/
def Succeeds (x : Except ε α) : Prop := ∃ a, x = .ok a

theorem map_eq_error {x : Except ε α} {f : α → β} {e : ε} :
    x.map f = .error e ↔ x = .error e := by
  cases x with
  | ok a => exact ⟨nofun, nofun⟩
  | error e => simp [Except.map]

theorem fault?_eq_none {x : Except ε α} : fault? x = none ↔ Succeeds x := by
  cases x with
  | ok a => exact ⟨fun _ => ⟨a, rfl⟩, fun _ => rfl⟩
  | error e => exact ⟨nofun, nofun⟩

theorem succeeds_ok (a : α) : Succeeds (.ok a : Except ε α) := ⟨a, rfl⟩

theorem not_succeeds_error (e : ε) : ¬ Succeeds (.error e : Except ε α) := by
  rintro ⟨a, h⟩
  cases h

theorem succeeds_bind {x : Except ε α} {f : α → Except ε β} :
    Succeeds (x >>= f) ↔ ∃ a, x = .ok a ∧ Succeeds (f a) := by
  constructor
  · rintro ⟨b, h⟩
    obtain ⟨a, ha, hb⟩ := bind_eq_ok.mp h
    exact ⟨a, ha, b, hb⟩
  · rintro ⟨a, ha, b, hb⟩
    exact ⟨b, bind_eq_ok.mpr ⟨a, ha, hb⟩⟩

theorem succeeds_bind_pure {x : Except ε α} {f : α → β} :
    Succeeds (x >>= fun a => pure (f a)) ↔ Succeeds x := by
  rw [succeeds_bind]
  exact exists_congr fun a => and_iff_left (succeeds_ok (f a))

theorem succeeds_map {x : Except ε α} {f : α → β} :
    Succeeds (x.map f) ↔ Succeeds x := by
  constructor
  · rintro ⟨b, h⟩
    obtain ⟨a, ha, -⟩ := map_eq_ok.mp h
    exact ⟨a, ha⟩
  · rintro ⟨a, ha⟩
    exact ⟨f a, map_eq_ok.mpr ⟨a, ha, rfl⟩⟩

theorem succeeds_mapM {f : α → Except ε β} {l : List α} :
    Succeeds (l.mapM f) ↔ ∀ a ∈ l, Succeeds (f a) := by
  induction l with
  | nil => exact ⟨fun _ _ h => absurd h List.not_mem_nil, fun _ => ⟨[], rfl⟩⟩
  | cons a l ih =>
      rw [List.mapM_cons, succeeds_bind, List.forall_mem_cons]
      constructor
      · rintro ⟨b, hb, h⟩
        obtain ⟨r, hr, -⟩ := succeeds_bind.mp h
        exact ⟨⟨b, hb⟩, ih.mp ⟨r, hr⟩⟩
      · rintro ⟨⟨b, hb⟩, h⟩
        obtain ⟨r, hr⟩ := ih.mpr h
        exact ⟨b, hb, succeeds_bind.mpr ⟨r, hr, succeeds_ok _⟩⟩

/-- A list of computations fails with the error of the first of them that fails. -/
theorem mapM_eq_error {f : α → Except ε β} {l : List α} {e : ε} :
    l.mapM f = .error e ↔ ∃ before a after, l = before ++ a :: after ∧
      (∀ other ∈ before, Succeeds (f other)) ∧ f a = .error e := by
  rw [← fault?_eq_some, fault?_mapM, List.findSome?_eq_some_iff]
  simp only [fault?_eq_some, fault?_eq_none]
  constructor
  · rintro ⟨before, a, after, hl, ha, hbefore⟩
    exact ⟨before, a, after, hl, hbefore, ha⟩
  · rintro ⟨before, a, after, hl, hbefore, ha⟩
    exact ⟨before, a, after, hl, ha, hbefore⟩

/-! ## Putting answers together -/

/-- The value is one of these, or the error is one of those. -/
def Meets (Q : α → Prop) (E : ε → Prop) : Except ε α → Prop
  | .ok a => Q a
  | .error e => E e

variable {Q R : α → Prop} {S : β → Prop} {E : ε → Prop} {x : Except ε α}

theorem meets_ok {a : α} (h : Q a) : Meets Q E (.ok a) := h

theorem meets_error {e : ε} (h : E e) : Meets Q E (.error e : Except ε α) := h

theorem meets_pure {a : α} (h : Q a) : Meets Q E (pure a : Except ε α) := h

/-- If there is a value it is one of these, and the error may be any. -/
abbrev Yields (Q : α → Prop) (x : Except ε α) : Prop := Meets Q (fun _ => True) x

theorem meets_mono (h : Meets Q E x) (hQ : ∀ a, Q a → R a) : Meets R E x := by
  cases x with
  | ok a => exact hQ a h
  | error e => exact h

/-- What the value of the first part satisfies may be used for the rest. -/
theorem meets_bind {f : α → Except ε β} (hx : Meets Q E x)
    (hf : ∀ a, Q a → Meets S E (f a)) : Meets S E (x >>= f) := by
  cases x with
  | ok a => exact hf a hx
  | error e => exact hx

/-- What holds whatever the value of the first part is. -/
theorem yields_bind {f : α → Except ε β} (h : ∀ a, Yields S (f a)) : Yields S (x >>= f) := by
  cases x with
  | ok a => exact h a
  | error e => trivial

theorem meets_map {f : α → β} (hx : Meets Q E x) (hf : ∀ a, Q a → S (f a)) :
    Meets S E (x.map f) := by
  cases x with
  | ok a => exact hf a hx
  | error e => exact hx

theorem meets_mapError {f : ε → β} (hx : Meets Q E x) :
    Meets Q (fun e' => ∃ e, E e ∧ f e = e') (x.mapError f) := by
  cases x with
  | ok a => exact hx
  | error e => exact ⟨e, hx, rfl⟩

theorem meets_mapM {f : α → Except ε β} {l : List α}
    (h : ∀ a ∈ l, Meets S E (f a)) : Meets (fun r => ∀ b ∈ r, S b) E (l.mapM f) := by
  induction l with
  | nil =>
      rw [List.mapM_nil]
      exact meets_pure nofun
  | cons a l ih =>
      rw [List.mapM_cons]
      refine meets_bind (h a List.mem_cons_self) fun b hb => ?_
      refine meets_bind (ih fun a ha => h a (List.mem_cons_of_mem _ ha)) fun r hr => ?_
      exact meets_pure (List.forall_mem_cons.mpr ⟨hb, hr⟩)

theorem meets_mapM_option {f : α → Except ε β} {o : Option α}
    (h : ∀ a, o = some a → Meets S E (f a)) :
    Meets (fun r => ∀ b, r = some b → S b) E (o.mapM f) := by
  cases o with
  | none => exact meets_pure nofun
  | some a =>
      refine meets_map (f := some) (h a rfl) fun b hb c hc => ?_
      exact Option.some.inj hc ▸ hb

/-- If there is a value it is one of these. -/
theorem Meets.value {a : α} (h : Meets Q E x) (hx : x = .ok a) : Q a := by
  rw [hx] at h
  exact h

/-- If there is an error it is one of those. -/
theorem Meets.fault {e : ε} (h : Meets Q E x) (hx : x = .error e) : E e := by
  rw [hx] at h
  exact h

end Outcome

end Clientwright
