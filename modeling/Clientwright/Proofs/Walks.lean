import Clientwright.Blueprint.Walk
import Mathlib.Logic.Relation

/-!
# A walk finds exactly what can be reached

A walk passes over an item whose mark it has met, and what could be found behind
that item is then found somewhere else or not at all. Soundness never notices:
every item the walk gives was waiting, or is led to by one that it gave before.

Completeness is the part with an argument in it. The walk is not complete for a
given stack of waiting items, since some of them were met long ago and their
finds were given long ago too. What holds at every moment is closure up to
marks: whatever waits, and whatever a found item leads to, is met already or
found from here on. At the start nothing is met, so the found items are closed,
and a closed collection that holds the start holds all that can be reached.

Marks come back into items at the end only. Two items of one mark are the same
to a walk, so it is exact where the mark of a reachable item tells which item it
is.
-/

namespace Clientwright

namespace Walk

open Relation

variable {α : Type} {w : Walk α} {met : List String} {waiting start : List α} {a b : α}

/-- One item leads to another. -/
def Next (w : Walk α) (a b : α) : Prop := b ∈ w.next a

/-- An item can be reached from one of the given ones. -/
def Reaches (w : Walk α) (start : List α) (a : α) : Prop :=
  ∃ b ∈ start, ReflTransGen w.Next b a

/-- Whatever a walk finds can be reached from what waits. -/
theorem reaches_of_mem_reachFrom (h : a ∈ w.reachFrom met waiting) :
    w.Reaches waiting a := by
  fun_induction reachFrom w met waiting with
  | case1 met => cases h
  | case2 met c waiting _ ih =>
      rcases List.mem_cons.mp h with rfl | h
      · exact ⟨a, List.mem_cons_self, .refl⟩
      · obtain ⟨b, hb, hpath⟩ := ih h
        rcases List.mem_append.mp hb with hb | hb
        · exact ⟨c, List.mem_cons_self, .head hb hpath⟩
        · exact ⟨b, List.mem_cons_of_mem _ hb, hpath⟩
  | case3 met c waiting _ ih =>
      obtain ⟨b, hb, hpath⟩ := ih h
      exact ⟨b, List.mem_cons_of_mem _ hb, hpath⟩

/-- The item has been met, or one of its mark is among the found. -/
def Settled (w : Walk α) (met : List String) (found : List α) (a : α) : Prop :=
  w.mark a ∈ met ∨ ∃ b ∈ found, w.mark b = w.mark a

/-- An item that is met counts as one that is found. -/
theorem settled_cons {found : List α} {c : α}
    (h : w.Settled (w.mark c :: met) found a) : w.Settled met (c :: found) a := by
  rcases h with h | ⟨b, hb, hmark⟩
  · rcases List.mem_cons.mp h with h | h
    · exact .inr ⟨c, List.mem_cons_self, h.symm⟩
    · exact .inl h
  · exact .inr ⟨b, List.mem_cons_of_mem _ hb, hmark⟩

/-- The invariant of the walk. What waits is settled, and so is what any found
item leads to. -/
theorem settled_reachFrom (w : Walk α) (met : List String) (waiting : List α) {a : α}
    (hmark : w.mark a ∈ w.marks)
    (h : a ∈ waiting ∨ ∃ b ∈ w.reachFrom met waiting, a ∈ w.next b) :
    w.Settled met (w.reachFrom met waiting) a := by
  fun_induction reachFrom w met waiting with
  | case1 met =>
      rcases h with h | ⟨b, hb, -⟩
      · cases h
      · cases hb
  | case2 met c waiting _ ih =>
      by_cases hac : w.mark c = w.mark a
      · exact .inr ⟨c, List.mem_cons_self, hac⟩
      · refine settled_cons (ih ?_)
        rcases h with h | ⟨b, hb, hab⟩
        · rcases List.mem_cons.mp h with rfl | h
          · exact absurd rfl hac
          · exact .inl (List.mem_append_right _ h)
        · -- The item that has just been found puts all it leads to among those
          -- that wait, so both halves of the invariant meet here.
          rcases List.mem_cons.mp hb with rfl | hb
          · exact .inl (List.mem_append_left _ hab)
          · exact .inr ⟨b, hb, hab⟩
  | case3 met c waiting hpassed ih =>
      rcases h with h | h
      · rcases List.mem_cons.mp h with rfl | h
        · have hmet : w.mark a ∈ met :=
            Decidable.of_not_not fun hfresh => hpassed ⟨hmark, hfresh⟩
          exact .inl hmet
        · exact ih (.inl h)
      · exact ih (.inr h)

/-- A walk from the given items finds exactly the items that can be reached from
them, if each of these has a mark that counts and that tells it apart. -/
theorem mem_reach_iff (hmarked : ∀ a, w.Reaches start a → w.mark a ∈ w.marks)
    (hapart : ∀ a b, w.Reaches start a → w.Reaches start b →
      w.mark a = w.mark b → a = b) :
    a ∈ w.reach start ↔ w.Reaches start a := by
  refine ⟨reaches_of_mem_reachFrom, ?_⟩
  have hfound : ∀ a, w.Reaches start a →
      (a ∈ start ∨ ∃ b ∈ w.reach start, a ∈ w.next b) → a ∈ w.reach start := by
    intro a ha hsettled
    have h := settled_reachFrom w [] start (hmarked a ha) hsettled
    obtain ⟨b, hb, hmark⟩ := h.resolve_left List.not_mem_nil
    have hab := hapart b a (reaches_of_mem_reachFrom hb) ha hmark
    exact hab ▸ hb
  rintro ⟨b, hb, hpath⟩
  induction hpath with
  | refl => exact hfound b ⟨b, hb, .refl⟩ (.inl hb)
  | tail hpath hnext ih =>
      exact hfound _ ⟨b, hb, hpath.tail hnext⟩ (.inr ⟨_, ih, hnext⟩)

/-! ## In whatever order

The walk takes up what waits from the front. Nothing depends on it: the items
may be taken up in any order, and the walk ends all the same and has met the
same marks. An end is not for granted, since items wait as often as something
leads to them, and it is the marks that pay for it. There are finitely many,
and a turn that meets none leaves fewer items waiting. -/

/-- A moment of a walk: what waits, and the marks that have been met. -/
structure Moment (α : Type) where
  waiting : List α
  met : List String

/-- One turn takes up any of the items that wait. It is passed over if its mark
has been met, and otherwise all it leads to waits from then on. -/
inductive Turn (w : Walk α) : Moment α → Moment α → Prop where
  | pass {p q : Moment α} {a : α} (ha : p.waiting.Perm (a :: q.waiting))
      (hmet : w.mark a ∈ p.met) (hq : q.met = p.met) : w.Turn p q
  | meet {p q : Moment α} {a : α} {rest : List α} (ha : p.waiting.Perm (a :: rest))
      (hmet : w.mark a ∉ p.met) (hwaiting : q.waiting.Perm (w.next a ++ rest))
      (hq : q.met = w.mark a :: p.met) : w.Turn p q

/-- Everything that waits leads only to items whose mark counts. -/
def Moment.Marked (w : Walk α) (p : Moment α) : Prop :=
  ∀ a, w.Reaches p.waiting a → w.mark a ∈ w.marks

theorem Reaches.of_mem (h : a ∈ start) : w.Reaches start a := ⟨a, h, .refl⟩

theorem Reaches.next (h : w.Reaches start a) (hb : b ∈ w.next a) : w.Reaches start b := by
  obtain ⟨c, hc, hpath⟩ := h
  exact ⟨c, hc, hpath.tail hb⟩

theorem Reaches.of_forall {l : List α} (h : w.Reaches l a)
    (hl : ∀ b ∈ l, w.Reaches start b) : w.Reaches start a := by
  obtain ⟨b, hb, hpath⟩ := h
  obtain ⟨c, hc, hfirst⟩ := hl b hb
  exact ⟨c, hc, hfirst.trans hpath⟩

/-- A turn adds nothing to what can be reached. -/
theorem Turn.reaches {p q : Moment α} (h : w.Turn p q) (hb : w.Reaches q.waiting b) :
    w.Reaches p.waiting b := by
  refine hb.of_forall fun c hc => ?_
  cases h with
  | pass ha => exact .of_mem (ha.mem_iff.mpr (List.mem_cons_of_mem _ hc))
  | @meet a rest ha _ hwaiting =>
      have hmem : a ∈ p.waiting := ha.mem_iff.mpr List.mem_cons_self
      rcases List.mem_append.mp (hwaiting.mem_iff.mp hc) with hc | hc
      · exact (Reaches.of_mem hmem).next hc
      · exact .of_mem (ha.mem_iff.mpr (List.mem_cons_of_mem _ hc))

theorem Turn.marked {p q : Moment α} (h : w.Turn p q) (hp : p.Marked w) : q.Marked w :=
  fun a ha => hp a (h.reaches ha)

/-- Each turn meets a mark that was not met, or leaves fewer items waiting. -/
theorem Turn.decreases {p q : Moment α} (h : w.Turn p q) (hp : p.Marked w) :
    (w.unmet q.met).length < (w.unmet p.met).length ∨
      q.met = p.met ∧ q.waiting.length < p.waiting.length := by
  cases h with
  | pass ha _ hq =>
      have hlength := ha.length_eq
      rw [List.length_cons] at hlength
      exact .inr ⟨hq, by omega⟩
  | @meet a rest ha hmet _ hq =>
      have hmem : a ∈ p.waiting := ha.mem_iff.mpr List.mem_cons_self
      rw [hq]
      exact .inl (w.length_unmet_cons_lt p.met (hp a (.of_mem hmem)) hmet)

/-- However the items are taken up, the walk comes to an end. -/
theorem turn_ends {p : Moment α} (hp : p.Marked w) : Acc (fun q p => w.Turn p q) p := by
  generalize hu : (w.unmet p.met).length = u
  generalize hn : p.waiting.length = n
  induction u using Nat.strongRecOn generalizing n p with
  | _ u ihmet =>
    induction n using Nat.strongRecOn generalizing p with
    | _ n ihwaiting =>
      refine ⟨p, fun q h => ?_⟩
      have hq : q.Marked w := h.marked hp
      rcases h.decreases hp with hless | ⟨hsame, hless⟩
      · exact ihmet _ (hu ▸ hless) hq rfl _ rfl
      · exact ihwaiting _ (hn ▸ hless) hq (hsame ▸ hu) rfl

/-- What holds at every moment of a walk: all there is can be reached, and what
the start and the met items lead to is met or still waits. -/
structure Moment.Sound (w : Walk α) (start : List α) (p : Moment α) : Prop where
  waiting : ∀ a ∈ p.waiting, w.Reaches start a
  met : ∀ n ∈ p.met, ∃ a, w.Reaches start a ∧ w.mark a = n
  started : ∀ a ∈ start, a ∈ p.waiting ∨ w.mark a ∈ p.met
  closed : ∀ a, w.Reaches start a → w.mark a ∈ p.met →
    ∀ b ∈ w.next a, b ∈ p.waiting ∨ w.mark b ∈ p.met

theorem sound_start (w : Walk α) (start : List α) : Moment.Sound w start ⟨start, []⟩ :=
  ⟨fun _ ha => .of_mem ha, nofun, fun _ ha => .inl ha, nofun⟩

/-- What waited is met after the turn, or it still waits. -/
theorem Turn.keeps {p q : Moment α} (h : w.Turn p q)
    (ha : a ∈ p.waiting ∨ w.mark a ∈ p.met) : a ∈ q.waiting ∨ w.mark a ∈ q.met := by
  cases h with
  | @pass c hc hmet hq =>
      rw [hq]
      rcases ha with ha | ha
      · rcases List.mem_cons.mp (hc.mem_iff.mp ha) with rfl | ha
        · exact .inr hmet
        · exact .inl ha
      · exact .inr ha
  | @meet c rest hc _ hwaiting hq =>
      rw [hq]
      rcases ha with ha | ha
      · rcases List.mem_cons.mp (hc.mem_iff.mp ha) with rfl | ha
        · exact .inr List.mem_cons_self
        · exact .inl (hwaiting.mem_iff.mpr (List.mem_append_right _ ha))
      · exact .inr (List.mem_cons_of_mem _ ha)

theorem Turn.sound {p q : Moment α} (h : w.Turn p q)
    (hapart : ∀ a b, w.Reaches start a → w.Reaches start b → w.mark a = w.mark b → a = b)
    (hp : p.Sound w start) : q.Sound w start := by
  refine ⟨fun a ha => (h.reaches (.of_mem ha)).of_forall hp.waiting, ?_,
    fun a ha => h.keeps (hp.started a ha), ?_⟩
  · intro n hn
    cases h with
    | pass _ _ hq => exact hp.met n (hq ▸ hn)
    | @meet c rest hc _ _ hq =>
        rw [hq] at hn
        rcases List.mem_cons.mp hn with rfl | hn
        · exact ⟨c, hp.waiting c (hc.mem_iff.mpr List.mem_cons_self), rfl⟩
        · exact hp.met n hn
  · intro a hreached ha b hb
    by_cases hold : w.mark a ∈ p.met
    · exact h.keeps (hp.closed a hreached hold b hb)
    · -- The item has just been met, so all it leads to has just begun to wait.
      cases h with
      | pass _ _ hq => exact absurd (hq ▸ ha) hold
      | @meet c rest hc _ hwaiting hq =>
          rw [hq] at ha
          have hmark : w.mark a = w.mark c := (List.mem_cons.mp ha).resolve_right hold
          have hcreached := hp.waiting c (hc.mem_iff.mpr List.mem_cons_self)
          obtain rfl : a = c := hapart a c hreached hcreached hmark
          exact .inl (hwaiting.mem_iff.mpr (List.mem_append_left _ hb))

theorem sound_of_turns {p q : Moment α} (h : ReflTransGen w.Turn p q)
    (hapart : ∀ a b, w.Reaches start a → w.Reaches start b → w.mark a = w.mark b → a = b)
    (hp : p.Sound w start) : q.Sound w start := by
  induction h with
  | refl => exact hp
  | tail _ hturn ih => exact hturn.sound hapart ih

/-- When nothing waits any longer, the walk has met what can be reached. -/
theorem mem_met_iff {q : Moment α} {n : String}
    (hapart : ∀ a b, w.Reaches start a → w.Reaches start b → w.mark a = w.mark b → a = b)
    (h : ReflTransGen w.Turn ⟨start, []⟩ q) (hend : q.waiting = []) :
    n ∈ q.met ↔ ∃ a, w.Reaches start a ∧ w.mark a = n := by
  have hq := sound_of_turns h hapart (sound_start w start)
  have hnone : ∀ a, ¬ a ∈ q.waiting := fun a ha => by
    rw [hend] at ha
    cases ha
  refine ⟨hq.met n, ?_⟩
  rintro ⟨a, ⟨b, hb, hpath⟩, rfl⟩
  induction hpath with
  | refl => exact (hq.started b hb).resolve_left (hnone b)
  | @tail c a hpath hnext ih => exact (hq.closed c ⟨b, hb, hpath⟩ ih a hnext).resolve_left (hnone a)

end Walk

end Clientwright
