import Clientwright.Proofs.ModuleNames
import Mathlib.Data.Set.Finite.Basic
import Mathlib.Logic.Relation

/-!
# The search for a free name

A name that is taken gets a number behind it, and the number goes up as long as
the name is still taken. Said like this the search has no bound, and `unique`,
which looks at finitely many candidates, is another way to say it. `Turn` is one
turn of the search without a bound. No taken name is met twice on the way, since
no two candidates are alike, so the search ends from wherever it stands, and where
it ends is the name that `unique` gives.

The names of a list are searched for one after the other, and each search has to
keep away from all that was found before, numbers included. A name with a number
may be the name that a later one wants for itself; then it is the later one that
goes on searching. `Searched` follows such a course, and there is one course only.
-/

namespace Clientwright.Naming

open Relation

variable {used : List String} {base : String} {m n : Nat}

/-- One turn of the search: a candidate that is taken gives way to the next one. -/
inductive Turn (used : List String) (base : String) : Nat → Nat → Prop where
  | taken {n : Nat} (h : candidate base n ∈ used) : Turn used base n (n + 1)

/-! ## The search ends -/

/-- Only finitely many candidates can be taken. -/
theorem exists_last_taken (used : List String) (base : String) :
    ∃ last, ∀ n, candidate base n ∈ used → n ≤ last := by
  have hfinite : {n | candidate base n ∈ used}.Finite :=
    (List.finite_toSet used).preimage (candidate_injective base).injOn
  obtain ⟨last, hlast⟩ := hfinite.bddAbove
  exact ⟨last, fun n hn => hlast hn⟩

/-- So the search ends wherever it is begun. -/
theorem acc_turn (used : List String) (base : String) (n : Nat) :
    Acc (fun next n => Turn used base n next) n := by
  obtain ⟨last, hlast⟩ := exists_last_taken used base
  -- What is counted down is the distance to the first number above all taken ones.
  have hdown : ∀ distance n, last < n + distance →
      Acc (fun next n => Turn used base n next) n := by
    intro distance
    induction distance with
    | zero =>
        intro n hn
        refine Acc.intro n ?_
        rintro _ ⟨htaken⟩
        exact absurd (hlast n htaken) (Nat.not_le.mpr hn)
    | succ distance ih =>
        intro n hn
        refine Acc.intro n ?_
        rintro _ ⟨-⟩
        exact ih (n + 1) (by omega)
  exact hdown (last + 1) n (by omega)

/-! ## Where it ends -/

theorem taken_of_turns (h : ReflTransGen (Turn used base) m n) :
    m ≤ n ∧ ∀ k, m ≤ k → k < n → candidate base k ∈ used := by
  induction h with
  | refl => exact ⟨Nat.le_refl m, fun k hk hlt => absurd hk (Nat.not_le.mpr hlt)⟩
  | tail _ hturn ih =>
      obtain ⟨htaken⟩ := hturn
      refine ⟨Nat.le_succ_of_le ih.1, fun k hk hlt => ?_⟩
      rcases Nat.lt_succ_iff_lt_or_eq.mp hlt with hlt | rfl
      · exact ih.2 k hk hlt
      · exact htaken

theorem turns_of_taken (h : ∀ k < n, candidate base k ∈ used) :
    ReflTransGen (Turn used base) 0 n := by
  induction n with
  | zero => exact .refl
  | succ n ih =>
      exact (ih fun k hk => h k (Nat.lt_succ_of_lt hk)).tail (.taken (h n (Nat.lt_succ_self n)))

/-- There is one end at most. -/
theorem end_unique (hm : ReflTransGen (Turn used base) 0 m) (hfree : candidate base m ∉ used)
    (hn : ReflTransGen (Turn used base) 0 n) (hfree' : candidate base n ∉ used) : m = n := by
  rcases Nat.lt_trichotomy m n with hlt | heq | hlt
  · exact absurd ((taken_of_turns hn).2 m (Nat.zero_le m) hlt) hfree
  · exact heq
  · exact absurd ((taken_of_turns hm).2 n (Nat.zero_le n) hlt) hfree'

/-- The candidates before the one that is given are taken. -/
theorem exists_first_candidate (used : List String) (base : String) :
    ∃ n, ReflTransGen (Turn used base) 0 n ∧ candidate base n ∉ used ∧
      unique used base = candidate base n := by
  obtain ⟨k, hk, hfree⟩ := exists_candidate used base
  cases hfind : ((List.range (used.length + 1)).map (candidate base)).find? fun name =>
      !used.contains name with
  | none =>
      have hbase : unique used base = candidate base 0 := by
        rw [unique, hfind]
        rfl
      exact ⟨0, .refl, hbase ▸ hk ▸ hfree, hbase⟩
  | some name =>
      obtain ⟨hname, n, hn, heq, hbefore⟩ := List.find?_eq_some_iff_getElem.mp hfind
      rw [List.getElem_map, List.getElem_range] at heq
      subst heq
      refine ⟨n, turns_of_taken fun k hk => ?_, by simpa using hname, ?_⟩
      · have htaken := hbefore k hk
        rw [List.getElem_map, List.getElem_range] at htaken
        simpa using htaken
      · rw [unique, hfind, Option.getD_some]

/-- A search that comes to its end has found the unique name. -/
theorem candidate_eq_unique (h : ReflTransGen (Turn used base) 0 n)
    (hfree : candidate base n ∉ used) : candidate base n = unique used base := by
  obtain ⟨k, hk, hfree', heq⟩ := exists_first_candidate used base
  rw [heq, end_unique h hfree hk hfree']

/-! ## One search after the other -/

/-- The names of a list are searched for in order, each among those that were found
before it. -/
inductive Searched : List String → List String → List String → Prop where
  | nil {used : List String} : Searched used [] []
  | cons {used rest names : List String} {base : String} {n : Nat}
      (h : ReflTransGen (Turn used base) 0 n) (hfree : candidate base n ∉ used)
      (hrest : Searched (candidate base n :: used) rest names) :
      Searched used (base :: rest) (candidate base n :: names)

theorem searched_uniqueAll (used l : List String) : Searched used l (uniqueAll used l) := by
  induction l generalizing used with
  | nil => exact .nil
  | cons base rest ih =>
      obtain ⟨n, h, hfree, heq⟩ := exists_first_candidate used base
      rw [uniqueAll, heq]
      exact .cons h hfree (ih _)

theorem Searched.eq_uniqueAll {l names : List String} (h : Searched used l names) :
    names = uniqueAll used l := by
  induction h with
  | nil => rfl
  | cons h hfree _ ih => rw [uniqueAll, ← candidate_eq_unique h hfree, ← ih]

/-- Searching has one outcome. -/
theorem searched_iff {l names : List String} :
    Searched used l names ↔ names = uniqueAll used l := by
  refine ⟨Searched.eq_uniqueAll, ?_⟩
  rintro rfl
  exact searched_uniqueAll used l

end Clientwright.Naming
