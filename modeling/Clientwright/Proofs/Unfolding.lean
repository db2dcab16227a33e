import Clientwright.Proofs.Closed
import Clientwright.Proofs.Tables
import Clientwright.Service.Value
import Mathlib.Logic.Relation

/-!
# What an unfolded value shows

A value is unfolded down to its leaves, the scalars and structures in it. A name
that is being unfolded is not available below, which is what makes the unfolding
end, and it cuts off everything behind a list that holds itself. The theorem of
this file is that nothing is lost by the cut: the leaves are the scalars and
structures at the end of some path along `Holds`, whether or not there are
circles.

The reason is that a path through a circle has a shorter one beside it. Going
down into a list gives up its name, so the induction wants a path that does not
come back to the list. Any path has one, namely what is left of it after it was
at the list for the last time (`Via.leave`).
-/

namespace Clientwright

open Relation

/-- The scalars and structures in a value, with the names by which they were
referred to. -/
def ValueShape.leaves : ValueShape → List (String × Shape)
  | .structure k t => [(k, .structure t)]
  | .scalar k t => [(k, .scalar t)]
  | .list _ _ item => item.leaves
  | .map _ _ keys values => keys.leaves ++ values.leaves
  | .unknown _ | .endless _ => []

namespace ValueShape

theorem mem_structures_iff {v : ValueShape} {t : StructureShape} :
    t ∈ v.structures ↔ ∃ n, (n, .structure t) ∈ v.leaves := by
  induction v with
  | «structure» k u => simp [structures, leaves, eq_comm]
  | scalar k u => simp [structures, leaves]
  | list k l item ih => rw [structures, leaves, ih]
  | map k m keys values ihkeys ihvalues =>
      rw [structures, leaves, List.mem_append, ihkeys, ihvalues, ← exists_or]
      refine exists_congr fun n => ?_
      rw [List.mem_append]
  | unknown k => simp [structures, leaves]
  | endless k => simp [structures, leaves]

theorem mem_enums_iff {v : ValueShape} {e : String} :
    e ∈ v.enums ↔ ∃ n t, (n, .scalar t) ∈ v.leaves ∧ t.isEnum = true ∧ t.name = e := by
  induction v with
  | «structure» k u => simp [enums, leaves]
  | scalar k u =>
      rw [enums]
      split
      next h =>
          rw [List.mem_singleton]
          exact ⟨fun he => ⟨k, u, List.mem_singleton_self _, h, he.symm⟩,
            fun ⟨n, t, ht, _, he⟩ => by simp_all [leaves]⟩
      next h =>
          refine ⟨nofun, fun ⟨n, t, ht, he, _⟩ => ?_⟩
          simp_all [leaves]
  | list k l item ih => rw [enums, leaves, ih]
  | map k m keys values ihkeys ihvalues =>
      rw [enums, leaves, List.mem_append, ihkeys, ihvalues]
      simp only [List.mem_append, or_and_right, exists_or]
  | unknown k => simp [enums, leaves]
  | endless k => simp [enums, leaves]

end ValueShape

namespace Service

variable {s : Service} {available : List String} {k n x : String}

/-! ## Paths -/

/-- A path along what lists and maps hold, all of them available. Where it ends
need not be. -/
inductive Via (s : Service) (available : List String) : String → String → Prop where
  | refl {k : String} : s.Via available k k
  | step {k m n : String} (hk : k ∈ available) (hm : s.Holds k m)
      (h : s.Via available m n) : s.Via available k n

theorem Via.holds (h : s.Via available k n) : ReflTransGen s.Holds k n := by
  induction h with
  | refl => exact .refl
  | step _ hm _ ih => exact .head hm ih

theorem Holds.mem_keys (h : s.Holds k n) : k ∈ s.shapes.keys := by
  rw [Table.mem_keys_iff]
  cases h with
  | item h => exact ⟨_, h⟩
  | key h => exact ⟨_, h⟩
  | value h => exact ⟨_, h⟩

/-- At the start every name is available. -/
theorem via_of_holds (h : ReflTransGen s.Holds k n) : s.Via s.shapes.keys k n := by
  induction h using ReflTransGen.head_induction_on with
  | refl => exact .refl
  | head hm _ ih => exact .step hm.mem_keys hm ih

/-- A path does without a name, or what is left after its last visit to the name
does. -/
theorem Via.leave (h : s.Via available k n) (x : String) :
    s.Via (available.erase x) k n ∨
      ∃ m, s.Holds x m ∧ s.Via (available.erase x) m n := by
  induction h with
  | refl => exact .inl .refl
  | @step k m n hk hm h ih =>
      rcases ih with hrest | hleft
      · by_cases hx : k = x
        · exact .inr ⟨m, hx ▸ hm, hrest⟩
        · exact .inl (.step ((List.mem_erase_of_ne hx).mpr hk) hm hrest)
      · exact .inr hleft

/-- A path from a list or a map to something else goes on from what it holds,
and never comes back. -/
theorem Via.descend (h : s.Via available k n) (hnodup : available.Nodup) (hkn : k ≠ n) :
    k ∈ available ∧ ∃ m, s.Holds k m ∧ s.Via (available.erase k) m n := by
  have hk : k ∈ available := by
    cases h with
    | refl => exact absurd rfl hkn
    | step hk _ _ => exact hk
  refine ⟨hk, (h.leave k).resolve_left fun h => ?_⟩
  cases h with
  | refl => exact hkn rfl
  | step hk _ _ => exact hnodup.not_mem_erase hk

/-! ## Leaves -/

/-- The shape is a leaf of values. -/
def IsLeaf (shape : Shape) : Prop :=
  (∃ t, shape = .structure t) ∨ ∃ t, shape = .scalar t

/-- Where something is held there is no leaf. -/
theorem Holds.not_isLeaf {shape : Shape} (hm : s.Holds k n)
    (h : s.shape? k = some shape) : ¬ IsLeaf shape := by
  intro hleaf
  cases hm with
  | item h' =>
      obtain ⟨rfl⟩ := h.symm.trans h'
      simp [IsLeaf] at hleaf
  | key h' =>
      obtain ⟨rfl⟩ := h.symm.trans h'
      simp [IsLeaf] at hleaf
  | value h' =>
      obtain ⟨rfl⟩ := h.symm.trans h'
      simp [IsLeaf] at hleaf

theorem mem_leaves_valueWithin_sound {shape : Shape}
    (h : (n, shape) ∈ (s.valueWithin available k).leaves) :
    ReflTransGen s.Holds k n ∧ s.shape? n = some shape ∧ IsLeaf shape := by
  fun_induction valueWithin s available k with
  | case1 available k hk => simp [ValueShape.leaves] at h
  | case2 available k t hk =>
      simp only [ValueShape.leaves, List.mem_singleton, Prod.mk.injEq] at h
      obtain ⟨rfl, rfl⟩ := h
      exact ⟨.refl, hk, .inl ⟨t, rfl⟩⟩
  | case3 available k t hk =>
      simp only [ValueShape.leaves, List.mem_singleton, Prod.mk.injEq] at h
      obtain ⟨rfl, rfl⟩ := h
      exact ⟨.refl, hk, .inr ⟨t, rfl⟩⟩
  | case4 available k l hk hmem ih =>
      obtain ⟨hpath, hend⟩ := ih h
      exact ⟨.head (.item hk) hpath, hend⟩
  | case5 available k l hk hmem => simp [ValueShape.leaves] at h
  | case6 available k m hk hmem ihkey ihvalue =>
      rcases List.mem_append.mp h with h | h
      · obtain ⟨hpath, hend⟩ := ihkey h
        exact ⟨.head (.key hk) hpath, hend⟩
      · obtain ⟨hpath, hend⟩ := ihvalue h
        exact ⟨.head (.value hk) hpath, hend⟩
  | case7 available k m hk hmem => simp [ValueShape.leaves] at h

theorem mem_leaves_valueWithin_complete {shape : Shape} (hnodup : available.Nodup)
    (h : s.Via available k n) (hn : s.shape? n = some shape) (hleaf : IsLeaf shape) :
    (n, shape) ∈ (s.valueWithin available k).leaves := by
  -- A list or a map is not the end of the path, since the end is a leaf.
  have hne : ∀ k other, s.shape? k = some other → ¬ IsLeaf other → k ≠ n := by
    rintro k other hk hother rfl
    exact hother (Option.some.inj (hk.symm.trans hn) ▸ hleaf)
  fun_induction valueWithin s available k with
  | case1 available k hk =>
      cases h with
      | refl => exact absurd (hk.symm.trans hn) nofun
      | step _ hm _ =>
          obtain ⟨v, hv⟩ := Table.mem_keys_iff.mp hm.mem_keys
          exact absurd (hk.symm.trans hv) nofun
  | case2 available k t hk =>
      cases h with
      | refl =>
          obtain rfl := Option.some.inj (hk.symm.trans hn)
          exact List.mem_cons_self
      | step _ hm _ => exact absurd (.inl ⟨t, rfl⟩) (hm.not_isLeaf hk)
  | case3 available k t hk =>
      cases h with
      | refl =>
          obtain rfl := Option.some.inj (hk.symm.trans hn)
          exact List.mem_cons_self
      | step _ hm _ => exact absurd (.inr ⟨t, rfl⟩) (hm.not_isLeaf hk)
  | case4 available k l hk hmem ih =>
      obtain ⟨-, m, hm, hrest⟩ := h.descend hnodup (hne k _ hk (by simp [IsLeaf]))
      obtain rfl := (holds_iff_of_list hk).mp hm
      exact ih (hnodup.erase k) hrest
  | case5 available k l hk hmem =>
      obtain ⟨hmem', -⟩ := h.descend hnodup (hne k _ hk (by simp [IsLeaf]))
      exact absurd hmem' hmem
  | case6 available k m hk hmem ihkey ihvalue =>
      obtain ⟨-, x, hx, hrest⟩ := h.descend hnodup (hne k _ hk (by simp [IsLeaf]))
      rw [ValueShape.leaves, List.mem_append]
      rcases (holds_iff_of_map hk).mp hx with rfl | rfl
      · exact .inl (ihkey (hnodup.erase k) hrest)
      · exact .inr (ihvalue (hnodup.erase k) hrest)
  | case7 available k m hk hmem =>
      obtain ⟨hmem', -⟩ := h.descend hnodup (hne k _ hk (by simp [IsLeaf]))
      exact absurd hmem' hmem

/-- The leaves of a value are the scalars and structures that it holds, however
deep, and whatever circles are on the way. -/
theorem mem_leaves_value_iff {shape : Shape} :
    (n, shape) ∈ (s.value k).leaves ↔
      ReflTransGen s.Holds k n ∧ s.shape? n = some shape ∧ IsLeaf shape := by
  constructor
  · exact mem_leaves_valueWithin_sound
  · rintro ⟨hpath, hn, hleaf⟩
    exact mem_leaves_valueWithin_complete (Table.nodup_keys _) (via_of_holds hpath) hn
      hleaf

theorem mem_structures_value_iff {t : StructureShape} :
    t ∈ (s.value k).structures ↔
      ∃ n, ReflTransGen s.Holds k n ∧ s.shape? n = some (.structure t) := by
  rw [ValueShape.mem_structures_iff]
  refine exists_congr fun n => ?_
  rw [mem_leaves_value_iff]
  exact ⟨fun ⟨hpath, hn, _⟩ => ⟨hpath, hn⟩,
    fun ⟨hpath, hn⟩ => ⟨hpath, hn, .inl ⟨t, rfl⟩⟩⟩

theorem mem_enums_value_iff {e : String} :
    e ∈ (s.value k).enums ↔ ∃ n t, ReflTransGen s.Holds k n ∧
      s.shape? n = some (.scalar t) ∧ t.isEnum = true ∧ t.name = e := by
  rw [ValueShape.mem_enums_iff]
  refine exists_congr fun n => exists_congr fun t => ?_
  rw [mem_leaves_value_iff]
  exact ⟨fun ⟨⟨hpath, hn, _⟩, he⟩ => ⟨hpath, hn, he⟩,
    fun ⟨hpath, hn, he⟩ => ⟨⟨hpath, hn, .inr ⟨t, rfl⟩⟩, he⟩⟩

end Service

end Clientwright
