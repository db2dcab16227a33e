import Clientwright.Table
import Mathlib.Data.List.Nodup

/-!
# What a table holds

A table is a list in order, and everybody else wants to know two things about
it: which names it has, and what stands under a name. This file answers both
for the operations that make tables, so nobody opens the insertion again.

The one place where order matters is a table made from entries of which two
share a name, since the later of them wins. The names are then still the names
of the entries. What stands under them is simple only if the names are
distinct, and the entries of a document always are.
-/

namespace Clientwright

namespace Table

variable {α β : Type}

/-! ## Names and look-ups -/

theorem pairwise_keys (t : Table α) : t.keys.Pairwise (· < ·) := by
  rw [keys, List.pairwise_map]
  exact t.ordered

theorem nodup_keys (t : Table α) : t.keys.Nodup :=
  t.pairwise_keys.imp fun {a b} (h : a < b) (e : a = b) =>
    String.lt_irrefl b (e ▸ h)

theorem lookup_eq_some_iff {l : List (String × α)} (h : (l.map (·.1)).Nodup)
    {k : String} {v : α} : l.lookup k = some v ↔ (k, v) ∈ l := by
  induction l with
  | nil => simp
  | cons e l ih =>
      obtain ⟨j, w⟩ := e
      rw [List.map_cons, List.nodup_cons] at h
      rw [lookup_cons_eq, List.mem_cons]
      by_cases hk : k = j
      · rw [if_pos hk]
        constructor
        · rintro ⟨rfl⟩
          exact .inl (by rw [hk])
        · rintro (he | he)
          · rw [(Prod.mk.inj he).2]
          · exact absurd (List.mem_map_of_mem (f := (·.1)) he) (hk ▸ h.1)
      · rw [if_neg hk, ih h.2]
        exact ⟨.inr, fun he => he.resolve_left fun e => hk (Prod.mk.inj e).1⟩

/-- Under distinct names there is one value each. -/
theorem eq_of_mem_of_mem {l : List (String × α)} (h : (l.map (·.1)).Nodup) {k : String} {v w : α}
    (hv : (k, v) ∈ l) (hw : (k, w) ∈ l) : v = w :=
  Option.some.inj (((lookup_eq_some_iff h).mpr hv).symm.trans ((lookup_eq_some_iff h).mpr hw))

/-- A look-up among distinct names finds the same in every order. -/
theorem lookup_eq_of_perm {l l' : List (String × α)} (h : l.Perm l')
    (hl : (l.map (·.1)).Nodup) (k : String) : l.lookup k = l'.lookup k := by
  refine Option.ext fun v => ?_
  rw [lookup_eq_some_iff hl, lookup_eq_some_iff ((h.map _).nodup_iff.mp hl),
    h.mem_iff]

theorem get?_eq_some_iff {t : Table α} {k : String} {v : α} :
    t.get? k = some v ↔ (k, v) ∈ t.entries :=
  lookup_eq_some_iff t.nodup_keys

/-- Values that know their names give them back. -/
theorem map_values {t : Table α} {name : α → String}
    (h : ∀ k v, t.get? k = some v → name v = k) : t.values.map name = t.keys := by
  rw [values, List.map_map, keys]
  exact List.map_congr_left fun e he => h _ _ (get?_eq_some_iff.mpr he)

theorem mem_keys_iff {t : Table α} {k : String} :
    k ∈ t.keys ↔ ∃ v, t.get? k = some v := by
  simp only [keys, List.mem_map, get?_eq_some_iff]
  constructor
  · rintro ⟨⟨j, v⟩, he, rfl⟩
    exact ⟨v, he⟩
  · rintro ⟨v, he⟩
    exact ⟨(k, v), he, rfl⟩

theorem contains_iff {t : Table α} {k : String} :
    t.contains k = true ↔ ∃ v, t.get? k = some v :=
  Option.isSome_iff_exists

theorem mem_values_iff {t : Table α} {v : α} :
    v ∈ t.values ↔ ∃ k, t.get? k = some v := by
  simp only [values, List.mem_map, get?_eq_some_iff]
  constructor
  · rintro ⟨⟨k, w⟩, he, rfl⟩
    exact ⟨k, he⟩
  · rintro ⟨k, he⟩
    exact ⟨(k, v), he, rfl⟩

/-- Tables that hold the same under every name are the same. -/
theorem ext_get? {s t : Table α} (h : ∀ k v, s.get? k = some v ↔ t.get? k = some v) :
    s = t := by
  have hnodup : ∀ t : Table α, t.entries.Nodup := fun t => t.nodup_keys.of_map _
  have hperm : s.entries.Perm t.entries := by
    rw [List.perm_ext_iff_of_nodup (hnodup s) (hnodup t)]
    intro e
    rw [← get?_eq_some_iff, ← get?_eq_some_iff]
    exact h e.1 e.2
  refine ext (hperm.eq_of_pairwise ?_ s.ordered t.ordered)
  intro a b _ _ hlt hgt
  exact absurd (String.lt_trans hlt hgt) (String.lt_irrefl _)

/-! ## Tables from entries -/

/-- What a fold of insertions holds under a name: the last entry of that name,
and what was there before if there is none. -/
theorem get?_foldl_insert (l : List (String × α)) (t : Table α) (k : String) :
    (l.foldl (fun t e => t.insert e.1 e.2) t).get? k =
      (l.reverse.lookup k).or (t.get? k) := by
  induction l generalizing t with
  | nil => rfl
  | cons e l ih =>
      rw [List.foldl_cons, ih, get?_insert, List.reverse_cons, List.lookup_append]
      obtain ⟨j, v⟩ := e
      rw [lookup_cons_eq, Option.or_assoc]
      by_cases h : k = j
      · rw [if_pos h, if_pos h]
        rfl
      · rw [if_neg h, if_neg h]
        rfl

theorem get?_ofList (l : List (String × α)) (k : String) :
    (ofList l).get? k = l.reverse.lookup k := by
  rw [ofList, get?_foldl_insert]
  exact Option.or_none

theorem mem_keys_ofList {l : List (String × α)} {k : String} :
    k ∈ (ofList l).keys ↔ k ∈ l.map (·.1) := by
  rw [mem_keys_iff, ← Option.isSome_iff_exists, get?_ofList,
    List.lookup_isSome_iff]
  simp

/-- Whatever a table of entries holds was among the entries. -/
theorem mem_of_get?_ofList {l : List (String × α)} {k : String} {v : α}
    (h : (ofList l).get? k = some v) : (k, v) ∈ l := by
  rw [get?_ofList, List.lookup_eq_some_iff] at h
  obtain ⟨l₁, l₂, h, -⟩ := h
  rw [← List.mem_reverse, h]
  exact List.mem_append_right _ List.mem_cons_self

/-- Among entries with distinct names each has its place. -/
theorem get?_ofList_of_nodup {l : List (String × α)}
    (h : (l.map (·.1)).Nodup) {k : String} {v : α} :
    (ofList l).get? k = some v ↔ (k, v) ∈ l := by
  have hr : (l.reverse.map (·.1)).Nodup := by
    rw [List.map_reverse]
    exact List.nodup_reverse.2 h
  rw [get?_ofList, lookup_eq_some_iff hr, List.mem_reverse]

end Table

/-! ## Names in order -/

theorem mem_sortedNames {l : List String} {n : String} :
    n ∈ sortedNames l ↔ n ∈ l := by
  rw [sortedNames, Table.mem_keys_ofList]
  simp

theorem pairwise_sortedNames (l : List String) :
    (sortedNames l).Pairwise (· < ·) :=
  Table.pairwise_keys _

/-! ## Entries of a document -/

/-- Adding an entry under a name that is already there replaces it, so the names
stay distinct. -/
theorem nodup_put {α : Type} {l : List (String × α)} {e : String × α}
    (h : (l.map (·.1)).Nodup) : ((mergeEntries.put l e).map (·.1)).Nodup := by
  unfold mergeEntries.put
  split
  · have hmap : (l.map fun old => if old.1 == e.1 then e else old).map (·.1)
        = l.map (·.1) := by
      rw [List.map_map]
      refine List.map_congr_left fun old _ => ?_
      by_cases he : old.1 = e.1
      · simp [he]
      · simp [he]
    rw [hmap]
    exact h
  · next hnew =>
      rw [List.map_append, List.nodup_append]
      refine ⟨h, by simp, fun j hj k hk => ?_⟩
      obtain ⟨old, hold, rfl⟩ := List.mem_map.mp hj
      rw [List.map_singleton, List.mem_singleton] at hk
      subst hk
      exact fun he => hnew (List.any_eq_true.mpr ⟨old, hold, by simp [he]⟩)

theorem nodup_mergeEntries {α : Type} (l : List (String × α)) :
    ((mergeEntries l).map (·.1)).Nodup := by
  have hfold : ∀ (l acc : List (String × α)), (acc.map (·.1)).Nodup →
      ((l.foldl mergeEntries.put acc).map (·.1)).Nodup := by
    intro l
    induction l with
    | nil => exact fun _ h => h
    | cons e l ih => exact fun acc h => ih _ (nodup_put h)
  exact hfold l [] List.nodup_nil

end Clientwright
