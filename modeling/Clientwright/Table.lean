/-!
# Tables

A table holds values under names, in the order of the names. Equal contents are equal tables, so
the order in which a document lists its entries leaves no trace in a table.
-/

namespace Clientwright

/-- Values under distinct names, by ascending name. -/
structure Table (α : Type) where
  entries : List (String × α)
  ordered : entries.Pairwise fun a b => a.1 < b.1

namespace Table

variable {α β : Type}

instance [DecidableEq α] : DecidableEq (Table α) := fun s t =>
  if h : s.entries = t.entries then
    isTrue (by cases s; cases t; simp_all)
  else isFalse fun e => h (e ▸ rfl)

instance [Repr α] : Repr (Table α) := ⟨fun t n => reprPrec t.entries n⟩

theorem ext {s t : Table α} (h : s.entries = t.entries) : s = t := by
  cases s; cases t; simp_all

/-- The table without entries. -/
def empty : Table α := ⟨[], .nil⟩

instance : Inhabited (Table α) := ⟨empty⟩

/-- The names, ascending. -/
def keys (t : Table α) : List String := t.entries.map (·.1)

/-- The values, by ascending name. -/
def values (t : Table α) : List α := t.entries.map (·.2)

/-- The value under a name. -/
def get? (t : Table α) (k : String) : Option α := t.entries.lookup k

/-- Is there a value under the name? -/
def contains (t : Table α) (k : String) : Bool := (t.get? k).isSome

/-- The number of entries. -/
def size (t : Table α) : Nat := t.entries.length

/-- Puts an entry in its place among ordered entries, over an older one of the same name. -/
def insertEntry (k : String) (v : α) : List (String × α) → List (String × α)
  | [] => [(k, v)]
  | e :: rest =>
    if k < e.1 then (k, v) :: e :: rest
    else if k = e.1 then (k, v) :: rest
    else e :: insertEntry k v rest

theorem mem_insertEntry {k : String} {v : α} {l : List (String × α)} {e : String × α}
    (h : e ∈ insertEntry k v l) : e = (k, v) ∨ e ∈ l := by
  induction l with
  | nil => simpa [insertEntry] using h
  | cons a l ih =>
    unfold insertEntry at h
    split at h
    · simpa using h
    · split at h
      · rcases List.mem_cons.mp h with h | h
        · exact .inl h
        · exact .inr (List.mem_cons_of_mem _ h)
      · rcases List.mem_cons.mp h with h | h
        · exact .inr (h ▸ List.mem_cons_self)
        · exact (ih h).imp id (List.mem_cons_of_mem _)

theorem ordered_insertEntry {k : String} {v : α} {l : List (String × α)}
    (h : l.Pairwise fun a b => a.1 < b.1) :
    (insertEntry k v l).Pairwise fun a b => a.1 < b.1 := by
  induction l with
  | nil => simp [insertEntry]
  | cons a l ih =>
    obtain ⟨ha, hl⟩ := List.pairwise_cons.mp h
    unfold insertEntry
    split
    · next hk =>
      refine List.pairwise_cons.mpr ⟨fun b hb => ?_, h⟩
      rcases List.mem_cons.mp hb with rfl | hb
      · exact hk
      · exact String.lt_trans hk (ha b hb)
    · next hk =>
      split
      · next he => exact List.pairwise_cons.mpr ⟨fun b hb => he ▸ ha b hb, hl⟩
      · next he =>
        refine List.pairwise_cons.mpr ⟨fun b hb => ?_, ih hl⟩
        rcases mem_insertEntry hb with rfl | hb
        · rcases Std.Trichotomous.rel_or_eq_or_rel_swap (r := (· < · : String → String → Prop))
            (a := a.1) (b := k) with h | h | h
          · exact h
          · exact absurd h.symm he
          · exact absurd h hk
        · exact ha b hb

/-- Adds an entry, over an older one of the same name. -/
def insert (t : Table α) (k : String) (v : α) : Table α :=
  ⟨insertEntry k v t.entries, ordered_insertEntry t.ordered⟩

/-- The table of the entries; of several under one name the last counts. -/
def ofList (l : List (String × α)) : Table α :=
  l.foldl (fun t e => t.insert e.1 e.2) empty

/-- The same names with other values. -/
def map (f : α → β) (t : Table α) : Table β :=
  ⟨t.entries.map fun e => (e.1, f e.2), by
    simpa [List.pairwise_map] using t.ordered⟩

theorem lookup_cons_eq (j k : String) (v : α) (l : List (String × α)) :
    ((k, v) :: l).lookup j = if j = k then some v else l.lookup j := by
  rw [List.lookup_cons]
  by_cases h : j = k
  · rw [if_pos h, beq_iff_eq.mpr h]
  · rw [if_neg h, beq_eq_false_iff_ne.mpr h]

theorem lookup_insertEntry (k j : String) (v : α) (l : List (String × α)) :
    (insertEntry k v l).lookup j = if j = k then some v else l.lookup j := by
  induction l with
  | nil => rw [insertEntry, lookup_cons_eq]
  | cons a l ih =>
    obtain ⟨a, w⟩ := a
    unfold insertEntry
    split
    · rw [lookup_cons_eq]
    · split
      · next he =>
        have he : k = a := he
        rw [lookup_cons_eq, lookup_cons_eq, he]
        split <;> rfl
      · next he =>
        rw [lookup_cons_eq, lookup_cons_eq, ih]
        by_cases hj : j = k
        · rw [if_pos hj, if_pos hj, if_neg fun h => he (hj ▸ h)]
        · rw [if_neg hj, if_neg hj]

/-- A look-up after an insertion finds the new value under its name and every other value as
before. -/
theorem get?_insert (t : Table α) (k j : String) (v : α) :
    (t.insert k v).get? j = if j = k then some v else t.get? j :=
  lookup_insertEntry k j v t.entries

end Table

/-- Names in ascending order, each once. -/
def sortedNames (names : List String) : List String :=
  (Table.ofList (names.map fun n => (n, ()))).keys

/-- Entries in the order in which their names first came; a repeated name keeps its place and takes
the later value. -/
def mergeEntries {α : Type} (l : List (String × α)) : List (String × α) :=
  l.foldl put []
where
  /-- adds one entry -/
  put (entries : List (String × α)) (e : String × α) : List (String × α) :=
    if entries.any (·.1 == e.1) then entries.map fun old => if old.1 == e.1 then e else old
    else entries ++ [e]

end Clientwright
