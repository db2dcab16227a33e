import Clientwright.Proofs.JsonText
import Clientwright.Proofs.Tables
import Clientwright.Service.Stored

/-!
# Reading records as they are written

What is written for a record has exactly the known fields, each once, so nothing
is skipped when it is read. The lemmas here take the fields off one by one: a
field is read from the value under its name, and fields of other names do not
matter. For the values of the fields there is one lemma for each kind of reader,
and each says that the reader gives back what was written.
-/

namespace Clientwright

/-- The table of a table's entries is the table. -/
theorem Table.ofList_entries {α : Type} (t : Table α) : Table.ofList t.entries = t := by
  refine Table.ext_get? fun k v => ?_
  rw [Table.get?_ofList_of_nodup t.nodup_keys, Table.get?_eq_some_iff]

namespace Json

variable {α : Type} {read : Json → Option α} {write : α → Json} {depth : Nat}

/-! ## What can be stored -/

attribute [simp] Storable.null Storable.bool Storable.string

@[simp] theorem storable_array_iff {items : List Json} :
    Storable (depth + 1) (.array items) ↔ ∀ v ∈ items, Storable depth v :=
  ⟨fun h => by cases h with | array h => exact h, .array⟩

@[simp] theorem storable_object_iff {members : List (String × Json)} :
    Storable (depth + 1) (.object members) ↔ ∀ m ∈ members, Storable depth m.2 :=
  ⟨fun h => by cases h with | object h => exact h, .object⟩

@[simp] theorem storable_ofOption_iff {o : Option α} :
    Storable depth (ofOption write o) ↔ ∀ a, o = some a → Storable depth (write a) := by
  cases o with
  | none => simp [ofOption]
  | some a => simp [ofOption]

theorem fitsInteger_of_fitsInt64 {i : Int} (h : fitsInt64 i = true) :
    JsonNumber.fitsInteger i = true := by
  rw [JsonNumber.fitsInteger, h, Bool.true_or]

theorem storable_ofInt {i : Int} (h : fitsInt64 i = true) :
    Storable depth (.number (.ofInt i)) :=
  .integer i (fitsInteger_of_fitsInt64 h)

/-- A natural number of at most 32 bits can be stored. -/
theorem storable_ofNat {n : Nat} (h : n < UInt32.size) : Storable depth (ofNat n) := by
  have hfits : fitsInt64 n = true := by
    rw [UInt32.size] at h
    simp only [fitsInt64, Bool.and_eq_true, decide_eq_true_eq]
    omega
  exact storable_ofInt hfits

/-- A table can be stored if its values can. -/
@[simp] theorem storable_toJson_iff {t : Table α} :
    Storable (depth + 1) (t.toJson write) ↔ ∀ a ∈ t.values, Storable depth (write a) := by
  rw [Table.toJson, storable_object_iff]
  simp only [Table.map, Table.values, List.forall_mem_map]

/-! ## Readers of single values -/

-- These hold by `rfl`, but then `simp` could not use them for the side conditions of
-- `Record.optional_cons_self` and `list?_map`.

@[simp] theorem string?_string (s : String) : string? (.string s) = some s := by
  rw [string?]

@[simp] theorem string?_null : string? .null = none := by
  rw [string?]
  nofun

@[simp] theorem bool?_bool (b : Bool) : bool? (.bool b) = some b := by
  rw [bool?]

@[simp] theorem nat16?_null : nat16? .null = none := by
  rw [nat16?, natBelow?]
  nofun

theorem natBelow?_ofNat {bound n : Nat} (h : n < bound) : natBelow? bound (ofNat n) = some n := by
  rw [ofNat, natBelow?, JsonNumber.toNatBelow?, JsonNumber.toInt?_ofInt]
  exact if_pos h

theorem nat16?_ofNat {n : Nat} (h : n < UInt16.size) : nat16? (ofNat n) = some n :=
  natBelow?_ofNat h

theorem nat32?_ofNat {n : Nat} (h : n < UInt32.size) : nat32? (ofNat n) = some n :=
  natBelow?_ofNat h

theorem int64?_ofInt {i : Int} (h : fitsInt64 i = true) :
    int64? (.number (.ofInt i)) = some i := by
  rw [int64?, JsonNumber.toInt?_ofInt, Option.filter_some, if_pos h]

/-- A list is read back if every item is. -/
@[simp] theorem list?_map {l : List α} (h : ∀ a ∈ l, read (write a) = some a) :
    list? read (.array (l.map write)) = some l :=
  mapM_map_eq_some h

/-- A table is read back if every value is. -/
@[simp] theorem table?_toJson {t : Table α} (h : ∀ a ∈ t.values, read (write a) = some a) :
    table? read (t.toJson write) = some t := by
  have hmembers : members? read (t.toJson write) = some t.entries := by
    refine mapM_map_eq_some fun e he => ?_
    show (read (write e.2)).map ((e.1, ·)) = some e
    rw [h e.2 (List.mem_map_of_mem he), Option.map_some]
  rw [table?, hmembers, Option.map_some, Table.ofList_entries]

/-! ## Fields -/

section

variable {known : List String} {fields : List (String × Json)} {name other : String} {v : Json}

/-- A record that has just the known fields. -/
theorem record?_object (hnames : fields.map (·.1) = known) (hnodup : known.Nodup) :
    record? known (.object fields) = some ⟨fields⟩ := by
  have hknown : ∀ m ∈ fields, known.contains m.1 = true := by
    intro m hm
    rw [List.contains_iff_mem, ← hnames]
    exact List.mem_map_of_mem hm
  rw [record?, List.filter_eq_self.mpr]
  · exact if_pos (hnames ▸ hnodup)
  · exact hknown

/-- What reads such a record goes on with its fields. -/
theorem record?_object_bind {β : Type} {f : Record → Option β}
    (hnames : fields.map (·.1) = known) (hnodup : known.Nodup) :
    (record? known (.object fields) >>= f) = f ⟨fields⟩ := by
  rw [record?_object hnames hnodup, Option.bind_eq_bind, Option.bind_some]

/-- A field that is not known is skipped. -/
theorem record?_cons_of_not_mem (h : name ∉ known) :
    record? known (.object ((name, v) :: fields)) = record? known (.object fields) := by
  have hunknown : ¬ known.contains name = true := fun hmem => h (List.contains_iff_mem.mp hmem)
  rw [record?, record?, List.filter_cons_of_neg]
  exact hunknown

/-- The one field that is looked for stands in front. -/
theorem record?_singleton (h : name ∉ fields.map (·.1)) :
    record? [name] (.object ((name, v) :: fields)) = some ⟨[(name, v)]⟩ := by
  have hself : [name].contains name = true := List.contains_iff_mem.mpr List.mem_cons_self
  have hothers : ∀ m ∈ fields, ¬ [name].contains m.1 = true := by
    intro m hm hmem
    have hname : m.1 = name := List.mem_singleton.mp (List.contains_iff_mem.mp hmem)
    exact h (hname ▸ List.mem_map_of_mem hm)
  rw [record?, List.filter_cons_of_pos, List.filter_eq_nil_iff.mpr]
  · rfl
  · exact hothers
  · exact hself

namespace Record

@[simp] theorem get?_cons_self : get? ⟨(name, v) :: fields⟩ name = some v :=
  List.lookup_cons_self

theorem get?_cons_of_ne (h : name ≠ other) :
    get? ⟨(other, v) :: fields⟩ name = get? ⟨fields⟩ name := by
  rw [get?, get?, List.lookup_cons, beq_false_of_ne h]

@[simp] theorem required_cons_self : required ⟨(name, v) :: fields⟩ name read = read v := by
  rw [required, get?_cons_self]
  rfl

@[simp] theorem required_cons_of_ne (h : name ≠ other) :
    required ⟨(other, v) :: fields⟩ name read = required ⟨fields⟩ name read := by
  rw [required, required, get?_cons_of_ne h]

@[simp] theorem withDefault_cons_self {default : α} :
    withDefault ⟨(name, v) :: fields⟩ name read default = read v := by
  rw [withDefault, get?_cons_self]

@[simp] theorem withDefault_cons_of_ne {default : α} (h : name ≠ other) :
    withDefault ⟨(other, v) :: fields⟩ name read default =
      withDefault ⟨fields⟩ name read default := by
  rw [withDefault, withDefault, get?_cons_of_ne h]

/-- An optional field is read back as what is there, if null is nothing for its
reader. -/
@[simp] theorem optional_cons_self {o : Option α} (hnull : read .null = none)
    (h : ∀ a, o = some a → read (write a) = some a) :
    optional ⟨(name, ofOption write o) :: fields⟩ name read = some o := by
  rw [optional, get?_cons_self]
  cases o with
  | none => rfl
  | some a =>
      have ha := h a rfl
      rw [ofOption]
      split
      next heq => cases heq
      next heq =>
        rw [Option.some.inj heq, hnull] at ha
        cases ha
      next heq =>
        rw [← Option.some.inj heq, ha, Option.map_some]

@[simp] theorem optional_cons_of_ne (h : name ≠ other) :
    optional ⟨(other, v) :: fields⟩ name read = optional ⟨fields⟩ name read := by
  rw [optional, optional, get?_cons_of_ne h]

end Record

end

end Json

end Clientwright
