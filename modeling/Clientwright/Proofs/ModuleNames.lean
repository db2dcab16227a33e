import Clientwright.Proofs.Fitting
import Mathlib.Data.List.Nodup

/-!
# Names of modules

A module is also a file, so its name has to keep away from two things: from the
slash, which would lead into another folder, and from `mod`, which is the file
that declares the others. The first follows from what a name in lower case is
made of. The second comes with escaping, since `mod` is a keyword and neither an
escape nor a number makes it up again.

The modules of the types also keep away from each other. A taken name gets a
number, and among more candidates than there are taken names one is free, so
names that were made unique are distinct, however many there are. The modules of
operations are not made unique, and nothing like it is said about them.
-/

namespace Clientwright

/-! ## Characters -/

namespace Text

/-- Cutting a text brings no characters into it. -/
theorem mem_of_mem_splitAt {isCut : Char → Bool} {s piece : List Char} {c : Char}
    (hpiece : piece ∈ splitAt isCut s) (hc : c ∈ piece) : c ∈ s := by
  induction s generalizing piece with
  | nil =>
      obtain rfl := List.mem_singleton.mp hpiece
      exact hc
  | cons d s ih =>
      unfold splitAt at hpiece
      split at hpiece
      · rcases List.mem_cons.mp hpiece with rfl | hpiece
        · cases hc
        · exact List.mem_cons_of_mem _ (ih hpiece hc)
      · split at hpiece
        next first rest hsplit =>
          rcases List.mem_cons.mp hpiece with rfl | hpiece
          · have hfirst : first ∈ splitAt isCut s := hsplit ▸ List.mem_cons_self
            rcases List.mem_cons.mp hc with rfl | hc
            · exact List.mem_cons_self
            · exact List.mem_cons_of_mem _ (ih hfirst hc)
          · have hrest : piece ∈ splitAt isCut s := hsplit ▸ List.mem_cons_of_mem _ hpiece
            exact List.mem_cons_of_mem _ (ih hrest hc)
        next =>
          obtain rfl := List.mem_singleton.mp hpiece
          obtain rfl := List.mem_singleton.mp hc
          exact List.mem_cons_self

theorem mem_of_mem_intercalate {separator : List Char} {l : List (List Char)} {c : Char}
    (h : c ∈ separator.intercalate l) : c ∈ separator ∨ ∃ piece ∈ l, c ∈ piece := by
  fun_induction List.intersperse separator l with
  | case1 => cases h
  | case2 piece =>
      rw [List.intercalate_singleton] at h
      exact .inr ⟨piece, List.mem_singleton_self piece, h⟩
  | case3 piece rest hrest ih =>
      rw [List.intercalate_cons_of_ne_nil hrest, List.mem_append, List.mem_append] at h
      rcases h with (h | h) | h
      · exact .inr ⟨piece, List.mem_cons_self, h⟩
      · exact .inl h
      · exact (ih h).imp_right fun ⟨w, hw, hc⟩ => ⟨w, List.mem_cons_of_mem _ hw, hc⟩

end Text

namespace Naming

theorem toLower_ne_slash {c : Char} (h : Text.isUppercase c = true) : c.toLower ≠ '/' := by
  intro hc
  unfold Char.toLower at hc
  split at hc
  next hletter =>
    obtain ⟨hlow, hhigh⟩ := hletter
    have hval : c.val + 32 = 47 := congrArg Char.val hc
    have hlow : (65 : UInt32) ≤ c.val := hlow
    have hhigh : c.val ≤ (90 : UInt32) := hhigh
    rw [← UInt32.toNat_inj, UInt32.toNat_add] at hval
    rw [UInt32.le_iff_toNat_le] at hlow hhigh
    simp at hlow hhigh hval
    omega
  next =>
    subst hc
    revert h
    decide

theorem slash_not_mem_markWords {before : Option Char} {s : List Char} :
    '/' ∉ markWords before s := by
  induction s generalizing before with
  | nil => exact List.not_mem_nil
  | cons c s ih =>
      rw [markWords, List.mem_append]
      rintro (h | h)
      · split at h
        next hupper =>
          have hlower := toLower_ne_slash hupper
          split at h <;> simp [hlower.symm] at h
        next =>
          split at h
          · simp at h
          · split at h
            next hletter =>
              obtain rfl := List.mem_singleton.mp h
              revert hletter
              decide
            next => cases h
      · exact ih h

theorem slash_not_mem_snake (name : String) : '/' ∉ (snake name).toList := by
  rw [snake, String.toList_ofList]
  intro h
  rcases Text.mem_of_mem_intercalate h with h | ⟨word, hword, h⟩
  · exact absurd h (by decide)
  · exact slash_not_mem_markWords (Text.mem_of_mem_splitAt (List.mem_of_mem_filter hword) h)

/-! ## Modules -/

theorem moduleName_cases (name : String) :
    moduleName name = snake name ∧ keywords.contains (snake name) = false ∨
      moduleName name = snake name ++ "_" := by
  dsimp only [moduleName]
  split
  next => exact .inr rfl
  next h =>
    rw [Bool.not_eq_true, Bool.or_eq_false_iff] at h
    exact .inl ⟨rfl, h.1⟩

theorem slash_not_mem_moduleName (name : String) : '/' ∉ (moduleName name).toList := by
  have hsnake := slash_not_mem_snake name
  rcases moduleName_cases name with ⟨h, -⟩ | h
  · rwa [h]
  · simp [h, hsnake]

/-- The keyword is escaped, and no escape ends like it. -/
theorem moduleName_ne_mod (name : String) : moduleName name ≠ "mod" := by
  rcases moduleName_cases name with ⟨h, hkeyword⟩ | h
  · intro hmod
    rw [← h, hmod] at hkeyword
    exact absurd hkeyword (by decide)
  · intro hmod
    have hlast := congrArg (List.getLast? ∘ String.toList) (h.symm.trans hmod)
    simp at hlast

/-! ## Unique names -/

theorem toList_toString (n : Nat) : (toString n).toList = Nat.toDigits 10 n := by
  rw [Nat.toString_eq_ofList_toDigits, String.toList_ofList]

theorem toList_toString_ne_nil (n : Nat) : (toString n).toList ≠ [] := by
  rw [toList_toString]
  exact Nat.toDigits_ne_nil

theorem isDigit_of_mem_toString {n : Nat} {c : Char} (h : c ∈ (toString n).toList) :
    c.isDigit = true := by
  rw [toList_toString] at h
  exact Nat.isDigit_of_mem_toDigits (by decide : 0 < 10) (by decide) h

/-- A name with a number differs from the name alone, and the number can be told from it. -/
theorem candidate_injective (base : String) : Function.Injective (candidate base) := by
  intro m n h
  have h := congrArg String.toList h
  match m, n with
  | 0, 0 => rfl
  | 0, n + 1 =>
      rw [candidate, candidate, String.toList_append, List.self_eq_append_right] at h
      exact absurd h (toList_toString_ne_nil _)
  | m + 1, 0 =>
      rw [candidate, candidate, String.toList_append, List.append_right_eq_self] at h
      exact absurd h (toList_toString_ne_nil _)
  | m + 1, n + 1 =>
      rw [candidate, candidate, String.toList_append, String.toList_append,
        List.append_cancel_left_eq, toList_toString, toList_toString] at h
      have h := congrArg (Nat.ofDigitChars 10 · 0) h
      rw [Nat.ofDigitChars_ten_toDigits, Nat.ofDigitChars_ten_toDigits] at h
      omega

/-- Among one more candidates than there are taken names, one is free. -/
theorem exists_candidate (used : List String) (base : String) :
    ∃ n, unique used base = candidate base n ∧ candidate base n ∉ used := by
  have hfree : ∃ n < used.length + 1, candidate base n ∉ used := by
    by_contra hall
    push Not at hall
    have hnodup := (List.nodup_range (n := used.length + 1)).map (candidate_injective base)
    have hsub : (List.range (used.length + 1)).map (candidate base) ⊆ used := by
      intro name hname
      obtain ⟨n, hn, rfl⟩ := List.mem_map.mp hname
      exact hall n (List.mem_range.mp hn)
    have hlength := (List.subperm_of_subset hnodup hsub).length_le
    rw [List.length_map, List.length_range] at hlength
    omega
  obtain ⟨n, hn, hfree⟩ := hfree
  rw [unique]
  cases hfind : ((List.range (used.length + 1)).map (candidate base)).find? fun name =>
      !used.contains name with
  | none =>
      have htaken := List.find?_eq_none.mp hfind _
        (List.mem_map_of_mem (List.mem_range.mpr hn))
      rw [Bool.not_eq_true, Bool.not_eq_false', List.contains_iff_mem] at htaken
      exact absurd htaken hfree
  | some name =>
      obtain ⟨k, -, rfl⟩ := List.mem_map.mp (List.mem_of_find?_eq_some hfind)
      have hout := List.find?_some hfind
      rw [Bool.not_eq_true', ← Bool.not_eq_true, List.contains_iff_mem] at hout
      exact ⟨k, rfl, hout⟩

theorem unique_not_mem (used : List String) (base : String) : unique used base ∉ used := by
  obtain ⟨n, h, hfree⟩ := exists_candidate used base
  rwa [h]

theorem not_mem_of_mem_uniqueAll {used l : List String} {name : String}
    (h : name ∈ uniqueAll used l) : name ∉ used := by
  induction l generalizing used with
  | nil => cases h
  | cons base l ih =>
      rcases List.mem_cons.mp h with rfl | h
      · exact unique_not_mem used base
      · exact fun hused => ih h (List.mem_cons_of_mem _ hused)

theorem nodup_uniqueAll (used l : List String) : (uniqueAll used l).Nodup := by
  induction l generalizing used with
  | nil => exact List.nodup_nil
  | cons base l ih =>
      rw [uniqueAll, List.nodup_cons]
      exact ⟨fun h => not_mem_of_mem_uniqueAll h List.mem_cons_self, ih _⟩

theorem length_uniqueAll (used l : List String) : (uniqueAll used l).length = l.length := by
  induction l generalizing used with
  | nil => rfl
  | cons base l ih => rw [uniqueAll, List.length_cons, List.length_cons, ih]

/-- Every name of the list is made unique by a number or by nothing. -/
theorem forall₂_uniqueAll (used l : List String) :
    List.Forall₂ (fun base name => ∃ n, name = candidate base n) l (uniqueAll used l) := by
  induction l generalizing used with
  | nil => exact .nil
  | cons base l ih =>
      obtain ⟨n, hn, -⟩ := exists_candidate used base
      exact .cons ⟨n, hn⟩ (ih _)

theorem mem_uniqueAll {used l : List String} {name : String} (h : name ∈ uniqueAll used l) :
    ∃ base ∈ l, ∃ n, name = candidate base n := by
  obtain ⟨base, hbase, hname⟩ := Outcome.exists_left_of_forall₂ (forall₂_uniqueAll used l) h
  exact ⟨base, hbase, hname⟩

/-- A name that is free is given as it is. -/
theorem unique_of_not_mem {used : List String} {base : String} (h : base ∉ used) :
    unique used base = base := by
  rw [unique, List.range_succ_eq_map, List.map_cons, List.find?_cons_of_pos]
  · rfl
  · rw [Bool.not_eq_true', ← Bool.not_eq_true, List.contains_iff_mem]
    exact h

/-- What is wanted is among the names, unless it was taken before. -/
theorem mem_uniqueAll_of_mem {used l : List String} {base : String} (h : base ∈ l)
    (hfree : base ∉ used) : base ∈ uniqueAll used l := by
  induction l generalizing used with
  | nil => cases h
  | cons wanted l ih =>
      rw [uniqueAll, List.mem_cons]
      by_cases hname : base = unique used wanted
      · exact .inl hname
      · rcases List.mem_cons.mp h with rfl | h
        · exact absurd (unique_of_not_mem hfree).symm hname
        · exact .inr (ih h fun hused => (List.mem_cons.mp hused).elim hname hfree)

theorem slash_not_mem_candidate {base : String} (h : '/' ∉ base.toList) (n : Nat) :
    '/' ∉ (candidate base n).toList := by
  cases n with
  | zero => exact h
  | succ n =>
      rw [candidate, String.toList_append, List.mem_append]
      rintro (hbase | hnumber)
      · exact h hbase
      · exact absurd (isDigit_of_mem_toString hnumber) (by decide)

/-- A text that does not end in a digit is no name with a number. -/
theorem candidate_succ_ne {base name : String} {n : Nat}
    (h : name.toList.getLast?.any Char.isDigit = false) : candidate base (n + 1) ≠ name := by
  rintro rfl
  have hne := toList_toString_ne_nil (n + 2)
  have hdigit := isDigit_of_mem_toString (List.getLast_mem hne)
  rw [candidate, String.toList_append, List.getLast?_append_of_ne_nil _ hne,
    List.getLast?_eq_some_getLast hne, Option.any_some, hdigit] at h
  cases h

/-- Names that end in no digit are not made up by a number. -/
theorem candidate_not_mem {names : List String} {base : String}
    (hnames : ∀ name ∈ names, name.toList.getLast?.any Char.isDigit = false)
    (h : base ∉ names) (n : Nat) : candidate base n ∉ names := by
  cases n with
  | zero => exact h
  | succ n => exact fun hmem => candidate_succ_ne (hnames _ hmem) rfl

theorem candidate_ne_mod {base : String} (h : base ≠ "mod") (n : Nat) :
    candidate base n ≠ "mod" := by
  cases n with
  | zero => exact h
  | succ n => exact candidate_succ_ne (by decide)

end Naming

end Clientwright
