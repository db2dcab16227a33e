import Clientwright.Proofs.CommentLines
import Clientwright.Proofs.TextPieces

/-!
# What a substitution leaves of a text

A substitution goes over a text match by match: a character at which the rule finds nothing
stays, and a match gives way to its image. So every character of the result is one of the text
or one of an image, and a word that shares no character with the images stands in the result
only where it stood in the text. The word that is replaced stands there no more.
-/

namespace Clientwright.Text

variable {rule : List Char → Option (List Char × Nat)} {word image w s t : List Char}
  {c : Char} {n : Nat}

/-! ## Words in a text -/

/-- A word without the character stands in front of it or behind it. -/
theorem infix_append_cons (hc : c ∉ w) : w <:+: s ++ c :: t ↔ w <:+: s ∨ w <:+: t := by
  induction s with
  | nil =>
      have hfront : w <+: c :: t ↔ w <+: [] := Comment.prefix_append_cons (s := []) hc
      rw [List.nil_append, List.infix_cons_iff, hfront, List.prefix_nil, List.infix_nil]
  | cons d s ih =>
      have hfront : w <+: d :: (s ++ c :: t) ↔ w <+: d :: s :=
        Comment.prefix_append_cons (s := d :: s) hc
      rw [List.cons_append, List.infix_cons_iff, hfront, ih, ← or_assoc, ← List.infix_cons_iff]

theorem infix_append_of_disjoint (hne : w ≠ []) (hs : ∀ c ∈ s, c ∉ w) (h : w <:+: s ++ t) :
    w <:+: t := by
  induction s with
  | nil => exact h
  | cons c s ih =>
      obtain ⟨hc, hs⟩ := List.forall_mem_cons.mp hs
      rcases (infix_append_cons (s := []) hc).mp h with h | h
      · exact absurd (List.infix_nil.mp h) hne
      · exact ih hs h

theorem pair_infix_cons {a b : Char} :
    [a, b] <:+: c :: s ↔ (c = a ∧ b ∈ s.head?) ∨ [a, b] <:+: s := by
  rw [List.infix_cons_iff, List.cons_prefix_cons, List.singleton_prefix_iff_head?_eq_some,
    eq_comm (a := a), Option.mem_def]

theorem pair_infix_append {a b : Char} : [a, b] <:+: s ++ t ↔
    [a, b] <:+: s ∨ [a, b] <:+: t ∨ (a ∈ s.getLast? ∧ b ∈ t.head?) := by
  induction s with
  | nil => simp
  | cons c s ih =>
      rw [List.cons_append, List.infix_cons_iff, ih, List.infix_cons_iff, List.cons_prefix_cons,
        List.cons_prefix_cons]
      cases s with
      | nil =>
          cases t with
          | nil => simp
          | cons e t =>
              simp [List.cons_prefix_cons]
              tauto
      | cons d s => simp [List.cons_prefix_cons, or_assoc]

/-! ## From match to match -/

theorem substituteFrom_eq (n : Nat) (s : List Char) :
    substituteFrom rule n s = substitute rule (s.drop n) := by
  induction n generalizing s with
  | zero => rfl
  | succ n ih =>
      cases s with
      | nil => rfl
      | cons c s => exact ih s

theorem substitute_of_none (h : rule (c :: s) = none) :
    substitute rule (c :: s) = c :: substitute rule s := by
  rw [substitute, substituteFrom, h, substitute]

theorem substitute_of_some (h : rule (c :: s) = some (image, n)) :
    substitute rule (c :: s) = image ++ substitute rule (s.drop n) := by
  rw [substitute, substituteFrom, h, ← substituteFrom_eq]

/-- Induction along a substitution: a character at a time where nothing is found, and from a
match to what stands behind it. -/
theorem substitute_induction (rule : List Char → Option (List Char × Nat))
    {motive : List Char → Prop} (nil : motive [])
    (kept : ∀ c s, rule (c :: s) = none → motive s → motive (c :: s))
    (replaced : ∀ c s image n, rule (c :: s) = some (image, n) → motive (s.drop n) →
      motive (c :: s)) (s : List Char) : motive s := by
  induction hlen : s.length using Nat.strong_induction_on generalizing s with
  | h k ih =>
      cases s with
      | nil => exact nil
      | cons c s =>
          rw [List.length_cons] at hlen
          cases hrule : rule (c :: s) with
          | none => exact kept c s hrule (ih s.length (by omega) s rfl)
          | some found =>
              have hdrop : (s.drop found.2).length ≤ s.length := (List.drop_suffix _ s).length_le
              exact replaced c s found.1 found.2 hrule (ih _ (by omega) _ rfl)

theorem mem_substitute (h : c ∈ substitute rule s) :
    (∃ t, c :: t <:+ s ∧ rule (c :: t) = none) ∨
      ∃ t image n, t <:+ s ∧ rule t = some (image, n) ∧ c ∈ image := by
  induction s using substitute_induction rule with
  | nil => cases h
  | kept d s hrule ih =>
      rw [substitute_of_none hrule] at h
      rcases List.mem_cons.mp h with rfl | h
      · exact .inl ⟨s, List.suffix_refl _, hrule⟩
      · rcases ih h with ⟨t, ht, hnone⟩ | ⟨t, image, n, ht, hfound⟩
        · exact .inl ⟨t, ht.trans (List.suffix_cons d s), hnone⟩
        · exact .inr ⟨t, image, n, ht.trans (List.suffix_cons d s), hfound⟩
  | replaced d s image n hrule ih =>
      have hback : s.drop n <:+ d :: s := (List.drop_suffix n s).trans (List.suffix_cons d s)
      rw [substitute_of_some hrule] at h
      rcases List.mem_append.mp h with h | h
      · exact .inr ⟨d :: s, image, n, List.suffix_refl _, hrule, h⟩
      · rcases ih h with ⟨t, ht, hnone⟩ | ⟨t, image, n, ht, hfound⟩
        · exact .inl ⟨t, ht.trans hback, hnone⟩
        · exact .inr ⟨t, image, n, ht.trans hback, hfound⟩

/-! ## Words that are replaced -/

/-- What `replaceWord` looks for. -/
def wordRule (word image : List Char) (s : List Char) : Option (List Char × Nat) :=
  (dropStart? word s).map fun _ => (image, word.length - 1)

theorem replaceWord_eq (word image s : List Char) :
    replaceWord word image s = substitute (wordRule word image) s := rfl

theorem wordRule_eq_none_iff : wordRule word image s = none ↔ ¬ word <+: s := by
  rw [wordRule, Option.map_eq_none_iff, Option.eq_none_iff_forall_ne_some]
  refine ⟨fun h ⟨rest, hrest⟩ => h rest (dropStart?_eq_some_iff.mpr hrest.symm), ?_⟩
  exact fun h rest hrest => h ⟨rest, (dropStart?_eq_some_iff.mp hrest).symm⟩

theorem image_of_wordRule {found : List Char} (h : wordRule word image s = some (found, n)) :
    found = image := by
  obtain ⟨rest, -, hfound⟩ := Option.map_eq_some_iff.mp h
  exact (Prod.mk.inj hfound).1.symm

theorem mem_replaceWord (h : c ∈ replaceWord word image s) : c ∈ s ∨ c ∈ image := by
  rw [replaceWord_eq] at h
  rcases mem_substitute h with ⟨t, ht, -⟩ | ⟨t, found, n, -, hfound, hc⟩
  · exact .inl (ht.subset List.mem_cons_self)
  · exact .inr (image_of_wordRule hfound ▸ hc)

/-- What starts the new text and shares nothing with the image started the old one. -/
theorem prefix_of_prefix_replaceWord (himage : image ≠ []) (hw : ∀ c ∈ image, c ∉ w)
    (h : w <+: replaceWord word image s) : w <+: s := by
  rw [replaceWord_eq] at h
  induction s using substitute_induction (wordRule word image) generalizing w with
  | nil => exact h
  | kept c s hrule ih =>
      rw [substitute_of_none hrule] at h
      cases w with
      | nil => exact List.nil_prefix
      | cons d w =>
          obtain ⟨rfl, hrest⟩ := List.cons_prefix_cons.mp h
          exact List.cons_prefix_cons.mpr
            ⟨rfl, ih (fun c hc => List.not_mem_of_not_mem_cons (hw c hc)) hrest⟩
  | replaced c s found n hrule ih =>
      rw [substitute_of_some hrule] at h
      obtain rfl := image_of_wordRule hrule
      cases w with
      | nil => exact List.nil_prefix
      | cons d w =>
          obtain ⟨e, found, rfl⟩ := List.exists_cons_of_ne_nil himage
          obtain ⟨rfl, -⟩ := List.cons_prefix_cons.mp h
          exact absurd List.mem_cons_self (hw d List.mem_cons_self)

/-- A word that shares nothing with the image stands where it stood. -/
theorem infix_of_infix_replaceWord (himage : image ≠ []) (hne : w ≠ [])
    (hw : ∀ c ∈ image, c ∉ w) (h : w <:+: replaceWord word image s) : w <:+: s := by
  rw [replaceWord_eq] at h
  induction s using substitute_induction (wordRule word image) with
  | nil => exact h
  | kept c s hrule ih =>
      have hstart : w <+: substitute (wordRule word image) (c :: s) → w <+: c :: s :=
        prefix_of_prefix_replaceWord himage hw
      rw [substitute_of_none hrule] at h hstart
      rcases List.infix_cons_iff.mp h with h | h
      · exact (hstart h).isInfix
      · exact (ih h).trans (List.suffix_cons c s).isInfix
  | replaced c s found n hrule ih =>
      rw [substitute_of_some hrule] at h
      obtain rfl := image_of_wordRule hrule
      have hback : s.drop n <:+ c :: s := (List.drop_suffix n s).trans (List.suffix_cons c s)
      exact (ih (infix_append_of_disjoint hne hw h)).trans hback.isInfix

/-- And the word that is replaced stands nowhere. -/
theorem not_infix_replaceWord (himage : image ≠ []) (hne : word ≠ [])
    (hword : ∀ c ∈ image, c ∉ word) (s : List Char) : ¬ word <:+: replaceWord word image s := by
  rw [replaceWord_eq]
  induction s using substitute_induction (wordRule word image) with
  | nil => exact fun h => hne (List.infix_nil.mp h)
  | kept c s hrule ih =>
      have hstart : word <+: substitute (wordRule word image) (c :: s) → word <+: c :: s :=
        prefix_of_prefix_replaceWord himage hword
      rw [substitute_of_none hrule] at hstart ⊢
      intro h
      rcases List.infix_cons_iff.mp h with h | h
      · exact wordRule_eq_none_iff.mp hrule (hstart h)
      · exact ih h
  | replaced c s found n hrule ih =>
      rw [substitute_of_some hrule]
      obtain rfl := image_of_wordRule hrule
      exact fun h => ih (infix_append_of_disjoint hne hword h)

theorem replaceWord_ne_nil (himage : image ≠ []) (hs : s ≠ []) :
    replaceWord word image s ≠ [] := by
  obtain ⟨c, s, rfl⟩ := List.exists_cons_of_ne_nil hs
  rw [replaceWord_eq]
  cases hrule : wordRule word image (c :: s) with
  | none =>
      rw [substitute_of_none hrule]
      exact List.cons_ne_nil _ _
  | some found =>
      obtain rfl := image_of_wordRule (n := found.2) hrule
      rw [substitute_of_some (n := found.2) hrule]
      exact List.append_ne_nil_of_left_ne_nil himage _

/-- The new text ends as the image or as the old one. -/
theorem getLast?_replaceWord (himage : image ≠ []) :
    ∀ c ∈ (replaceWord word image s).getLast?, c ∈ image.getLast? ∨ c ∈ s.getLast? := by
  rw [replaceWord_eq]
  induction s using substitute_induction (wordRule word image) with
  | nil => exact fun c hc => .inr hc
  | kept d s hrule ih =>
      intro c hc
      rw [substitute_of_none hrule] at hc
      cases s with
      | nil => exact .inr hc
      | cons e s =>
          have hne : substitute (wordRule word image) (e :: s) ≠ [] :=
            replaceWord_ne_nil himage (List.cons_ne_nil e s)
          rw [List.getLast?_cons_of_ne_nil hne] at hc
          exact ih c hc
  | replaced d s found n hrule ih =>
      intro c hc
      rw [substitute_of_some hrule] at hc
      obtain rfl := image_of_wordRule hrule
      rw [List.getLast?_append] at hc
      rcases Option.or_eq_some_iff.mp hc with hc | ⟨-, hc⟩
      · refine (ih c hc).imp_right fun hc => ?_
        rw [Option.mem_def, List.getLast?_drop] at hc
        split at hc
        · cases hc
        · have hne : s ≠ [] := by
            rintro rfl
            cases hc
          rw [List.getLast?_cons_of_ne_nil hne]
          exact hc
      · exact .inl hc

end Clientwright.Text
