import Clientwright.Proofs.JsonText
import Clientwright.Proofs.SelectorTexts

/-!
# The one spelling of a selector

Many texts are read as one selector: there may be blanks around the pieces and
between brackets, all items are `[]` or `[*]`, and a number may have a plus and
zeros before it. A selector is printed in one of these spellings, and it is the
one with nothing in it that could be left out.

The spelling is the grammar again, with less allowed between brackets (`Spelled`),
so a spelled path is a path. That printing gives it, and nothing else is it, are
one induction on paths each. What is left is to find the pieces again that were
joined. No spelled path holds a bar or a blank, so the bars and blanks in the text
are those of the joints.
-/

namespace Clientwright

open Outcome

namespace Text

variable {c : Char} {s t : List Char}

/-! ## Trimming -/

set_option maxRecDepth 10000 in
/-- No range of letters and numbers meets one of blanks. -/
theorem blankRanges_apart : (blankRanges.all fun r => alphanumericRanges.all fun q =>
    decide (r.2 < q.1) || decide (q.2 < r.1)) = true := by
  decide

theorem toNat_of_isAlphanum (h : c.isAlphanum = true) : 0x30 ≤ c.toNat := by
  have hnone : ∀ n < 0x30, (Char.ofNat n).isAlphanum = false := by decide
  by_contra hlow
  have hc := hnone c.toNat (Nat.lt_of_not_le hlow)
  rw [Char.ofNat_toNat, h] at hc
  cases hc

theorem isAlphanumeric_of_isBlank (h : isBlank c = true) : isAlphanumeric c = false := by
  obtain ⟨r, hr, hlow, hhigh⟩ := inRanges_iff.mp h
  rw [isAlphanumeric, Bool.eq_false_iff]
  split
  next hascii =>
    intro hletter
    have hranges : ∀ r ∈ blankRanges, r.1 < 0x80 → r.2 ≤ 0x20 := by decide
    have hblank := hranges r hr (Nat.lt_of_le_of_lt hlow hascii)
    have hchar := toNat_of_isAlphanum hletter
    omega
  next =>
    intro hletter
    obtain ⟨q, hq, hlow', hhigh'⟩ := inRanges_iff.mp hletter
    have hapart := List.all_eq_true.mp (List.all_eq_true.mp blankRanges_apart r hr) q hq
    rw [Bool.or_eq_true, decide_eq_true_eq, decide_eq_true_eq] at hapart
    omega

theorem dropWhile_isBlank (h : ∀ c ∈ s, isBlank c = false) (hne : s ≠ []) :
    (s ++ t).dropWhile isBlank = s ++ t := by
  cases s with
  | nil => exact absurd rfl hne
  | cons c s =>
      have hc := h c List.mem_cons_self
      rw [List.cons_append, List.dropWhile_cons_of_neg (by rw [hc]; exact Bool.false_ne_true)]

/-- Blanks around a text without blanks are what trimming takes away. -/
theorem trim_padded (before after : List Char) (hs : ∀ c ∈ s, isBlank c = false) (hne : s ≠ [])
    (hbefore : ∀ c ∈ before, isBlank c = true) (hafter : ∀ c ∈ after, isBlank c = true) :
    trim (before ++ (s ++ after)) = s := by
  have hreverse : ∀ c ∈ s.reverse, isBlank c = false := fun c hc => hs c (List.mem_reverse.mp hc)
  have hend := dropWhile_isBlank (t := []) hreverse (mt List.reverse_eq_nil_iff.mp hne)
  rw [List.append_nil] at hend
  rw [trim, List.dropWhile_append_of_pos hbefore, dropWhile_isBlank hs hne, trimEnd,
    List.reverse_append, List.dropWhile_append_of_pos fun c hc => hafter c (List.mem_reverse.mp hc),
    hend, List.reverse_reverse]

theorem trim_solid (h : ∀ c ∈ s, isBlank c = false) : trim s = s := by
  cases s with
  | nil => rfl
  | cons c s =>
      have htrim := trim_padded [] [] h (List.cons_ne_nil c s) nofun nofun
      rw [List.nil_append, List.append_nil] at htrim
      exact htrim

end Text

namespace Selector

variable {B B' : List Char → Step → Prop} {s inner : List Char} {steps : List Step} {step : Step}
  {c : Char} {texts pieces : List (List Char)} {alternatives : List (List Step)}

/-! ## The spelling -/

/-- What stands between brackets in the one spelling. -/
inductive Spelled : List Char → Step → Prop where
  | project : Spelled [] .project
  | index {n : Int} : fitsInt64 n = true → Spelled (toString n).toList (.index n)

/-- The text is in the one spelling: spelled paths, with a bar and blanks between them. -/
def Normal (text : String) : Prop :=
  ∃ pieces alternatives, pieces ≠ [] ∧ List.Forall₂ (Path Spelled) pieces alternatives ∧
    text.toList = " || ".toList.intercalate pieces

theorem Path.mono (hB : ∀ inner step, B inner step → B' inner step) (h : Path B s steps) :
    Path B' s steps := by
  induction h with
  | name hs => exact .name hs
  | field _ ht ih => exact .field ih ht
  | bracket _ hinner hstep ih => exact .bracket ih hinner (hB _ _ hstep)

/-- Other brackets for the same steps make another text for the same path. -/
theorem Path.exists_of (hB : ∀ inner step, B inner step → ∃ inner', ']' ∉ inner' ∧ B' inner' step)
    (h : Path B s steps) : ∃ s', Path B' s' steps := by
  induction h with
  | name hs => exact ⟨_, .name hs⟩
  | field _ ht ih =>
      obtain ⟨s', hs'⟩ := ih
      exact ⟨_, .field hs' ht⟩
  | bracket _ _ hstep ih =>
      obtain ⟨s', hs'⟩ := ih
      obtain ⟨inner', hinner', hstep'⟩ := hB _ _ hstep
      exact ⟨_, .bracket hs' hinner' hstep'⟩

/-! ## Numbers -/

theorem isDigits_toDigits (n : Nat) : IsDigits (Nat.toDigits 10 n) :=
  ⟨Nat.toDigits_ne_nil, Json.isDigit_of_mem_toDigits⟩

theorem decimal_toString (n : Int) : Decimal (toString n).toList n := by
  cases n with
  | ofNat n =>
      have h := Decimal.plain (isDigits_toDigits n)
      rw [Nat.ofDigitChars_ten_toDigits] at h
      rw [Json.toList_toString_ofNat]
      exact h
  | negSucc n =>
      have h := Decimal.minus (isDigits_toDigits (n + 1))
      rw [Nat.ofDigitChars_ten_toDigits] at h
      rw [Json.toList_toString_negSucc]
      exact h

theorem mem_decimal {n : Int} (h : Decimal s n) (hc : c ∈ s) :
    c.isDigit = true ∨ c = '+' ∨ c = '-' := by
  cases h with
  | plain hs => exact .inl (hs.2 c hc)
  | plus hs =>
      rcases List.mem_cons.mp hc with rfl | hc
      · exact .inr (.inl rfl)
      · exact .inl (hs.2 c hc)
  | minus hs =>
      rcases List.mem_cons.mp hc with rfl | hc
      · exact .inr (.inr rfl)
      · exact .inl (hs.2 c hc)

/-! ## Characters of spelled paths -/

/-- Neither a blank nor a bar. -/
def IsSolid (c : Char) : Prop := Text.isBlank c = false ∧ c ≠ '|'

theorem isSolid_of_isNameChar (h : isNameChar c = true) : IsSolid c := by
  constructor
  · rw [Bool.eq_false_iff]
    intro hblank
    rw [isNameChar, Text.isAlphanumeric_of_isBlank hblank, Bool.false_or, decide_eq_true_eq] at h
    subst h
    revert hblank
    decide
  · rintro rfl
    revert h
    decide

theorem isNameChar_of_isDigit (h : c.isDigit = true) : isNameChar c = true := by
  have hle : c.toNat < 0x80 := by
    simp only [Char.isDigit, Bool.and_eq_true, decide_eq_true_eq, UInt32.le_iff_toNat_le] at h
    have htoNat : c.toNat = c.val.toNat := rfl
    simp at h
    omega
  rw [isNameChar, Text.isAlphanumeric_of_ascii hle, Char.isAlphanum, h, Bool.or_true, Bool.true_or]

theorem mem_spelled (h : Spelled inner step) (hc : c ∈ inner) : IsSolid c ∧ c ≠ ']' := by
  cases h with
  | project => cases hc
  | @index n _ =>
      rcases mem_decimal (decimal_toString n) hc with hdigit | rfl | rfl
      · have hname := isNameChar_of_isDigit hdigit
        refine ⟨isSolid_of_isNameChar hname, ?_⟩
        rintro rfl
        rw [isNameChar_closing] at hname
        cases hname
      · exact ⟨⟨rfl, by decide⟩, by decide⟩
      · exact ⟨⟨rfl, by decide⟩, by decide⟩

theorem isSolid_of_mem (h : Path Spelled s steps) : ∀ c ∈ s, IsSolid c := by
  induction h with
  | name hs => exact fun c hc => isSolid_of_isNameChar (hs.2 c hc)
  | field _ ht ih =>
      rw [List.forall_mem_append, List.forall_mem_cons]
      exact ⟨ih, ⟨rfl, by decide⟩, fun c hc => isSolid_of_isNameChar (ht.2 c hc)⟩
  | bracket _ _ hstep ih =>
      rw [List.forall_mem_append, List.forall_mem_cons, List.forall_mem_append,
        List.forall_mem_singleton]
      exact ⟨ih, ⟨rfl, by decide⟩, fun c hc => (mem_spelled hstep hc).1, ⟨rfl, by decide⟩⟩

theorem bracket_of_spelled (h : Spelled inner step) : Bracket inner step := by
  have htrim := Text.trim_solid fun c hc => (mem_spelled h hc).1.1
  cases h with
  | project => exact .blank htrim
  | @index n hn =>
      have hdecimal := decimal_toString n
      rw [← htrim] at hdecimal
      exact .index hdecimal hn

theorem exists_spelled_bracket (h : Bracket inner step) :
    ∃ inner', ']' ∉ inner' ∧ Spelled inner' step := by
  have hspelled : ∃ inner', Spelled inner' step := by
    cases h with
    | blank => exact ⟨_, .project⟩
    | star => exact ⟨_, .project⟩
    | index _ hn => exact ⟨_, .index hn⟩
  obtain ⟨inner', hinner'⟩ := hspelled
  exact ⟨inner', fun hmem => (mem_spelled hinner' hmem).2 rfl, hinner'⟩

/-! ## What is printed -/

theorem stepsText_concat (h : steps ≠ []) :
    stepsText (steps ++ [step]) = stepsText steps ++ stepText false step := by
  cases steps with
  | nil => exact absurd rfl h
  | cons first steps =>
      rw [List.cons_append, stepsText, stepsText, List.map_append, String.join_append,
        String.append_assoc, List.map_singleton, String.join_cons, String.join_nil,
        String.append_empty]

/-- A spelled path is what is printed for its steps. -/
theorem Path.text_eq (h : Path Spelled s steps) : (stepsText steps).toList = s := by
  induction h with
  | @name s _ =>
      rw [stepsText, List.map_nil, String.join_nil, String.append_empty, stepText, if_pos rfl,
        String.toList_ofList]
  | @field s t steps hpath _ ih =>
      rw [stepsText_concat hpath.steps_ne_nil, String.toList_append, ih, stepText,
        if_neg Bool.false_ne_true, String.toList_append]
      show s ++ '.' :: (String.ofList t).toList = s ++ '.' :: t
      rw [String.toList_ofList]
  | @bracket s inner steps step hpath _ hstep ih =>
      rw [stepsText_concat hpath.steps_ne_nil, String.toList_append, ih]
      cases hstep with
      | project => rfl
      | index =>
          rw [stepText, String.toList_append, String.toList_append, List.append_assoc]
          rfl

theorem spelled_of_alternative (h : Alternative s steps) :
    Path Spelled (stepsText steps).toList steps := by
  obtain ⟨s', hs'⟩ := h.exists_of fun inner step hstep => exists_spelled_bracket hstep
  rw [hs'.text_eq]
  exact hs'

theorem text_of_spelled (h : List.Forall₂ (Path Spelled) pieces alternatives) :
    (text ⟨alternatives⟩).toList = " || ".toList.intercalate pieces := by
  have hpieces : alternatives.map (fun steps => (stepsText steps).toList) = pieces := by
    rw [← List.forall₂_eq_eq_eq, List.forall₂_map_left_iff]
    exact h.flip.imp fun _ _ hpath => hpath.text_eq
  rw [text, String.toList_intercalate, List.map_map]
  exact congrArg _ hpieces

/-! ## What is read of it -/

theorem no_bars_of_count (h : s.count '|' ≤ 1) : ¬ ['|', '|'] <:+: s := by
  intro hbars
  have htwo : 2 ≤ s.count '|' := hbars.sublist.count_le '|'
  omega

/-- The pieces of texts that were joined are the texts with blanks around them. -/
theorem exists_cut {lead : List Char} (hlead : ∀ c ∈ lead, c = ' ') (hne : texts ≠ [])
    (h : ∀ t ∈ texts, t ≠ [] ∧ ∀ c ∈ t, IsSolid c) :
    ∃ pieces, Cut (lead ++ " || ".toList.intercalate texts) pieces ∧
      pieces.map Text.trim = texts := by
  -- The blank behind a joint is in the piece after it, so all but the first piece have a lead.
  induction texts generalizing lead with
  | nil => exact absurd rfl hne
  | cons t texts ih =>
      obtain ⟨⟨htne, ht⟩, htexts⟩ := List.forall_mem_cons.mp h
      have hblank : ∀ c ∈ lead, Text.isBlank c = true := fun c hc => hlead c hc ▸ rfl
      have hsolid : ∀ c ∈ t, Text.isBlank c = false := fun c hc => (ht c hc).1
      have hcount : (lead ++ t).count '|' = 0 := by
        rw [List.count_eq_zero, List.mem_append, not_or]
        exact ⟨fun hmem => absurd (hlead _ hmem) (by decide), fun hmem => (ht _ hmem).2 rfl⟩
      cases texts with
      | nil =>
          have htrim := Text.trim_padded lead [] hsolid htne hblank nofun
          rw [List.append_nil] at htrim
          rw [List.intercalate_singleton]
          refine ⟨[lead ++ t], .last (no_bars_of_count ?_), congrArg ([·]) htrim⟩
          omega
      | cons u texts =>
          have hspace : ∀ c ∈ [' '], c = ' ' := List.forall_mem_singleton.mpr rfl
          obtain ⟨pieces, hcut, hpieces⟩ := ih hspace (List.cons_ne_nil _ _) htexts
          have htrim := Text.trim_padded lead [' '] hsolid htne hblank
            (List.forall_mem_singleton.mpr rfl)
          have htext : lead ++ " || ".toList.intercalate (t :: u :: texts) =
              lead ++ t ++ [' '] ++
                '|' :: '|' :: ([' '] ++ " || ".toList.intercalate (u :: texts)) := by
            rw [List.intercalate_cons_cons]
            simp
          rw [htext]
          refine ⟨(lead ++ t ++ [' ']) :: pieces, .bars (no_bars_of_count ?_) hcut, ?_⟩
          · rw [List.append_assoc, List.count_append, hcount]
            decide
          · rw [List.map_cons, hpieces, List.append_assoc, htrim]

theorem parse_spelled (h : List.Forall₂ (Path Spelled) pieces alternatives) (hne : pieces ≠ [])
    {t : String} (ht : t.toList = " || ".toList.intercalate pieces) :
    parse t = .ok ⟨alternatives⟩ := by
  have hsolid : ∀ piece ∈ pieces, piece ≠ [] ∧ ∀ c ∈ piece, IsSolid c := by
    intro piece hpiece
    obtain ⟨steps, -, hpath⟩ := exists_right_of_forall₂ h hpiece
    exact ⟨hpath.ne_nil, isSolid_of_mem hpath⟩
  obtain ⟨cut, hcut, htrim⟩ := exists_cut (List.forall_mem_nil _) hne hsolid
  rw [List.nil_append, ← ht] at hcut
  rw [parse_eq_ok, ← cut_iff.mp hcut]
  rw [← htrim, List.forall₂_map_left_iff] at h
  exact h.imp fun _ _ hpath => hpath.mono fun _ _ => bracket_of_spelled

variable {text : String} {e : Selector}

/-- What is printed for a selector that was read. -/
theorem exists_spelled (h : parse text = .ok e) :
    ∃ pieces, pieces ≠ [] ∧ List.Forall₂ (Path Spelled) pieces e.alternatives ∧
      e.text.toList = " || ".toList.intercalate pieces := by
  have hspelled : List.Forall₂ (Path Spelled)
      (e.alternatives.map fun steps => (stepsText steps).toList) e.alternatives := by
    rw [List.forall₂_map_left_iff, List.forall₂_same]
    intro steps hsteps
    obtain ⟨piece, hpath⟩ := exists_alternative h hsteps
    exact spelled_of_alternative hpath
  exact ⟨_, mt List.map_eq_nil_iff.mp (alternatives_ne_nil h), hspelled, text_of_spelled hspelled⟩

theorem parse_printed (h : parse text = .ok e) : parse e.text = .ok e := by
  obtain ⟨pieces, hne, hspelled, htext⟩ := exists_spelled h
  exact parse_spelled hspelled hne htext

/-- A selector that was read is read again from what is printed for it. This is the one
text in the one spelling that is read as the selector, and no other selector that can be
read is printed so. -/
theorem parse_text (h : parse text = .ok e) :
    parse e.text = .ok e ∧ (∀ t, Normal t ∧ parse t = .ok e ↔ t = e.text) ∧
      ∀ t e', parse t = .ok e' → e'.text = e.text → e' = e := by
  refine ⟨parse_printed h, fun t => ⟨?_, ?_⟩, fun t e' ht heq => ?_⟩
  · rintro ⟨⟨pieces, alternatives, hne, hspelled, htext⟩, ht⟩
    obtain rfl := Except.ok.inj ((parse_spelled hspelled hne htext).symm.trans ht)
    exact String.toList_injective (htext.trans (text_of_spelled hspelled).symm)
  · rintro rfl
    obtain ⟨pieces, hne, hspelled, htext⟩ := exists_spelled h
    exact ⟨⟨pieces, _, hne, hspelled, htext⟩, parse_printed h⟩
  · have hread := parse_printed ht
    rw [heq, parse_printed h] at hread
    exact (Except.ok.inj hread).symm

/-- Blanks, a star, a plus and zeros are not printed, and the least number is. -/
theorem parse_text_skies :
    ∃ e, parse " Skies[ * ].Hue||Sun[+007] ||_[ -09223372036854775808]\n" = .ok e ∧
      e.text = "Skies[].Hue || Sun[7] || _[-9223372036854775808]" ∧
        parse e.text = .ok e ∧ (∀ t, Normal t ∧ parse t = .ok e ↔ t = e.text) ∧
          ∀ t e', parse t = .ok e' → e'.text = e.text → e' = e := by
  have h : parse " Skies[ * ].Hue||Sun[+007] ||_[ -09223372036854775808]\n" =
      .ok ⟨[[.field "Skies", .project, .field "Hue"], [.field "Sun", .index 7],
        [.field "_", .index (-0x8000000000000000)]]⟩ := by decide
  exact ⟨_, h, by decide, parse_text h⟩

end Selector

end Clientwright
