import Clientwright.Proofs.EnumRuns
import Clientwright.Proofs.Identifiers

/-!
# Names of variants

The name of a variant is made of the words of a value, each with a capital and the
rest of it in lower case. What has no words is called `Empty`, what begins with a digit
gets a `V`, and so the name is a capital with letters and digits behind it, whatever
the value is. Such a name is an identifier, but for one: `Self`.

Which values come to this name can be told from their letters and digits. A second
word would bring a second capital, so there is one word only and it spells `self`;
and it is one word in three of its spellings. In all others the case changes where
words are cut, and something like `SElf` becomes `SElf` again and no keyword.
`variants_declarable_iff` puts this together over all values of an enumerated text.
-/

namespace Clientwright

open Text

variable {s t p : List Char} {c : Char}

namespace Text

/-! ## Case -/

theorem lowerAfter_of_isAscii (before : List Char) (h : IsAscii s) :
    lowerAfter before s = s.map Char.toLower := by
  induction s generalizing before with
  | nil => rfl
  | cons c s ih =>
      obtain ⟨hc, hs⟩ := isAscii_cons.mp h
      have hsigma : c ≠ 'Σ' := by
        rintro rfl
        exact absurd hc (by decide)
      rw [lowerAfter, if_neg hsigma, lowerChar, if_pos hc, ih _ hs, List.map_cons,
        List.singleton_append]

end Text

namespace Naming

/-! ## Words with capitals -/

/-- A word of letters and digits of ASCII. -/
structure IsPlainWord (w : List Char) : Prop where
  nonempty : w ≠ []
  ascii : IsAscii w
  alphanumeric : ∀ c ∈ w, c.isAlphanum = true

theorem capitalWord_cons (h : IsAscii (c :: s)) :
    capitalWord (c :: s) = c.toUpper :: s.map Char.toLower := by
  obtain ⟨hc, hs⟩ := isAscii_cons.mp h
  rw [capitalWord, upperChar_of_ascii hc, lower, lowerAfter_of_isAscii [] hs,
    List.singleton_append]

theorem cut_iff (hc : c.toNat < 0x80) : (!isAlphanumeric c) = true ↔ c.isAlphanum = false := by
  rw [isAlphanumeric_of_ascii hc, Bool.not_eq_true']

theorem isPlainWord_of_mem_pieces (h : IsAscii s)
    (hp : p ∈ pieces (fun c => !isAlphanumeric c) s) : IsPlainWord p := by
  have hascii : IsAscii p :=
    fun c hc => h c (mem_of_mem_splitAt (List.mem_of_mem_filter hp) hc)
  refine ⟨ne_nil_of_mem_pieces hp, hascii, fun c hc => ?_⟩
  have huncut := not_cut_of_mem_splitAt (List.mem_of_mem_filter hp) hc
  rwa [Bool.not_eq_false', isAlphanumeric_of_ascii (hascii c hc)] at huncut

theorem isPlainWord_of_mem_words {w : List Char} (h : IsAscii p) (hw : w ∈ words p) :
    IsPlainWord w := by
  have hsnake : ∀ c ∈ w, isSnake c = true := fun c hc =>
    isSnake_of_mem_markWords h (mem_of_mem_splitAt (List.mem_of_mem_filter hw) hc)
  refine ⟨fun hnil => nil_not_mem_words (hnil ▸ hw), fun c hc => lt_of_isSnake (hsnake c hc),
    fun c hc => ?_⟩
  have hall : isSnake c = true → c ≠ '_' → c.isAlphanum = true :=
    ascii_cases (lt_of_isSnake (hsnake c hc)) (by decide)
  exact hall (hsnake c hc) (ne_underscore_of_mem_words hw hc)

theorem pascalWords_eq (s : List Char) : pascalWords s =
    if s.any isLowercase then (pieces (fun c => !isAlphanumeric c) s).flatMap words
    else pieces (fun c => !isAlphanumeric c) s := rfl

theorem isPlainWord_of_mem_pascalWords {w : List Char} (h : IsAscii s)
    (hw : w ∈ pascalWords s) : IsPlainWord w := by
  rw [pascalWords_eq] at hw
  split at hw
  next =>
    obtain ⟨p, hp, hw⟩ := List.mem_flatMap.mp hw
    exact isPlainWord_of_mem_words (isPlainWord_of_mem_pieces h hp).ascii hw
  next => exact isPlainWord_of_mem_pieces h hw

/-- A capital comes first, unless there is a digit. -/
theorem IsPlainWord.capital {w : List Char} (hw : IsPlainWord w) :
    ∃ first rest, capitalWord w = first :: rest ∧ first.isLower = false ∧
      first.isAlphanum = true ∧ rest.all Char.isAlphanum = true := by
  cases w with
  | nil => exact absurd rfl hw.nonempty
  | cons c s =>
      obtain ⟨hc, hs⟩ := isAscii_cons.mp hw.ascii
      obtain ⟨halpha, hrest⟩ := List.forall_mem_cons.mp hw.alphanumeric
      have hfirst : c.isAlphanum = true → c.toUpper.isLower = false ∧ c.toUpper.isAlphanum = true :=
        ascii_cases hc (by decide)
      refine ⟨_, _, capitalWord_cons hw.ascii, (hfirst halpha).1, (hfirst halpha).2, ?_⟩
      refine List.all_map ▸ List.all_eq_true.mpr fun d hd => ?_
      have hlower : d.isAlphanum = true → d.toLower.isAlphanum = true :=
        ascii_cases (hs d hd) (by decide)
      exact hlower (hrest d hd)

theorem toLower_toLower (hc : c.toNat < 0x80) : c.toLower.toLower = c.toLower :=
  ascii_cases hc (by decide)

theorem map_toLower_map_toLower (h : IsAscii s) :
    (s.map Char.toLower).map Char.toLower = s.map Char.toLower := by
  rw [List.map_map]
  exact List.map_congr_left fun c hc => toLower_toLower (h c hc)

/-- A word with a capital is the word but for its case. -/
theorem map_toLower_capitalWord {w : List Char} (h : IsAscii w) :
    (capitalWord w).map Char.toLower = w.map Char.toLower := by
  cases w with
  | nil => rfl
  | cons c s =>
      obtain ⟨hc, hs⟩ := isAscii_cons.mp h
      have hupper : c.toUpper.toLower = c.toLower := ascii_cases hc (by decide)
      rw [capitalWord_cons h, List.map_cons, List.map_cons, hupper, map_toLower_map_toLower hs]

/-! ## The keyword -/

/-- A second word would bring a capital into the middle. -/
theorem eq_singleton_of_flatMap_capitalWord {ws : List (List Char)}
    (hws : ∀ w ∈ ws, IsPlainWord w) (h : ws.flatMap capitalWord = "Self".toList) :
    ∃ w, ws = [w] ∧ w.map Char.toLower = "self".toList := by
  cases ws with
  | nil => cases h
  | cons w ws =>
      obtain ⟨hw, hws⟩ := List.forall_mem_cons.mp hws
      cases ws with
      | nil =>
          rw [List.flatMap_singleton] at h
          refine ⟨w, rfl, ?_⟩
          rw [← map_toLower_capitalWord hw.ascii, h]
          rfl
      | cons v ws =>
          obtain ⟨first, rest, hfirst, -⟩ := hw.capital
          obtain ⟨second, more, hsecond, hlower, -⟩ := (hws v List.mem_cons_self).capital
          rw [List.flatMap_cons, List.flatMap_cons, hfirst, hsecond] at h
          have htail : rest ++ second :: (more ++ ws.flatMap capitalWord) = "elf".toList :=
            (List.cons.inj h).2
          have hletters : "elf".toList.all Char.isLower = true := by decide
          have hupper := List.all_eq_true.mp hletters second
            (htail ▸ List.mem_append_right _ List.mem_cons_self)
          rw [hlower] at hupper
          cases hupper

theorem IsPlainWord.flatten_words (hp : IsPlainWord p) :
    (words p).flatten = p.map Char.toLower := by
  rw [Naming.flatten_words, filter_markWords none hp.ascii,
    List.filter_eq_self.mpr hp.alphanumeric]

theorem IsPlainWord.words_ne_nil (hp : IsPlainWord p) : words p ≠ [] := by
  intro hnil
  have hflatten := hp.flatten_words
  rw [hnil, List.flatten_nil, eq_comm, List.map_eq_nil_iff] at hflatten
  exact hp.nonempty hflatten

/-- Every piece has a word, so one word comes from one piece. -/
theorem exists_piece {w : List Char} (h : IsAscii s) (hw : pascalWords s = [w]) :
    ∃ p, pieces (fun c => !isAlphanumeric c) s = [p] ∧
      p.map Char.toLower = w.map Char.toLower := by
  have hplain : ∀ p ∈ pieces (fun c => !isAlphanumeric c) s, IsPlainWord p :=
    fun p => isPlainWord_of_mem_pieces h
  rw [pascalWords_eq] at hw
  split at hw
  next =>
    cases hpieces : pieces (fun c => !isAlphanumeric c) s with
    | nil =>
        rw [hpieces] at hw
        cases hw
    | cons p ps =>
        rw [hpieces] at hplain hw
        obtain ⟨hp, hps⟩ := List.forall_mem_cons.mp hplain
        rw [List.flatMap_cons] at hw
        rcases List.append_eq_singleton_iff.mp hw with ⟨hnil, -⟩ | ⟨hwords, hnone⟩
        · exact absurd hnil hp.words_ne_nil
        have hps : ps = [] := List.eq_nil_iff_forall_not_mem.mpr fun q hq =>
          (hps q hq).words_ne_nil (List.flatMap_eq_nil_iff.mp hnone q hq)
        have hflatten := hp.flatten_words
        rw [hwords, List.flatten_singleton] at hflatten
        exact ⟨p, by rw [hps], by rw [hflatten, map_toLower_map_toLower hp.ascii]⟩
  next => exact ⟨w, hw, rfl⟩

theorem mem_of_mem_sides {before after : List Char} (hc : c ∈ before ++ after) :
    c ∈ before ++ (p ++ after) :=
  ((List.sublist_append_right p after).append_left before).subset hc

/-- The words of a text with one piece are the words of the piece. -/
theorem pascalWords_of_piece (h : IsAscii s) (hp : pieces (fun c => !isAlphanumeric c) s = [p]) :
    pascalWords s = if p.any isLowercase then words p else [p] := by
  obtain ⟨-, -, before, after, rfl, hcuts⟩ := pieces_eq_singleton_iff.mp hp
  have hsides : ∀ c ∈ before ++ after, ¬ isLowercase c = true := by
    intro c hc
    have hascii := h c (mem_of_mem_sides hc)
    have hlower : c.isAlphanum = false → ¬ isLowercase c = true :=
      ascii_cases hascii (by decide)
    exact hlower ((cut_iff hascii).mp (hcuts c hc))
  obtain ⟨hbefore, hafter⟩ := List.forall_mem_append.mp hsides
  rw [← List.any_eq_false] at hbefore hafter
  rw [pascalWords_eq, hp, List.any_append, List.any_append, hbefore, hafter, Bool.false_or,
    Bool.or_false, List.flatMap_singleton]

/-- The ways to write the keyword that are one word. -/
def selfSpellings : List (List Char) := ["self", "Self", "SELF"].map String.toList

/-- The letters and digits of the text stand together, and they are the keyword. -/
def SpellsSelf (value : String) : Prop :=
  ∃ before word after, value.toList = before ++ (word ++ after) ∧ word ∈ selfSpellings ∧
    ∀ c ∈ before ++ after, c.isAlphanum = false

/-- A text in lower case, with its letters in any case. -/
theorem mem_sections (h : IsAscii p) :
    p ∈ ((p.map Char.toLower).map fun c => [c, c.toUpper]).sections := by
  rw [List.mem_sections, List.map_map, List.forall₂_map_right_iff, List.forall₂_same]
  exact fun c hc => ascii_cases (h c hc) (by decide)

theorem pascal_eq_self_iff {value : String} (h : IsAscii value.toList) :
    pascal value = "Self" ↔ SpellsSelf value := by
  rw [pascal, ← String.toList_inj, String.toList_ofList]
  constructor
  · intro hself
    obtain ⟨w, hw, hlower⟩ :=
      eq_singleton_of_flatMap_capitalWord (fun w => isPlainWord_of_mem_pascalWords h) hself
    obtain ⟨p, hp, hcase⟩ := exists_piece h hw
    have hplain := isPlainWord_of_mem_pieces h (hp ▸ List.mem_cons_self)
    -- All ways to write the keyword are tried; most of them fall into several words.
    have hall : ∀ p ∈ (("self".toList).map fun c => [c, c.toUpper]).sections,
        (if p.any isLowercase then words p else [p]).length = 1 → p ∈ selfSpellings := by
      decide
    have hspelling : p ∈ selfSpellings := by
      refine hall p ?_ ?_
      · rw [← hlower, ← hcase]
        exact mem_sections hplain.ascii
      · rw [← pascalWords_of_piece h hp, hw]
        rfl
    obtain ⟨-, -, before, after, heq, hcuts⟩ := pieces_eq_singleton_iff.mp hp
    refine ⟨before, p, after, heq, hspelling, fun c hc => (cut_iff (h c ?_)).mp (hcuts c hc)⟩
    exact heq ▸ mem_of_mem_sides hc
  · rintro ⟨before, word, after, heq, hword, hcuts⟩
    have hall : ∀ word ∈ selfSpellings, word ≠ [] ∧
        (IsAscii word ∧ word.all Char.isAlphanum = true) ∧
        (if word.any isLowercase then words word else [word]).flatMap capitalWord =
          "Self".toList := by decide
    obtain ⟨hne, ⟨hascii, hletters⟩, hself⟩ := hall word hword
    have huncut : ∀ c ∈ word, (!isAlphanumeric c) = false := by
      intro c hc
      rw [isAlphanumeric_of_ascii (hascii c hc), List.all_eq_true.mp hletters c hc, Bool.not_true]
    have hpiece : pieces (fun c => !isAlphanumeric c) value.toList = [word] :=
      pieces_eq_singleton_iff.mpr ⟨hne, huncut, before, after, heq,
        fun c hc => (cut_iff (h c (heq ▸ mem_of_mem_sides hc))).mpr (hcuts c hc)⟩
    rw [pascalWords_of_piece h hpiece]
    exact hself

/-! ## Names of variants -/

/-- Joined words have no small letter in front, and nothing but letters and digits. -/
theorem alphanumeric_pascal {value : String} (h : IsAscii value.toList) :
    (pascal value).toList.head?.any Char.isLower = false ∧
      (pascal value).toList.all Char.isAlphanum = true := by
  have hwords : ∀ w ∈ pascalWords value.toList, IsPlainWord w :=
    fun w => isPlainWord_of_mem_pascalWords h
  rw [pascal, String.toList_ofList]
  generalize pascalWords value.toList = ws at hwords
  induction ws with
  | nil => exact ⟨rfl, rfl⟩
  | cons w ws ih =>
      obtain ⟨hw, hws⟩ := List.forall_mem_cons.mp hwords
      obtain ⟨first, rest, hcapital, hlower, hfirst, hrest⟩ := hw.capital
      rw [List.flatMap_cons, hcapital, List.cons_append]
      refine ⟨hlower, ?_⟩
      rw [List.all_cons, List.all_append, hfirst, hrest, (ih hws).2]
      rfl

theorem isCapitalized_variantIdent {value : String} (h : IsAscii value.toList)
    (hne : pascal value ≠ "") : isCapitalized (variantIdent value).toList = true := by
  obtain ⟨hlower, hall⟩ := alphanumeric_pascal h
  dsimp only [variantIdent]
  split
  next =>
    rw [String.toList_append]
    exact isCapitalized_append (by decide) hall
  next hdigit =>
    refine isCapitalized_iff.mpr ⟨?_, hall⟩
    rw [startsWithDigit, Bool.not_eq_true] at hdigit
    cases hlist : (pascal value).toList with
    | nil => exact absurd (String.toList_eq_nil_iff.mp hlist) hne
    | cons c rest =>
        rw [hlist, List.head?_cons, Option.any_some] at hlower hdigit
        rw [hlist, List.all_cons, Bool.and_eq_true] at hall
        have hletter := hall.1
        rw [Char.isAlphanum, Char.isAlpha, hdigit, hlower, Bool.or_false, Bool.or_false] at hletter
        exact hletter

end Naming

namespace Crate

open Naming

variable {value : String} {values : List String}

theorem isCapitalized_wantedVariant (h : IsAscii value.toList) :
    isCapitalized (wantedVariant value).toList = true := by
  dsimp only [wantedVariant]
  split
  next => decide
  next hempty =>
    split
    next => decide
    next =>
      refine isCapitalized_variantIdent h fun hpascal => hempty ?_
      rw [variantIdent, hpascal]
      rfl

theorem wantedVariant_eq_self_iff (h : IsAscii value.toList) :
    wantedVariant value = "Self" ↔ SpellsSelf value := by
  rw [← pascal_eq_self_iff h]
  constructor
  · intro hself
    dsimp only [wantedVariant] at hself
    split at hself
    next => exact absurd hself (by decide)
    next =>
      split at hself
      next => exact absurd hself (by decide)
      next =>
        dsimp only [variantIdent] at hself
        split at hself
        next => exact absurd hself.symm (ne_append (by decide) _)
        next => exact hself
  · intro hself
    have hident : variantIdent value = "Self" := by
      rw [variantIdent, hself]
      decide
    rw [wantedVariant, hident]
    decide

/-- The keyword is a name exactly if some value spells it; a number makes it none. -/
theorem self_mem_names_iff (h : ∀ value ∈ values, IsAscii value.toList) :
    "Self" ∈ (variants values).map (·.name) ↔ ∃ value ∈ values, SpellsSelf value := by
  rw [names_variants]
  constructor
  · intro hself
    obtain ⟨wanted, hwanted, k, hk⟩ := mem_uniqueAll hself
    obtain ⟨value, hvalue, rfl⟩ := List.mem_map.mp hwanted
    cases k with
    | zero => exact ⟨value, hvalue, (wantedVariant_eq_self_iff (h value hvalue)).mp hk.symm⟩
    | succ k => exact absurd hk.symm (candidate_succ_ne (by decide))
  · rintro ⟨value, hvalue, hspells⟩
    have hwanted := (wantedVariant_eq_self_iff (h value hvalue)).mpr hspells
    exact mem_uniqueAll_of_mem (List.mem_map.mpr ⟨value, hvalue, hwanted⟩) (by decide)

theorem isCapitalized_name (h : ∀ value ∈ values, IsAscii value.toList) {name : String}
    (hname : name ∈ (variants values).map (·.name)) : isCapitalized name.toList = true := by
  rw [names_variants] at hname
  obtain ⟨wanted, hwanted, k, rfl⟩ := mem_uniqueAll hname
  obtain ⟨value, hvalue, rfl⟩ := List.mem_map.mp hwanted
  have hcapital := isCapitalized_wantedVariant (h value hvalue)
  cases k with
  | zero => exact hcapital
  | succ k =>
      rw [candidate, String.toList_append]
      refine isCapitalized_append hcapital (List.all_eq_true.mpr fun c hc => ?_)
      rw [Char.isAlphanum, isDigit_of_mem_toString hc, Bool.or_true]

/-- The variants can stand in the declaration of a type, beside the one for values that
were not known. -/
structure Declarable (all : List Variant) : Prop where
  identifiers : ∀ v ∈ all, IsIdentifier v.name
  distinct : (all.map (·.name)).Nodup
  known : unknownVariant ∉ all.map (·.name)

/-- All names are identifiers but for the keyword, which is a name once at most; and it is
one exactly if some value spells it. -/
theorem variants_declarable_iff (h : ∀ value ∈ values, IsAscii value.toList) :
    (∀ v ∈ variants values, IsIdentifier v.name ∨ v.name = "Self") ∧
      ((variants values).map (·.name)).Nodup ∧
      (Declarable (variants values) ↔ ∀ value ∈ values, ¬ SpellsSelf value) := by
  have hcases : ∀ v ∈ variants values, IsIdentifier v.name ∨ v.name = "Self" := by
    intro v hv
    by_cases hself : v.name = "Self"
    · exact .inr hself
    · exact .inl <| identifier_of_isCapitalized
        (isCapitalized_name h (List.mem_map_of_mem hv)) hself
  have hdistinct : ((variants values).map (·.name)).Nodup :=
    names_variants values ▸ nodup_uniqueAll ..
  have hknown : unknownVariant ∉ (variants values).map (·.name) :=
    names_variants values ▸ fun hmem => not_mem_of_mem_uniqueAll hmem List.mem_cons_self
  have hkeyword : ¬ IsIdentifier "Self" := by decide
  refine ⟨hcases, hdistinct, ?_⟩
  constructor
  · intro hdeclarable value hvalue hspells
    obtain ⟨v, hv, hname⟩ :=
      List.mem_map.mp ((self_mem_names_iff h).mpr ⟨value, hvalue, hspells⟩)
    exact hkeyword (hname ▸ hdeclarable.identifiers v hv)
  · intro hnone
    refine ⟨fun v hv => (hcases v hv).resolve_right fun hname => ?_, hdistinct, hknown⟩
    obtain ⟨value, hvalue, hspells⟩ :=
      (self_mem_names_iff h).mp (List.mem_map.mpr ⟨v, hv, hname⟩)
    exact hnone value hvalue hspells

/-- Values that are close to the keyword, to `Unknown` or to nothing. -/
theorem myself_declarable :
    (∀ value ∈ ["myself", "se-lf", "unknown", "*"], IsAscii value.toList) ∧
      (variants ["myself", "se-lf", "unknown", "*"]).map (·.name) =
        ["Myself", "SeLf", "UnknownValue", "Empty"] ∧
      Declarable (variants ["myself", "se-lf", "unknown", "*"]) ∧
      ∀ value ∈ ["myself", "se-lf", "unknown", "*"], ¬ SpellsSelf value := by
  have hascii : ∀ value ∈ ["myself", "se-lf", "unknown", "*"], IsAscii value.toList := by decide
  have hnames : (variants ["myself", "se-lf", "unknown", "*"]).map (·.name) =
      ["Myself", "SeLf", "UnknownValue", "Empty"] := rfl
  have hidentifiers : ∀ name ∈ ["Myself", "SeLf", "UnknownValue", "Empty"],
      IsIdentifier name := by decide
  have hdeclarable : Declarable (variants ["myself", "se-lf", "unknown", "*"]) := by
    refine ⟨fun v hv => hidentifiers _ (hnames ▸ List.mem_map_of_mem hv), ?_, ?_⟩
    · rw [hnames]
      decide
    · rw [hnames]
      decide
  obtain ⟨-, -, hiff⟩ := variants_declarable_iff hascii
  exact ⟨hascii, hnames, hdeclarable, hiff.mp hdeclarable⟩

/-- The value `self` becomes the keyword. -/
theorem self_undeclarable :
    (∀ value ∈ ["clear", "self"], IsAscii value.toList) ∧
      (variants ["clear", "self"]).map (·.name) = ["Clear", "Self"] ∧
      ¬ IsIdentifier "Self" ∧ ¬ Declarable (variants ["clear", "self"]) := by
  have hnames : (variants ["clear", "self"]).map (·.name) = ["Clear", "Self"] := rfl
  have hself : ¬ IsIdentifier "Self" := by decide
  refine ⟨by decide, hnames, hself, fun hdeclarable => ?_⟩
  have hmem : "Self" ∈ (variants ["clear", "self"]).map (·.name) := by
    rw [hnames]
    exact List.mem_cons_of_mem _ List.mem_cons_self
  obtain ⟨v, hv, hname⟩ := List.mem_map.mp hmem
  exact hself (hname ▸ hdeclarable.identifiers v hv)

end Crate

end Clientwright
