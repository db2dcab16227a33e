import Clientwright.Proofs.CommentLines
import Clientwright.Proofs.DistinctFiles
import Clientwright.Proofs.EnumRuns

/-!
# Characters of names

Names in generated code are made from names in definitions, and these may hold any
characters. What comes out has none that could end a line or start a comment: a word is
made of letters, digits and underscores, and case mappings do not lead out of them.

That no such character comes in is seen in the same way everywhere. A kind of character
does not have the few that matter, so a character of the kind is none of them.
-/

namespace Clientwright

open Comment

/-- All characters are characters of code. -/
def Wordlike (s : List Char) : Prop := ∀ c ∈ s, isCode c = true

instance (s : List Char) : Decidable (Wordlike s) :=
  decidable_of_iff (s.all isCode = true) List.all_eq_true

variable {s t : List Char} {c : Char}

theorem wordlike_nil : Wordlike [] := List.forall_mem_nil _

theorem wordlike_cons : Wordlike (c :: s) ↔ isCode c = true ∧ Wordlike s := List.forall_mem_cons

theorem wordlike_append : Wordlike (s ++ t) ↔ Wordlike s ∧ Wordlike t := List.forall_mem_append

theorem wordlike_flatMap {α : Type} {l : List α} {f : α → List Char}
    (h : ∀ a ∈ l, Wordlike (f a)) : Wordlike (l.flatMap f) := by
  intro c hc
  obtain ⟨a, ha, hc⟩ := List.mem_flatMap.mp hc
  exact h a ha c hc

/-- Is the kind of characters without the few that matter? -/
def isCodeKind (kind : Char → Bool) : Bool :=
  ['/', '!', ' ', '\t', '\n'].all fun c => !kind c

theorem isCode_of_kind {kind : Char → Bool} (h : isCodeKind kind = true) (hc : kind c = true) :
    isCode c = true := by
  rw [isCode, decide_eq_true_eq]
  intro hmem
  have hnot := List.all_eq_true.mp h c hmem
  rw [hc] at hnot
  cases hnot

/-- What matters comes before the digits. -/
theorem isCode_of_lt (h : 0x2F < c.toNat) : isCode c = true := by
  have hkind : isCodeKind (fun c => decide (0x2F < c.toNat)) = true := by decide
  exact isCode_of_kind hkind (decide_eq_true h)

namespace Text

theorem isCode_of_isAlphanumeric (h : isAlphanumeric c = true) : isCode c = true :=
  isCode_of_kind (by decide) h

theorem isCode_of_isUppercase (h : isUppercase c = true) : isCode c = true :=
  isCode_of_kind (by decide) h

theorem isCode_toLower (h : isCode c = true) : isCode c.toLower = true := by
  unfold Char.toLower
  split
  next hletter =>
    refine isCode_of_lt ?_
    obtain ⟨hlow, hhigh⟩ := hletter
    have hlow : (65 : UInt32) ≤ c.val := hlow
    have hhigh : c.val ≤ (90 : UInt32) := hhigh
    rw [UInt32.le_iff_toNat_le] at hlow hhigh
    show 47 < (c.val + 32).toNat
    rw [UInt32.toNat_add]
    simp at hlow hhigh ⊢
    omega
  next => exact h

theorem isCode_toUpper (h : isCode c = true) : isCode c.toUpper = true := by
  unfold Char.toUpper
  split
  next hletter =>
    refine isCode_of_lt ?_
    obtain ⟨hlow, hhigh⟩ := hletter
    have hlow : (97 : UInt32) ≤ c.val := hlow
    have hhigh : c.val ≤ (122 : UInt32) := hhigh
    rw [UInt32.le_iff_toNat_le] at hlow hhigh
    show 47 < (c.val + ('A'.val - 'a'.val)).toNat
    rw [UInt32.toNat_add]
    simp at hlow hhigh ⊢
    omega
  next => exact h

theorem isCode_ofNat {n : Nat} (h : 0x2F < n) : isCode (Char.ofNat n) = true := by
  by_cases hvalid : n.isValidChar
  · refine isCode_of_lt ?_
    rwa [Char.toNat_ofNat, if_pos hvalid]
  · rw [Char.ofNat, dif_neg hvalid]
    decide

/-- A mapping does not lead to the characters that matter. -/
theorem wordlike_caseImage {expansions : List (Nat × List Nat)} {runs : List CaseRun}
    (hexpansions : ∀ e ∈ expansions, ∀ n ∈ e.2, 0x2F < n) (hruns : ∀ r ∈ runs, 0x2F < r.image)
    (h : isCode c = true) : Wordlike (caseImage expansions runs c) := by
  rw [caseImage]
  split
  next images himages =>
    intro d hd
    obtain ⟨n, hn, rfl⟩ := List.mem_map.mp hd
    obtain ⟨before, after, rfl, -⟩ := List.lookup_eq_some_iff.mp himages
    exact isCode_ofNat (hexpansions (c.toNat, images) (by simp) n hn)
  next =>
    split
    next n hn =>
      obtain ⟨r, hr, himage⟩ := List.exists_of_findSome?_eq_some hn
      rw [CaseRun.image?] at himage
      split at himage
      next =>
        obtain rfl := Option.some.inj himage
        exact wordlike_cons.mpr ⟨isCode_ofNat (Nat.lt_add_right _ (hruns r hr)), wordlike_nil⟩
      next => cases himage
    next => exact wordlike_cons.mpr ⟨h, wordlike_nil⟩

/-! The tables lead to letters. -/

theorem upperExpansions_lead : ∀ e ∈ upperExpansions, ∀ n ∈ e.2, 0x2F < n := by decide

set_option maxRecDepth 1000 in
theorem upperRuns_lead : ∀ r ∈ upperRuns, 0x2F < r.image := by decide

theorem lowerExpansions_lead : ∀ e ∈ lowerExpansions, ∀ n ∈ e.2, 0x2F < n := by decide

set_option maxRecDepth 1000 in
theorem lowerRuns_lead : ∀ r ∈ lowerRuns, 0x2F < r.image := by decide

theorem wordlike_upperChar (h : isCode c = true) : Wordlike (upperChar c) := by
  rw [upperChar]
  split
  next => exact wordlike_cons.mpr ⟨isCode_toUpper h, wordlike_nil⟩
  next => exact wordlike_caseImage upperExpansions_lead upperRuns_lead h

theorem wordlike_lowerChar (h : isCode c = true) : Wordlike (lowerChar c) := by
  rw [lowerChar]
  split
  next => exact wordlike_cons.mpr ⟨isCode_toLower h, wordlike_nil⟩
  next => exact wordlike_caseImage lowerExpansions_lead lowerRuns_lead h

theorem wordlike_lowerAfter {before : List Char} (h : Wordlike s) :
    Wordlike (lowerAfter before s) := by
  induction s generalizing before with
  | nil => exact wordlike_nil
  | cons c s ih =>
      obtain ⟨hc, hs⟩ := wordlike_cons.mp h
      rw [lowerAfter]
      refine wordlike_append.mpr ⟨?_, ih hs⟩
      split
      next =>
        split <;> exact wordlike_cons.mpr ⟨by decide, wordlike_nil⟩
      next => exact wordlike_lowerChar hc

theorem wordlike_capitalize (h : Wordlike s) : Wordlike (capitalize s) := by
  cases s with
  | nil => exact wordlike_nil
  | cons c s =>
      obtain ⟨hc, hs⟩ := wordlike_cons.mp h
      exact wordlike_append.mpr ⟨wordlike_upperChar hc, hs⟩

/-- A piece has no character at which the text is cut. -/
theorem not_cut_of_mem_splitAt {isCut : Char → Bool} {piece : List Char}
    (hpiece : piece ∈ splitAt isCut s) (hc : c ∈ piece) : isCut c = false := by
  induction s generalizing piece with
  | nil =>
      obtain rfl := List.mem_singleton.mp hpiece
      cases hc
  | cons d s ih =>
      unfold splitAt at hpiece
      split at hpiece
      next =>
        rcases List.mem_cons.mp hpiece with rfl | hpiece
        · cases hc
        · exact ih hpiece hc
      next hd =>
        split at hpiece
        next first rest hsplit =>
          rcases List.mem_cons.mp hpiece with rfl | hpiece
          · rcases List.mem_cons.mp hc with rfl | hc
            · simpa using hd
            · exact ih (hsplit ▸ List.mem_cons_self) hc
          · exact ih (hsplit ▸ List.mem_cons_of_mem _ hpiece) hc
        next =>
          obtain rfl := List.mem_singleton.mp hpiece
          obtain rfl := List.mem_singleton.mp hc
          simpa using hd

end Text

namespace Naming

open Text

/-! ## Words -/

theorem wordlike_markWords {before : Option Char} : Wordlike (markWords before s) := by
  induction s generalizing before with
  | nil => exact wordlike_nil
  | cons c s ih =>
      rw [markWords]
      refine wordlike_append.mpr ⟨?_, ih⟩
      split
      next hupper =>
        have hlower := isCode_toLower (isCode_of_isUppercase hupper)
        split
        · exact wordlike_cons.mpr ⟨by decide, wordlike_cons.mpr ⟨hlower, wordlike_nil⟩⟩
        · exact wordlike_cons.mpr ⟨hlower, wordlike_nil⟩
      next =>
        split
        · exact wordlike_cons.mpr ⟨by decide, wordlike_nil⟩
        · split
          next hletter =>
            have hkind : isCodeKind (fun c => isAlphanumeric c || c = '_') = true := by
              decide
            exact wordlike_cons.mpr ⟨isCode_of_kind hkind hletter, wordlike_nil⟩
          next => exact wordlike_nil

theorem wordlike_of_mem_words {word : List Char} (h : word ∈ words s) : Wordlike word :=
  fun _ hc => wordlike_markWords _ (mem_of_mem_splitAt (List.mem_of_mem_filter h) hc)

theorem wordlike_snake (name : String) : Wordlike (snake name).toList := by
  rw [snake, String.toList_ofList]
  intro c hc
  rcases mem_of_mem_intercalate hc with hc | ⟨word, hword, hc⟩
  · obtain rfl := List.mem_singleton.mp hc
    decide
  · exact wordlike_of_mem_words hword c hc

theorem wordlike_pascal (name : String) : Wordlike (pascal name).toList := by
  have hparts : ∀ part ∈ (splitAt (fun c => !isAlphanumeric c) name.toList).filter
      fun w => !w.isEmpty, Wordlike part := by
    intro part hpart c hc
    have hcut := not_cut_of_mem_splitAt (List.mem_of_mem_filter hpart) hc
    exact isCode_of_isAlphanumeric (by simpa using hcut)
  have hwords : ∀ word ∈ pascalWords name.toList, Wordlike word := by
    rw [pascalWords]
    split
    · intro word hword
      obtain ⟨part, -, hword⟩ := List.mem_flatMap.mp hword
      exact wordlike_of_mem_words hword
    · exact hparts
  rw [pascal, String.toList_ofList]
  refine wordlike_flatMap fun word hword => ?_
  cases word with
  | nil => exact wordlike_nil
  | cons c rest =>
      obtain ⟨hc, hrest⟩ := wordlike_cons.mp (hwords _ hword)
      exact wordlike_append.mpr ⟨wordlike_upperChar hc, wordlike_lowerAfter hrest⟩

/-! ## Identifiers -/

theorem wordlike_fieldIdent (name : String) : Wordlike (fieldIdent name).toList := by
  have hwords : Wordlike (if (snake name).isEmpty then "value"
      else if startsWithDigit (snake name) then "v" ++ snake name
      else snake name).toList := by
    split
    · decide
    · split
      · rw [String.toList_append]
        exact wordlike_append.mpr ⟨by decide, wordlike_snake name⟩
      · exact wordlike_snake name
  unfold fieldIdent
  dsimp only
  generalize (if (snake name).isEmpty then "value"
    else if startsWithDigit (snake name) then "v" ++ snake name else snake name) = words
    at hwords ⊢
  split
  · rw [String.toList_append]
    exact wordlike_append.mpr ⟨hwords, by decide⟩
  · split
    · rw [String.toList_append]
      exact wordlike_append.mpr ⟨by decide, hwords⟩
    · exact hwords

theorem wordlike_typeIdent (name : String) : Wordlike (typeIdent name).toList := by
  have hletters : Wordlike (if (name.toList.filter isAlphanumeric).head?.any Char.isDigit then
      'V' :: name.toList.filter isAlphanumeric else name.toList.filter isAlphanumeric) := by
    have hfilter : Wordlike (name.toList.filter isAlphanumeric) :=
      fun _ hc => isCode_of_isAlphanumeric (List.mem_filter.mp hc).2
    split
    · exact wordlike_cons.mpr ⟨by decide, hfilter⟩
    · exact hfilter
  unfold typeIdent
  dsimp only
  generalize (if (name.toList.filter isAlphanumeric).head?.any Char.isDigit then
      'V' :: name.toList.filter isAlphanumeric else name.toList.filter isAlphanumeric) = letters
    at hletters ⊢
  split
  · decide
  · rw [String.toList_ofList]
    exact wordlike_capitalize hletters

theorem wordlike_variantIdent (value : String) : Wordlike (variantIdent value).toList := by
  dsimp only [variantIdent]
  split
  · rw [String.toList_append]
    exact wordlike_append.mpr ⟨by decide, wordlike_pascal value⟩
  · exact wordlike_pascal value

theorem wordlike_candidate {base : String} (h : Wordlike base.toList) (n : Nat) :
    Wordlike (candidate base n).toList := by
  cases n with
  | zero => exact h
  | succ n =>
      rw [candidate, String.toList_append]
      refine wordlike_append.mpr ⟨h, fun c hc => ?_⟩
      exact isCode_of_kind (by decide) (isDigit_of_mem_toString hc)

theorem wordlike_uniqueAll {used l : List String} {name : String}
    (hl : ∀ base ∈ l, Wordlike base.toList) (h : name ∈ uniqueAll used l) :
    Wordlike name.toList := by
  obtain ⟨base, hbase, n, rfl⟩ := mem_uniqueAll h
  exact wordlike_candidate (hl base hbase) n

end Naming

/-! ## Names in a crate -/

theorem TypeNames.wordlike_wantedTypeName (shape : String) :
    Wordlike (wantedTypeName shape).toList := by
  dsimp only [wantedTypeName]
  split
  · rw [String.toList_append]
    exact wordlike_append.mpr ⟨Naming.wordlike_typeIdent shape, by decide⟩
  · exact Naming.wordlike_typeIdent shape

theorem Blueprint.wordlike_typeName {b : Blueprint}
    (hnames : b.names = TypeNames.assign b.service) (shape : String) :
    Wordlike (b.typeName shape).toList := by
  rw [typeName]
  split
  next names hlookup =>
    rw [hnames] at hlookup
    obtain ⟨before, after, heq, -⟩ := List.lookup_eq_some_iff.mp hlookup
    have hmem : (shape, names) ∈ TypeNames.assign b.service := by
      rw [heq]
      exact List.mem_append_right _ List.mem_cons_self
    obtain ⟨⟨k, hk⟩, -⟩ := TypeNames.exists_candidates hmem
    rw [hk]
    exact Naming.wordlike_candidate (TypeNames.wordlike_wantedTypeName shape) k
  next => exact Naming.wordlike_typeIdent shape

namespace Crate

theorem wordlike_wantedVariant (value : String) : Wordlike (wantedVariant value).toList := by
  dsimp only [wantedVariant]
  split
  · decide
  · split
    · decide
    · exact Naming.wordlike_variantIdent value

theorem wordlike_variant {values : List String} {v : Variant} (h : v ∈ variants values) :
    Wordlike v.name.toList := by
  have hname : v.name ∈ Naming.uniqueAll [unknownVariant] (values.map wantedVariant) :=
    names_variants values ▸ List.mem_map_of_mem h
  refine Naming.wordlike_uniqueAll (fun base hbase => ?_) hname
  obtain ⟨value, -, rfl⟩ := List.mem_map.mp hbase
  exact wordlike_wantedVariant value

theorem wordlike_clientType (s : Service) : Wordlike (clientType s).toList := by
  rw [clientType, String.toList_append]
  exact wordlike_append.mpr ⟨Naming.wordlike_pascal _, by decide⟩

theorem wordlike_inputType (o : Operation) : Wordlike (inputType o).toList := by
  rw [inputType, String.toList_append]
  exact wordlike_append.mpr ⟨Naming.wordlike_typeIdent o.name, by decide⟩

theorem wordlike_outputType (o : Operation) : Wordlike (outputType o).toList := by
  rw [outputType, String.toList_append]
  exact wordlike_append.mpr ⟨Naming.wordlike_typeIdent o.name, by decide⟩

theorem wordlike_methodName (o : Operation) : Wordlike (methodName o).toList := by
  dsimp only [methodName]
  split
  · rw [String.toList_append]
    exact wordlike_append.mpr ⟨Naming.wordlike_fieldIdent o.name, by decide⟩
  · exact Naming.wordlike_fieldIdent o.name

theorem wordlike_bareIdent {ident : String} (h : Wordlike ident.toList) :
    Wordlike (bareIdent ident).toList := by
  rw [bareIdent]
  split
  next rest hrest =>
    rw [Text.dropStart?_eq_some_iff] at hrest
    rw [hrest] at h
    rw [String.toList_ofList]
    exact (wordlike_append.mp h).2
  next => exact h

end Crate

/-! ## Names in comments -/

namespace Comment

variable {s t : String}

theorem harmless_of_wordlike (h : Wordlike s.toList) : Harmless s :=
  harmless_of_free fun hmem => absurd (h _ hmem) (by decide)

theorem startsCode_of_wordlike (h : Wordlike s.toList) (ht : startsCode t = true) :
    startsCode (s ++ t) = true := by
  rw [startsCode, String.toList_append]
  cases hs : s.toList with
  | nil => exact ht
  | cons c rest =>
      rw [hs] at h
      exact h c List.mem_cons_self

theorem feed_not_mem_toDigits (n : Nat) : '\n' ∉ Nat.toDigits 10 n := by
  rw [← Naming.toList_toString]
  exact fun h => absurd (Naming.isDigit_of_mem_toString h) (by decide)

@[simp]
theorem harmless_repr (n : Nat) : Harmless n.repr :=
  harmless_of_free (Naming.toList_toString n ▸ feed_not_mem_toDigits n)

@[simp]
theorem harmless_snake (name : String) : Harmless (Naming.snake name) :=
  harmless_of_wordlike (Naming.wordlike_snake name)

@[simp]
theorem harmless_fieldIdent (name : String) : Harmless (Naming.fieldIdent name) :=
  harmless_of_wordlike (Naming.wordlike_fieldIdent name)

@[simp]
theorem harmless_clientType (s : Service) : Harmless (Crate.clientType s) :=
  harmless_of_wordlike (Crate.wordlike_clientType s)

@[simp]
theorem harmless_inputType (o : Operation) : Harmless (Crate.inputType o) :=
  harmless_of_wordlike (Crate.wordlike_inputType o)

@[simp]
theorem harmless_outputType (o : Operation) : Harmless (Crate.outputType o) :=
  harmless_of_wordlike (Crate.wordlike_outputType o)

end Comment

end Clientwright
