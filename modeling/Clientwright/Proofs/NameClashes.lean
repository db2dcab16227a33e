import Clientwright.Proofs.Identifiers

/-!
# Names that become the same

The name of a member or an operation is put into lower case, and then it is escaped where it would
be no identifier. Either step may take two names to one. Names with the same words are lost to the
first step. Words that are escaped get something in front or behind, and may so become the words
that another name had from the start: nothing becomes `value`, `3d` becomes `v3d`, and `self`
becomes `self_value`. The mark of a raw identifier never makes two names meet, because there is no
such mark in words; and no third way is left.
-/

namespace Clientwright

open Text

/-! ## The characters of words -/

theorem not_mem_append {c : Char} {s t : String} (hs : c ∉ s.toList) (ht : c ∉ t.toList) :
    c ∉ (s ++ t).toList := by
  rw [String.toList_append, List.mem_append, not_or]
  exact ⟨hs, ht⟩

/-- A kind of characters that has none from before the digits. -/
theorem lt_of_kind (kind : Char → Bool) {c : Char}
    (h : ((List.range 0x30).all fun n => !kind (Char.ofNat n)) = true) (hc : kind c = true) :
    0x2F < c.toNat := by
  by_contra hlt
  have hnot := List.all_eq_true.mp h c.toNat (List.mem_range.mpr (by omega))
  rw [Char.ofNat_toNat, hc] at hnot
  cases hnot

theorem lt_toLower {c : Char} (h : 0x2F < c.toNat) : 0x2F < c.toLower.toNat := by
  unfold Char.toLower
  split
  next hletter =>
    obtain ⟨hlow, hhigh⟩ := hletter
    have hlow : (65 : UInt32) ≤ c.val := hlow
    have hhigh : c.val ≤ (90 : UInt32) := hhigh
    rw [UInt32.le_iff_toNat_le] at hlow hhigh
    show 47 < (c.val + 32).toNat
    rw [UInt32.toNat_add]
    simp at hlow hhigh ⊢
    omega
  next => exact h

namespace Naming

theorem lt_of_mem_markWords {before : Option Char} {s : List Char} {c : Char}
    (h : c ∈ markWords before s) : 0x2F < c.toNat := by
  induction s generalizing before with
  | nil => cases h
  | cons d s ih =>
      rw [markWords, List.mem_append] at h
      rcases h with h | h
      · split at h
        next hupper =>
          have hlower := lt_toLower (lt_of_kind isUppercase (by decide) hupper)
          split at h
          · rcases List.mem_cons.mp h with rfl | h
            · decide
            · exact List.mem_singleton.mp h ▸ hlower
          · exact List.mem_singleton.mp h ▸ hlower
        next =>
          split at h
          · exact List.mem_singleton.mp h ▸ (by decide)
          · split at h
            next hletter =>
              exact List.mem_singleton.mp h ▸
                lt_of_kind (fun c => isAlphanumeric c || c = '_') (by decide) hletter
            next => cases h
      · exact ih h

/-- There is nothing in words that comes before the digits: neither a bracket nor the mark of a raw
identifier. -/
theorem lt_of_mem_snake {name : String} {c : Char} (h : c ∈ (snake name).toList) :
    0x2F < c.toNat := by
  rw [snake, String.toList_ofList] at h
  rcases mem_of_mem_intercalate h with h | ⟨word, hword, h⟩
  · exact List.mem_singleton.mp h ▸ (by decide)
  · exact lt_of_mem_markWords (mem_of_mem_splitAt (List.mem_of_mem_filter hword) h)

theorem not_mem_snake {c : Char} (hc : c.toNat ≤ 0x2F) (name : String) :
    c ∉ (snake name).toList :=
  fun h => absurd (lt_of_mem_snake h) (by omega)

/-! ## Words that are escaped -/

/-- Words as an identifier. -/
def escaped (words : String) : String :=
  if reserved.contains words then words ++ "_value"
  else if keywords.contains words then "r#" ++ words
  else words

/-- The words give way to these, because they would be no identifier. -/
def GivesWay (v w : String) : Prop :=
  v = "" ∧ w = "value" ∨ startsWithDigit v = true ∧ w = "v" ++ v ∨ v ∈ reserved ∧ w = v ++ "_value"

instance (v w : String) : Decidable (GivesWay v w) := by
  unfold GivesWay
  infer_instance

/-- The words are the same, or become the same. -/
def Meet (v w : String) : Prop := v = w ∨ GivesWay v w ∨ GivesWay w v

instance (v w : String) : Decidable (Meet v w) := by
  unfold Meet
  infer_instance

variable {v w : String}

theorem Meet.symm (h : Meet v w) : Meet w v := by
  rcases h with h | h | h
  · exact .inl h.symm
  · exact .inr (.inr h)
  · exact .inr (.inl h)

theorem lettered_cases (v : String) : v = "" ∧ lettered v = "value" ∨
    startsWithDigit v = true ∧ lettered v = "v" ++ v ∨
      v ≠ "" ∧ startsWithDigit v = false ∧ lettered v = v := by
  rw [lettered]
  split
  next hempty => exact .inl ⟨String.isEmpty_iff.mp hempty, rfl⟩
  next hempty =>
    split
    next hdigit => exact .inr (.inl ⟨hdigit, rfl⟩)
    next hdigit =>
      exact .inr (.inr ⟨fun h => hempty (String.isEmpty_iff.mpr h),
        Bool.eq_false_of_not_eq_true hdigit, rfl⟩)

theorem startsWithDigit_append_v (v : String) : startsWithDigit ("v" ++ v) = false := by
  rw [startsWithDigit, String.toList_append]
  rfl

/-- A letter in front makes two words the same only if it makes one of them the other. -/
theorem eq_of_lettered_eq (h : lettered v = lettered w) : v = w ∨ GivesWay v w ∨ GivesWay w v := by
  have hdigit : startsWithDigit "alue" = false := by decide
  have hvalue : ∀ {x : String}, "value" = "v" ++ x → x = "alue" := fun h =>
    (String.append_right_inj "v").mp h.symm
  rcases lettered_cases v with ⟨rfl, hv⟩ | ⟨hv', hv⟩ | ⟨-, -, hv⟩ <;>
    rcases lettered_cases w with ⟨rfl, hw⟩ | ⟨hw', hw⟩ | ⟨-, -, hw⟩ <;>
    replace h := hv.symm.trans (h.trans hw)
  · exact .inl rfl
  · rw [hvalue h, hdigit] at hw'
    cases hw'
  · exact .inr (.inl (.inl ⟨rfl, h.symm⟩))
  · rw [hvalue h.symm, hdigit] at hv'
    cases hv'
  · exact .inl ((String.append_right_inj "v").mp h)
  · exact .inr (.inl (.inr (.inl ⟨hv', h.symm⟩)))
  · exact .inr (.inr (.inl ⟨rfl, h⟩))
  · exact .inr (.inr (.inr (.inl ⟨hw', h⟩)))
  · exact .inl h

/-- The words that are escaped at their end, and what they become, are the letters of no others. -/
theorem eq_of_lettered_reserved {p : String} (hp : p ∈ reserved ++ reserved.map (· ++ "_value"))
    (h : lettered v = p) : v = p := by
  have hstart : ∀ p ∈ reserved ++ reserved.map (· ++ "_value"),
      p ≠ "value" ∧ p.toList.take "v".toList.length ≠ "v".toList := by decide
  rcases lettered_cases v with ⟨-, hv⟩ | ⟨-, hv⟩ | ⟨-, -, hv⟩
  · exact absurd (h.symm.trans hv) (hstart p hp).1
  · exact absurd (h.symm.trans hv) (ne_append (hstart p hp).2 v)
  · exact hv.symm.trans h

theorem not_mem_lettered {c : Char} (hc : c ∉ "value".toList) (hv : c ∉ v.toList) :
    c ∉ (lettered v).toList := by
  have hletter : c ≠ 'v' := fun h => hc (h ▸ by decide)
  rcases lettered_cases v with ⟨-, h⟩ | ⟨-, h⟩ | ⟨-, -, h⟩
  · rwa [h]
  · simp [h, hletter, hv]
  · rwa [h]

theorem escaped_cases (v : String) : v ∈ reserved ∧ escaped v = v ++ "_value" ∨
    v ∈ keywords ∧ escaped v = "r#" ++ v ∨ v ∉ reserved ∧ v ∉ keywords ∧ escaped v = v := by
  rw [escaped]
  simp only [List.contains_iff_mem]
  split
  next hreserved => exact .inl ⟨hreserved, rfl⟩
  next hreserved =>
    split
    next hkeyword => exact .inr (.inl ⟨hkeyword, rfl⟩)
    next hkeyword => exact .inr (.inr ⟨hreserved, hkeyword, rfl⟩)

theorem not_mem_escaped {c : Char} (hc : c ∉ "_value".toList ++ "r#".toList)
    (hv : c ∉ v.toList) : c ∉ (escaped v).toList := by
  rw [List.mem_append, not_or] at hc
  rcases escaped_cases v with ⟨-, h⟩ | ⟨-, h⟩ | ⟨-, -, h⟩ <;> rw [h]
  · exact not_mem_append hv hc.1
  · exact not_mem_append hc.2 hv
  · exact hv

/-- Without the mark of a raw identifier in them, words become the same only if an ending makes
one of them the other. -/
theorem eq_of_escaped_eq (hv : '#' ∉ v.toList) (hw : '#' ∉ w.toList)
    (h : escaped v = escaped w) : v = w ∨ (v ∈ reserved ∧ w = v ++ "_value") ∨
      (w ∈ reserved ∧ v = w ++ "_value") := by
  have hmark : ∀ {x y : String}, '#' ∉ x.toList → x ≠ "r#" ++ y := by
    rintro x y hx rfl
    simp at hx
  have hlong : ∀ {x : String}, '#' ∉ x.toList → '#' ∉ (x ++ "_value").toList := by
    intro x hx
    simp [hx]
  rcases escaped_cases v with ⟨hv', he⟩ | ⟨-, he⟩ | ⟨-, -, he⟩ <;>
    rcases escaped_cases w with ⟨hw', hf⟩ | ⟨-, hf⟩ | ⟨-, -, hf⟩ <;>
    replace h := he.symm.trans (h.trans hf)
  · exact .inl ((String.append_left_inj "_value").mp h)
  · exact absurd h (hmark (hlong hv))
  · exact .inr (.inl ⟨hv', h.symm⟩)
  · exact absurd h.symm (hmark (hlong hw))
  · exact .inl ((String.append_right_inj "r#").mp h)
  · exact absurd h.symm (hmark hw)
  · exact .inr (.inr ⟨hw', h⟩)
  · exact absurd h (hmark hv)
  · exact .inl h

theorem GivesWay.escaped_eq (h : GivesWay v w) : escaped (lettered v) = escaped (lettered w) := by
  rcases h with ⟨rfl, rfl⟩ | ⟨hdigit, rfl⟩ | ⟨hreserved, rfl⟩
  · decide
  · have hv : lettered v = "v" ++ v := by
      rcases lettered_cases v with ⟨rfl, -⟩ | ⟨-, h⟩ | ⟨-, hnot, -⟩
      · cases hdigit
      · exact h
      · cases hdigit.symm.trans hnot
    have hw : lettered ("v" ++ v) = "v" ++ v := by
      rcases lettered_cases ("v" ++ v) with ⟨h, -⟩ | ⟨h, -⟩ | ⟨-, -, h⟩
      · exact absurd (congrArg String.toList h) (by simp)
      · cases h.symm.trans (startsWithDigit_append_v v)
      · exact h
    rw [hv, hw]
  · have hall : ∀ v ∈ reserved, escaped (lettered v) = escaped (lettered (v ++ "_value")) := by
      decide
    exact hall v hreserved

theorem escaped_lettered_eq_iff (hv : '#' ∉ v.toList) (hw : '#' ∉ w.toList) :
    escaped (lettered v) = escaped (lettered w) ↔ Meet v w := by
  constructor
  · -- An ending is only added to words that are as they were before a letter was put in front.
    have hending : ∀ {x y : String}, lettered x ∈ reserved → lettered y = lettered x ++ "_value" →
        GivesWay x y := by
      intro x y hx hy
      have hx' : x = lettered x := eq_of_lettered_reserved (List.mem_append_left _ hx) rfl
      have hmem : lettered x ++ "_value" ∈ reserved.map (· ++ "_value") :=
        List.mem_map_of_mem (f := (· ++ "_value")) hx
      have hy' : y = lettered x ++ "_value" :=
        eq_of_lettered_reserved (List.mem_append_right _ hmem) hy
      rw [← hx'] at hx hy'
      exact .inr (.inr ⟨hx, hy'⟩)
    intro h
    rcases eq_of_escaped_eq (not_mem_lettered (by decide) hv) (not_mem_lettered (by decide) hw) h
      with h | ⟨hmem, h⟩ | ⟨hmem, h⟩
    · exact eq_of_lettered_eq h
    · exact .inr (.inl (hending hmem h))
    · exact .inr (.inr (hending hmem h))
  · rintro (rfl | h | h)
    · rfl
    · exact h.escaped_eq
    · exact h.escaped_eq.symm

/-- Two names have one identifier exactly if their words meet. -/
theorem fieldIdent_eq_iff {m n : String} :
    fieldIdent m = fieldIdent n ↔ Meet (snake m) (snake n) :=
  escaped_lettered_eq_iff (not_mem_snake (by decide) m) (not_mem_snake (by decide) n)

end Naming

/-! ## Methods of operations -/

namespace Crate

variable {v w : String} {x y : Operation}

/-- The words are the same as methods of the client. A few words are kept for methods that every
client has, and get something behind too. -/
def MethodsMeet (v w : String) : Prop :=
  Naming.Meet v w ∨ (v ∈ clientMethods ∧ w = v ++ "_operation") ∨
    (w ∈ clientMethods ∧ v = w ++ "_operation")

instance (v w : String) : Decidable (MethodsMeet v w) := by
  unfold MethodsMeet
  infer_instance

/-- What is kept for the client, and what operations are called instead. -/
def keptMethods : List String := clientMethods ++ clientMethods.map (· ++ "_operation")

/-- Kept words are their own identifiers, and no others give way to them. -/
theorem fieldIdent_eq_kept_iff {p n : String} (hp : p ∈ keptMethods) :
    Naming.fieldIdent n = p ↔ Naming.snake n = p := by
  have hmark : ∀ p ∈ keptMethods, '#' ∉ p.toList := by decide
  have hsteady : ∀ p ∈ keptMethods, Naming.escaped (Naming.lettered p) = p := by decide
  have hgone : ∀ p ∈ keptMethods, p ≠ "" ∧ Naming.startsWithDigit p = false ∧
      p ∉ Naming.reserved := by decide
  have htaken : ∀ p ∈ keptMethods, p ≠ "value" ∧ p.toList.take "v".toList.length ≠ "v".toList ∧
      p ∉ Naming.reserved.map (· ++ "_value") := by decide
  have hmeet : Naming.fieldIdent n = p ↔ Naming.Meet (Naming.snake n) p := by
    rw [← Naming.escaped_lettered_eq_iff (Naming.not_mem_snake (by decide) n) (hmark p hp),
      hsteady p hp]
    rfl
  rw [hmeet]
  refine ⟨fun h => ?_, .inl⟩
  obtain ⟨hvalue, hv, hending⟩ := htaken p hp
  obtain ⟨hempty, hdigit, hreserved⟩ := hgone p hp
  rcases h with h | (⟨-, h⟩ | ⟨-, h⟩ | ⟨hmem, h⟩) | (⟨h, -⟩ | ⟨h, -⟩ | ⟨h, -⟩)
  · exact h
  · exact absurd h hvalue
  · exact absurd h (ne_append hv _)
  · rw [h] at hending
    exact absurd (List.mem_map_of_mem (f := (· ++ "_value")) hmem) hending
  · exact absurd h hempty
  · cases hdigit.symm.trans h
  · exact absurd h hreserved

theorem methodName_cases (x : Operation) :
    Naming.snake x.name ∈ clientMethods ∧ methodName x = Naming.snake x.name ++ "_operation" ∨
      Naming.snake x.name ∉ clientMethods ∧ methodName x = Naming.fieldIdent x.name ∧
        methodName x ∉ clientMethods := by
  have hkept : ∀ p, p ∈ clientMethods → p ∈ keptMethods := fun p hp => List.mem_append_left _ hp
  dsimp only [methodName]
  split
  next h =>
    have hmem := List.contains_iff_mem.mp h
    have hsnake := (fieldIdent_eq_kept_iff (hkept _ hmem)).mp rfl
    rw [hsnake]
    exact .inl ⟨hmem, rfl⟩
  next h =>
    have hmem := mt List.contains_iff_mem.mpr h
    refine .inr ⟨fun hsnake => hmem ?_, rfl, hmem⟩
    exact (fieldIdent_eq_kept_iff (hkept _ hsnake)).mpr rfl ▸ hsnake

/-- Words meet kept ones only if they are the same. -/
theorem eq_of_meet_kept {m n : String} (hn : Naming.snake n ∈ clientMethods)
    (h : Naming.Meet (Naming.snake m) (Naming.snake n)) : Naming.snake m = Naming.snake n := by
  have hkept : Naming.snake n ∈ keptMethods := List.mem_append_left _ hn
  rw [← Naming.fieldIdent_eq_iff, (fieldIdent_eq_kept_iff hkept).mpr rfl] at h
  exact (fieldIdent_eq_kept_iff hkept).mp h

/-- The method of a kept word is another's only if that one has its words from the start. -/
theorem kept_eq_fieldIdent_iff {n : String} (hv : v ∈ clientMethods) :
    v ++ "_operation" = Naming.fieldIdent n ↔ Naming.snake n = v ++ "_operation" :=
  eq_comm.trans (fieldIdent_eq_kept_iff
    (List.mem_append_right _ (List.mem_map_of_mem (f := (· ++ "_operation")) hv)))

/-- Two operations have one method exactly if their words meet. -/
theorem methodName_eq_iff :
    methodName x = methodName y ↔ MethodsMeet (Naming.snake x.name) (Naming.snake y.name) := by
  have hlong : ∀ p ∈ clientMethods, p ++ "_operation" ∉ clientMethods := by decide
  rcases methodName_cases x with ⟨hx, h⟩ | ⟨hx, h, -⟩ <;>
    rcases methodName_cases y with ⟨hy, h'⟩ | ⟨hy, h', -⟩ <;>
    rw [h, h']
  · rw [String.append_left_inj]
    refine ⟨fun heq => .inl (.inl heq), ?_⟩
    rintro (hmeet | ⟨-, heq⟩ | ⟨-, heq⟩)
    · exact eq_of_meet_kept hy hmeet
    · exact absurd (heq ▸ hy) (hlong _ hx)
    · exact absurd (heq ▸ hx) (hlong _ hy)
  · rw [kept_eq_fieldIdent_iff hx]
    refine ⟨fun heq => .inr (.inl ⟨hx, heq⟩), ?_⟩
    rintro (hmeet | ⟨-, heq⟩ | ⟨hmem, -⟩)
    · exact absurd (eq_of_meet_kept hx hmeet.symm ▸ hx) hy
    · exact heq
    · exact absurd hmem hy
  · rw [eq_comm, kept_eq_fieldIdent_iff hy]
    refine ⟨fun heq => .inr (.inr ⟨hy, heq⟩), ?_⟩
    rintro (hmeet | ⟨hmem, -⟩ | ⟨-, heq⟩)
    · exact absurd (eq_of_meet_kept hy hmeet ▸ hy) hx
    · exact absurd hmem hx
    · exact heq
  · rw [Naming.fieldIdent_eq_iff]
    refine ⟨.inl, ?_⟩
    rintro (hmeet | ⟨hmem, -⟩ | ⟨hmem, -⟩)
    · exact hmeet
    · exact absurd hmem hx
    · exact absurd hmem hy

/-! ## Without the mark of a raw identifier -/

theorem bareIdent_raw (s : String) : bareIdent ("r#" ++ s) = s := by
  rw [bareIdent, String.toList_append]
  exact String.ofList_toList

theorem bareIdent_of_not_mem {s : String} (h : '#' ∉ s.toList) : bareIdent s = s := by
  rw [bareIdent]
  split
  next rest hrest =>
    rw [Text.dropStart?_eq_some_iff] at hrest
    rw [hrest] at h
    simp at h
  next => rfl

theorem not_mem_bareIdent {c : Char} {s : String} (h : c ∉ s.toList) :
    c ∉ (bareIdent s).toList := by
  rw [bareIdent]
  split
  next rest hrest =>
    rw [Text.dropStart?_eq_some_iff] at hrest
    rw [hrest, List.mem_append, not_or] at h
    rw [String.toList_ofList]
    exact h.2
  next => exact h

/-- A method is a raw identifier of a keyword, or it is neither. -/
theorem methodName_raw (x : Operation) :
    (∃ k ∈ Naming.keywords, methodName x = "r#" ++ k) ∨
      '#' ∉ (methodName x).toList ∧ methodName x ∉ Naming.keywords := by
  have hlong : ∀ p ∈ clientMethods, '#' ∉ (p ++ "_operation").toList ∧
      p ++ "_operation" ∉ Naming.keywords := by decide
  have hreserved : ∀ p ∈ Naming.reserved, p ++ "_value" ∉ Naming.keywords ∧
      '#' ∉ (p ++ "_value").toList := by decide
  have hmark : '#' ∉ (Naming.lettered (Naming.snake x.name)).toList :=
    Naming.not_mem_lettered (by decide) (Naming.not_mem_snake (by decide) x.name)
  rcases methodName_cases x with ⟨hx, h⟩ | ⟨-, h, -⟩
  · rw [h]
    exact .inr (hlong _ hx)
  · rw [h, show Naming.fieldIdent x.name =
      Naming.escaped (Naming.lettered (Naming.snake x.name)) from rfl]
    rcases Naming.escaped_cases (Naming.lettered (Naming.snake x.name)) with
      ⟨hmem, he⟩ | ⟨hmem, he⟩ | ⟨-, hnot, he⟩ <;> rw [he]
    · exact .inr ⟨(hreserved _ hmem).2, (hreserved _ hmem).1⟩
    · exact .inl ⟨_, hmem, rfl⟩
    · exact .inr ⟨hmark, hnot⟩

/-- No two methods are told apart by the mark alone. -/
theorem bareIdent_methodName_inj (h : bareIdent (methodName x) = bareIdent (methodName y)) :
    methodName x = methodName y := by
  rcases methodName_raw x with ⟨k, hk, hx⟩ | ⟨hmark, hx⟩ <;>
    rcases methodName_raw y with ⟨k', hk', hy⟩ | ⟨hmark', hy⟩
  · rw [hx, hy, bareIdent_raw, bareIdent_raw] at h
    rw [hx, hy, h]
  · rw [hx, bareIdent_raw, bareIdent_of_not_mem hmark'] at h
    exact absurd (h ▸ hk) hy
  · rw [hy, bareIdent_raw, bareIdent_of_not_mem hmark] at h
    exact absurd (h ▸ hk') hx
  · rwa [bareIdent_of_not_mem hmark, bareIdent_of_not_mem hmark'] at h

/-- There is no bracket in a method. -/
theorem not_mem_methodName (x : Operation) : '(' ∉ (methodName x).toList := by
  have hsnake : '(' ∉ (Naming.snake x.name).toList := Naming.not_mem_snake (by decide) x.name
  rcases methodName_cases x with ⟨-, h⟩ | ⟨-, h, -⟩ <;> rw [h]
  · exact not_mem_append hsnake (by decide)
  · exact Naming.not_mem_escaped (by decide) (Naming.not_mem_lettered (by decide) hsnake)

/-- No method of an operation is one that every client has. -/
theorem methodName_not_mem_clientMethods (x : Operation) : methodName x ∉ clientMethods := by
  have hlong : ∀ p ∈ clientMethods, p ++ "_operation" ∉ clientMethods := by decide
  rcases methodName_cases x with ⟨hx, h⟩ | ⟨-, -, h⟩
  · exact h ▸ hlong _ hx
  · exact h

end Crate

end Clientwright
