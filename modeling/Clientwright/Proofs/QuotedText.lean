import Clientwright.Docs.Filter
import Clientwright.Yaml.Scalars
import Mathlib.Tactic.IntervalCases

/-!
# Quoted text read back

A reader of literals goes over a text a character at a time and knows of what it has passed
only in what kind of place it stands: between characters, behind a backslash, or in the braces
of a code point. It ends at the first quote that is not escaped. A text that is quoted takes it
from the opening quote to the closing one and gives the text again, whatever stands behind
(`readLiteral?_literalChars`), so nothing in the text ends the literal early and two texts have
two literals. Inside the quotes there are no blanks but spaces, since the others have no picture.
-/

namespace Clientwright.Text

open Yaml (hexValue? hexNumber? charOf?)

variable {c : Char} {s rest : List Char}

/-! ## Reading a literal -/

/-- The character of a code point in one to six hexadecimal digits. -/
def charOfHex? (digits : List Char) : Option Char :=
  if digits.isEmpty || 6 < digits.length then none else (hexNumber? digits).bind charOf?

/-- The character for which a letter stands behind a backslash. -/
def escaped? (c : Char) : Option Char :=
  if c = '\\' ∨ c = '"' ∨ c = '\'' then some c
  else if c = 'n' then some '\n'
  else if c = 'r' then some '\r'
  else if c = 't' then some '\t'
  else if c = '0' then some '\x00'
  else none

/-- Where the reader of a literal stands. -/
inductive Place where
  /-- between two characters -/
  | plain
  /-- behind a backslash -/
  | escape
  /-- behind the mark of a code point -/
  | mark
  /-- behind some digits of a code point -/
  | digits (before : List Char)

/-- Reads a literal from behind its opening quote: the text, and what stands behind the closing
quote. A line break in it is an error, and so is an escape that stands for nothing. -/
def readInside? : Place → List Char → Option (List Char × List Char)
  | _, [] => none
  | .plain, c :: s =>
    if c = '"' then some ([], s)
    else if c = '\\' then readInside? .escape s
    else if c = '\n' ∨ c = '\r' then none
    else (readInside? .plain s).map fun (text, rest) => (c :: text, rest)
  | .escape, c :: s =>
    if c = 'u' then readInside? .mark s
    else do
      let d ← escaped? c
      let (text, rest) ← readInside? .plain s
      return (d :: text, rest)
  | .mark, c :: s => if c = '\x7b' then readInside? (.digits []) s else none
  | .digits before, c :: s =>
    if c = '\x7d' then do
      let d ← charOfHex? before
      let (text, rest) ← readInside? .plain s
      return (d :: text, rest)
    else readInside? (.digits (before ++ [c])) s

/-- Reads the literal at the start of a text. -/
def readLiteral? : List Char → Option (List Char × List Char)
  | '"' :: s => readInside? .plain s
  | _ => none

/-- What may stand between the quotes of a literal: no quote without a backslash before it, no
backslash that escapes nothing, and no blank other than a space. -/
inductive Sealed : List Char → Prop where
  | nil : Sealed []
  | plain {c : Char} {s : List Char} : c ≠ '"' → c ≠ '\\' → (isBlank c = true → c = ' ') →
      Sealed s → Sealed (c :: s)
  | escaped {c : Char} {s : List Char} : isBlank c = false → Sealed s → Sealed ('\\' :: c :: s)

/-! ## Code points -/

theorem hexValue?_digitChar {n : Nat} (h : n < 16) : hexValue? n.digitChar = some n := by
  interval_cases n <;> rfl

theorem hexNumber?_toDigits (n : Nat) : hexNumber? (Nat.toDigits 16 n) = some n := by
  induction n using Nat.strong_induction_on with
  | h n ih =>
      by_cases hn : n < 16
      · rw [Nat.toDigits_of_lt_base hn, hexNumber?, List.foldlM_cons, hexValue?_digitChar hn]
        simp
      · have hfront : hexNumber? (Nat.toDigits 16 (n / 16)) = some (n / 16) := ih _ (by omega)
        have hlast : n % 16 < 16 := Nat.mod_lt n (by decide)
        rw [Nat.toDigits_of_base_le (by decide) (by omega), hexNumber?, List.foldlM_append,
          ← hexNumber?, hfront]
        simp [hexValue?_digitChar hlast]
        omega

theorem charOf?_toNat (c : Char) : charOf? c.toNat = some c := by
  have hvalid : c.toNat.isValidChar := c.valid
  rw [charOf?, if_pos, Char.ofNat_toNat]
  simpa [Nat.isValidChar] using hvalid

theorem charOfHex?_hexDigits (c : Char) : charOfHex? (hexDigits c) = some c := by
  have hvalid : c.toNat.isValidChar := c.valid
  have hlength : (hexDigits c).length ≤ 6 := by
    rw [hexDigits, Nat.length_toDigits_le_iff (by decide) (by decide)]
    rcases hvalid with h | h <;> omega
  have hne : (hexDigits c).isEmpty = false := List.isEmpty_eq_false_iff.mpr Nat.toDigits_ne_nil
  rw [charOfHex?, if_neg (by simpa [hne] using hlength), hexDigits, hexNumber?_toDigits,
    Option.bind_some, charOf?_toNat]

theorem forall_mem_hexDigits {p : Char → Prop} (h : ∀ n < 16, p n.digitChar) :
    ∀ d ∈ hexDigits c, p d := by
  have hall : ∀ n, ∀ d ∈ Nat.toDigits 16 n, p d := by
    intro n
    induction n using Nat.strong_induction_on with
    | h n ih =>
        by_cases hn : n < 16
        · rw [Nat.toDigits_of_lt_base hn]
          exact List.forall_mem_singleton.mpr (h n hn)
        · rw [Nat.toDigits_of_base_le (by decide) (by omega)]
          refine List.forall_mem_append.mpr ⟨ih _ (by omega), List.forall_mem_singleton.mpr ?_⟩
          exact h _ (Nat.mod_lt n (by decide))
  exact hall c.toNat

/-! ## Reading what was quoted -/

/-- The text that has been read, with a character in front of it. -/
def prepend (c : Char) : List Char × List Char → List Char × List Char :=
  fun (text, rest) => (c :: text, rest)

theorem readInside?_plain (hquote : c ≠ '"') (hbackslash : c ≠ '\\')
    (hbreak : c ≠ '\n' ∧ c ≠ '\r') :
    readInside? .plain (c :: s) = (readInside? .plain s).map (prepend c) := by
  simp only [readInside?, hquote, hbackslash, hbreak.1, hbreak.2, or_self, if_false]
  rfl

theorem readInside?_escaped {d : Char} (hd : escaped? d = some c) :
    readInside? .plain ('\\' :: d :: s) = (readInside? .plain s).map (prepend c) := by
  have hmark : d ≠ 'u' := by
    rintro rfl
    exact nomatch hd
  show readInside? .escape (d :: s) = _
  rw [readInside?, if_neg hmark, hd]
  cases readInside? .plain s with
  | none => rfl
  | some read => rfl

theorem readInside?_digits {l before : List Char} (hl : '\x7d' ∉ l) :
    readInside? (.digits before) (l ++ s) = readInside? (.digits (before ++ l)) s := by
  induction l generalizing before with
  | nil => rw [List.nil_append, List.append_nil]
  | cons d l ih =>
      have hd : d ≠ '\x7d' := (List.ne_of_not_mem_cons hl).symm
      rw [List.cons_append, readInside?, if_neg hd, ih (List.not_mem_of_not_mem_cons hl),
        List.append_assoc, List.singleton_append]

theorem readInside?_codePoint : readInside? .plain
    (['\\', 'u', '\x7b'] ++ hexDigits c ++ ['\x7d'] ++ s) =
      (readInside? .plain s).map (prepend c) := by
  have hclose : '\x7d' ∉ hexDigits c := by
    have hne : ∀ d ∈ hexDigits c, d ≠ '\x7d' := forall_mem_hexDigits (by decide)
    exact fun hmem => hne _ hmem rfl
  rw [List.append_assoc, List.append_assoc]
  show readInside? (.digits []) (hexDigits c ++ ('\x7d' :: s)) = _
  rw [readInside?_digits hclose, List.nil_append, readInside?, if_pos rfl, charOfHex?_hexDigits]
  cases readInside? .plain s with
  | none => rfl
  | some read => rfl

theorem readInside?_literalChar (c : Char) (s : List Char) :
    readInside? .plain (literalChar c ++ s) = (readInside? .plain s).map (prepend c) := by
  unfold literalChar
  split
  · next hc => exact hc ▸ readInside?_escaped rfl
  · split
    · next hc => exact hc ▸ readInside?_escaped rfl
    · split
      · next hc => exact hc ▸ readInside?_escaped rfl
      · split
        · next hc => exact hc ▸ readInside?_escaped rfl
        · split
          · next hc =>
            refine readInside?_escaped (if_pos ?_)
            exact hc.imp_right .inl
          · next hfeed hc =>
            split
            · exact readInside?_plain (fun h => hc (.inr h)) (fun h => hc (.inl h)) ⟨‹_›, ‹_›⟩
            · exact readInside?_codePoint

theorem readInside?_literal (s rest : List Char) :
    readInside? .plain (s.flatMap literalChar ++ '"' :: rest) = some (s, rest) := by
  induction s with
  | nil => rfl
  | cons c s ih =>
      rw [List.flatMap_cons, List.append_assoc, readInside?_literalChar, ih]
      rfl

theorem readLiteral?_literalChars (s rest : List Char) :
    readLiteral? (literalChars s ++ rest) = some (s, rest) := by
  have hinside := readInside?_literal s rest
  rw [literalChars, List.cons_append, List.cons_append, List.append_assoc, List.singleton_append]
  exact hinside

/-! ## Between the quotes -/

/-- Every range of blanks is the space, or among the controls, or hidden. -/
theorem blankRanges_hidden : ∀ r ∈ blankRanges, r = (0x20, 0x20) ∨ r.2 < 0x20 ∨
    0x80 ≤ r.1 ∧ ∃ h ∈ hiddenRanges, h.1 ≤ r.1 ∧ r.2 ≤ h.2 := by
  decide +kernel

/-- A blank other than the space has no picture. -/
theorem isVisible_of_blank (hblank : isBlank c = true) (hc : c ≠ ' ') : isVisible c = false := by
  obtain ⟨r, hr, hlow, hhigh⟩ := inRanges_iff.mp hblank
  rcases blankRanges_hidden r hr with rfl | hcontrol | ⟨hascii, h, hh, hfirst, hlast⟩
  · have hspace : c.toNat = ' '.toNat := Nat.le_antisymm hhigh hlow
    exact absurd (Char.toNat_inj.mp hspace) hc
  · have hless : c.toNat < 0x20 := Nat.lt_of_le_of_lt hhigh hcontrol
    rw [isVisible, if_pos (Nat.lt_trans hless (by decide))]
    simp
    omega
  · have hhidden : inRanges hiddenRanges c.toNat = true :=
      inRanges_iff.mpr ⟨h, hh, Nat.le_trans hfirst hlow, Nat.le_trans hhigh hlast⟩
    rw [isVisible, if_neg (Nat.not_lt.mpr (Nat.le_trans hascii hlow)), hhidden]
    rfl

theorem Sealed.append_solid {l : List Char} (h : Sealed s)
    (hl : ∀ d ∈ l, d ≠ '"' ∧ d ≠ '\\' ∧ isBlank d = false) : Sealed (l ++ s) := by
  induction l with
  | nil => exact h
  | cons d l ih =>
      obtain ⟨⟨hquote, hbackslash, hblank⟩, hl⟩ := List.forall_mem_cons.mp hl
      exact .plain hquote hbackslash (fun hd => absurd hd (by simp [hblank])) (ih hl)

theorem Sealed.literalChar_append (c : Char) (h : Sealed s) : Sealed (literalChar c ++ s) := by
  unfold literalChar
  split
  · exact .escaped (by decide) h
  · split
    · exact .escaped (by decide) h
    · split
      · exact .escaped (by decide) h
      · split
        · exact .escaped (by decide) h
        · split
          · next hc =>
            refine .escaped ?_ h
            rcases hc with rfl | rfl <;> decide
          · next hc =>
            split
            · next hvisible =>
              refine .plain (fun h => hc (.inr h)) (fun h => hc (.inl h)) ?_ h
              intro hblank
              by_contra hspace
              rw [isVisible_of_blank hblank hspace] at hvisible
              exact absurd hvisible (by decide)
            · have hdigits : ∀ d ∈ hexDigits c, d ≠ '"' ∧ d ≠ '\\' ∧ isBlank d = false :=
                forall_mem_hexDigits (by decide)
              have hclose : Sealed ('\x7d' :: s) := .plain (by decide) (by decide) (by decide) h
              have hinside := hclose.append_solid hdigits
              rw [List.append_assoc, List.append_assoc]
              exact .escaped (by decide) (.plain (by decide) (by decide) (by decide) hinside)

theorem sealed_literal (s : List Char) : Sealed (s.flatMap literalChar) := by
  induction s with
  | nil => exact .nil
  | cons c s ih =>
      rw [List.flatMap_cons]
      exact ih.literalChar_append c

/-- A literal is a quote, what is sealed, and a quote. A reader takes all of it and nothing of
what stands behind, and has the text then; so the literals of two texts are two. Templates have
the same literals by the filter's name. -/
theorem literal_reads_back (s : String) :
    (∃ inside, (literal s).toList = '"' :: (inside ++ ['"']) ∧ Sealed inside) ∧
      (∀ rest, readLiteral? ((literal s).toList ++ rest) = some (s.toList, rest)) ∧
      (∀ t, literal t = literal s → t = s) ∧
      Filter.ofName? "literal" = some .literal ∧
      ∀ indent, Filter.literal.apply indent (.string s) = .ok (literal s) := by
  have hread : ∀ t rest, readLiteral? ((literal t).toList ++ rest) = some (t.toList, rest) := by
    intro t rest
    rw [literal, String.toList_ofList, readLiteral?_literalChars]
  refine ⟨⟨_, ?_, sealed_literal s.toList⟩, hread s, fun t ht => ?_, by decide, fun _ => rfl⟩
  · rw [literal, String.toList_ofList]
    rfl
  · have htwo := hread t []
    rw [ht, hread s []] at htwo
    exact (String.toList_inj.mp (Prod.mk.inj (Option.some.inj htwo)).1).symm

end Clientwright.Text
