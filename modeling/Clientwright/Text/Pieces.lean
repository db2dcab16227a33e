/-!
# Cutting and replacing

Texts are cut at a character or at a word, and words in them are replaced from left to right. All
of it works on the list of characters, so that each function is a plain recursion.
-/

namespace Clientwright.Text

/-- What is left of the text after the given beginning, if it begins so. -/
def dropStart? : List Char → List Char → Option (List Char)
  | [], s => some s
  | p :: ps, c :: s => if p = c then dropStart? ps s else none
  | _ :: _, [] => none

theorem dropStart?_eq_some_iff {p s rest : List Char} :
    dropStart? p s = some rest ↔ s = p ++ rest := by
  induction p generalizing s with
  | nil => simp [dropStart?]
  | cons a p ih =>
    cases s with
    | nil => simp [dropStart?]
    | cons c s =>
      by_cases h : a = c
      · simp [dropStart?, h, ih]
      · simp only [dropStart?, h, if_false, List.cons_append, List.cons.injEq]
        exact ⟨nofun, fun e => absurd e.1.symm h⟩

/-- The pieces between the characters that satisfy the predicate; a text has one piece more than it
has such characters. -/
def splitAt (isCut : Char → Bool) : List Char → List (List Char)
  | [] => [[]]
  | c :: s =>
    if isCut c then [] :: splitAt isCut s
    else
      match splitAt isCut s with
      | piece :: rest => (c :: piece) :: rest
      | [] => [[c]]

/-- The text before the first character of the kind and the text after it. -/
def cutAt? (isCut : Char → Bool) : List Char → Option (List Char × List Char)
  | [] => none
  | c :: s =>
    if isCut c then some ([], s)
    else (cutAt? isCut s).map fun (before, after) => (c :: before, after)

theorem cutAt?_eq_some {isCut : Char → Bool} {s before after : List Char}
    (h : cutAt? isCut s = some (before, after)) :
    ∃ c, isCut c = true ∧ s = before ++ c :: after ∧ ∀ d ∈ before, isCut d = false := by
  induction s generalizing before after with
  | nil => simp [cutAt?] at h
  | cons c s ih =>
    unfold cutAt? at h
    split at h
    · next hc =>
      obtain ⟨rfl, rfl⟩ := Prod.mk.inj (Option.some.inj h)
      exact ⟨c, hc, rfl, by simp⟩
    · next hc =>
      simp only [Option.map_eq_some_iff, Prod.mk.injEq, Prod.exists] at h
      obtain ⟨b, a, hs, rfl, rfl⟩ := h
      obtain ⟨d, hd, rfl, hb⟩ := ih hs
      refine ⟨d, hd, rfl, ?_⟩
      intro e he
      rcases List.mem_cons.mp he with rfl | he
      · simpa using hc
      · exact hb e he

/-- The text before the first occurrence of the word and the text after it. -/
def cutAtWord? (word : List Char) : List Char → Option (List Char × List Char)
  | [] => if word.isEmpty then some ([], []) else none
  | c :: s =>
    match dropStart? word (c :: s) with
    | some rest => some ([], rest)
    | none => (cutAtWord? word s).map fun (before, after) => (c :: before, after)

theorem cutAtWord?_cons {word s : List Char} {c : Char} : cutAtWord? word (c :: s) =
    match dropStart? word (c :: s) with
    | some rest => some ([], rest)
    | none => (cutAtWord? word s).map fun (before, after) => (c :: before, after) := rfl

theorem cutAtWord?_eq_some {word s before after : List Char}
    (h : cutAtWord? word s = some (before, after)) : s = before ++ (word ++ after) := by
  induction s generalizing before with
  | nil =>
    by_cases hword : word = []
    · subst hword
      obtain ⟨rfl, rfl⟩ := Prod.mk.inj (Option.some.inj h)
      rfl
    · simp [cutAtWord?, hword] at h
  | cons c s ih =>
    rw [cutAtWord?_cons] at h
    split at h
    · next rest hrest =>
      obtain ⟨rfl, rfl⟩ := Prod.mk.inj (Option.some.inj h)
      show c :: s = word ++ rest
      exact dropStart?_eq_some_iff.mp hrest
    · next =>
      obtain ⟨⟨b, a⟩, hs, heq⟩ := Option.map_eq_some_iff.mp h
      obtain ⟨rfl, rfl⟩ := Prod.mk.inj heq
      rw [ih hs, List.cons_append]

theorem cutAtWord?_of_start {word s : List Char} (h : word ≠ []) :
    cutAtWord? word (word ++ s) = some ([], s) := by
  cases word with
  | nil => exact absurd rfl h
  | cons c word =>
    have hdrop : dropStart? (c :: word) (c :: (word ++ s)) = some s :=
      dropStart?_eq_some_iff.mpr rfl
    rw [List.cons_append, cutAtWord?_cons, hdrop]

/-- A word that does not stand at the start is found where it is found after it. -/
theorem cutAtWord?_of_cons {word s before after : List Char} {c : Char}
    (hc : ∀ rest, c :: s ≠ word ++ rest) (h : cutAtWord? word s = some (before, after)) :
    cutAtWord? word (c :: s) = some (c :: before, after) := by
  have hdrop : dropStart? word (c :: s) = none := by
    rw [Option.eq_none_iff_forall_ne_some]
    intro rest hrest
    exact hc rest (dropStart?_eq_some_iff.mp hrest)
  rw [cutAtWord?_cons, hdrop, h]
  rfl

/-- `substitute` with `skip` characters still to be passed over, since an earlier match covers
them. -/
def substituteFrom (rule : List Char → Option (List Char × Nat)) : Nat → List Char → List Char
  | _, [] => []
  | skip + 1, _ :: s => substituteFrom rule skip s
  | 0, c :: s =>
    match rule (c :: s) with
    | some (image, n) => image ++ substituteFrom rule n s
    | none => c :: substituteFrom rule 0 s

/-- Goes over a text from left to right. Where the rule answers `(image, n)` at a character, the
image stands for it and the `n` characters after it; elsewhere the character stays. -/
def substitute (rule : List Char → Option (List Char × Nat)) (s : List Char) : List Char :=
  substituteFrom rule 0 s

/-- Replaces every occurrence of a word that is not empty, from left to right. -/
def replaceWord (word image : List Char) : List Char → List Char :=
  substitute fun s => (dropStart? word s).map fun _ => (image, word.length - 1)

/-- Replaces one character by another. -/
def replaceChar (old new : Char) (s : String) : String :=
  String.ofList (s.toList.map fun c => if c = old then new else c)

/-- The lines of a text: cut at line feeds, without the empty piece after a last line feed. -/
def lines (s : List Char) : List (List Char) :=
  let pieces := splitAt (· = '\n') s
  if pieces.getLast? = some [] then pieces.dropLast else pieces

end Clientwright.Text
