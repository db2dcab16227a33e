import Clientwright.Definition.Sources
import Clientwright.Proofs.UnderscoreRuns

/-!
# Names in lower case

Underscores get into a name in lower case for several reasons: a capital starts a
word, a separator stood between two words, or the name had an underscore itself.
Some of them come together and some stand at an end, and none of these is to stay.
The loops that see to it come to an end, and they leave what `snake` says.

What that is can be seen from the words. The marked text is cut at its underscores,
the empty pieces are the underscores that were too many, and the other pieces are the
words; joined with one underscore between each two of them they are cut into the
same words again (`splitAt_snake`). So there is no empty piece in a name in lower
case, which is to say no underscore at an end and no two of them together, and no
letter or digit is lost, since cutting and joining touch underscores only.

For the rest it is enough to see what marking does to one character. Outside ASCII
it may do less than this: a capital that has no lower case there stays one.
-/

namespace Clientwright

variable {s t : List Char} {c d : Char}

/-! ## Characters of ASCII -/

namespace Text

/-- All characters are of ASCII. -/
def IsAscii (s : List Char) : Prop := ∀ c ∈ s, c.toNat < 0x80

instance (s : List Char) : Decidable (IsAscii s) :=
  decidable_of_iff (s.all (·.toNat < 0x80) = true) (by simp [IsAscii])

theorem isAscii_cons : IsAscii (c :: s) ↔ c.toNat < 0x80 ∧ IsAscii s := List.forall_mem_cons

/-- There are few characters of ASCII, so what holds of all of them can be seen from each. -/
@[elab_as_elim]
theorem ascii_cases {motive : Char → Prop} {c : Char} (hc : c.toNat < 0x80)
    (h : ∀ n < 0x80, motive (Char.ofNat n)) : motive c :=
  Char.ofNat_toNat c ▸ h c.toNat hc

end Text

namespace Naming

open Text

/-! ## One character -/

/-- Is the character one of those that names in lower case are made of? -/
def isSnake (c : Char) : Bool := c.isLower || c.isDigit || c = '_'

theorem lt_of_isSnake (h : isSnake c = true) : c.toNat < 0x80 := by
  have htoNat : c.toNat = c.val.toNat := rfl
  simp only [isSnake, Char.isLower, Char.isDigit, Bool.or_eq_true, Bool.and_eq_true,
    decide_eq_true_eq, ge_iff_le, UInt32.le_iff_toNat_le] at h
  rcases h with (h | h) | rfl
  · simp at h
    omega
  · simp at h
    omega
  · decide

theorem all_markChar (hc : c.toNat < 0x80) :
    ∀ starts, (markChar starts c).all isSnake = true :=
  ascii_cases hc (by decide)

theorem filter_markChar (hc : c.toNat < 0x80) :
    ∀ starts, (markChar starts c).filter (· ≠ '_') =
      if c.isAlphanum then [c.toLower] else [] :=
  ascii_cases hc (by decide)

/-- What is made of a name already is left alone. -/
theorem markChar_of_isSnake (h : isSnake c = true) :
    ∀ starts, markChar starts c = [c] := by
  have hall : isSnake c = true → ∀ starts, markChar starts c = [c] :=
    ascii_cases (lt_of_isSnake h) (by decide)
  exact hall h

/-! ## The marked text -/

theorem isSnake_of_mem_markWords {before : Option Char} (h : IsAscii s)
    (hd : d ∈ markWords before s) : isSnake d = true := by
  induction s generalizing before with
  | nil => cases hd
  | cons c s ih =>
      obtain ⟨hc, hs⟩ := isAscii_cons.mp h
      rw [markWords_cons, List.mem_append] at hd
      exact hd.elim (List.all_eq_true.mp (all_markChar hc _) d) (ih hs)

/-- Marking loses no letter and no digit. -/
theorem filter_markWords (before : Option Char) (h : IsAscii s) :
    (markWords before s).filter (· ≠ '_') = (s.filter Char.isAlphanum).map Char.toLower := by
  induction s generalizing before with
  | nil => rfl
  | cons c s ih =>
      obtain ⟨hc, hs⟩ := isAscii_cons.mp h
      rw [markWords_cons, List.filter_append, filter_markChar hc, ih _ hs, List.filter_cons]
      split
      · rfl
      · rfl

theorem markWords_of_isSnake (before : Option Char) (h : ∀ c ∈ s, isSnake c = true) :
    markWords before s = s := by
  induction s generalizing before with
  | nil => rfl
  | cons c s ih =>
      obtain ⟨hc, hs⟩ := List.forall_mem_cons.mp h
      rw [markWords_cons, markChar_of_isSnake hc, ih _ hs, List.singleton_append]

/-! ## Words -/

theorem toList_snake (name : String) :
    (snake name).toList = ['_'].intercalate (words name.toList) := String.toList_ofList

theorem words_eq (s : List Char) : words s = pieces (· = '_') (markWords none s) := rfl

theorem nil_not_mem_words : [] ∉ words s := fun h => ne_nil_of_mem_pieces h rfl

theorem ne_underscore_of_mem_words {word : List Char} (h : word ∈ words s) (hc : c ∈ word) :
    c ≠ '_' := by
  have hcut := not_cut_of_mem_splitAt (List.mem_of_mem_filter h) hc
  exact of_decide_eq_false hcut

/-- All that is not an underscore is in the words. -/
theorem flatten_words : (words s).flatten = (markWords none s).filter (· ≠ '_') := by
  rw [words_eq, flatten_pieces]
  exact List.filter_congr fun c _ => (decide_not ..).symm

/-- A name in lower case falls into its words. -/
theorem splitAt_snake {name : String} (h : words name.toList ≠ []) :
    splitAt (· = '_') (snake name).toList = words name.toList := by
  rw [toList_snake]
  refine splitAt_intercalate (decide_eq_true rfl) h fun word hword c hc => ?_
  exact decide_eq_false (ne_underscore_of_mem_words hword hc)

theorem toList_snake_of_nil {name : String} (h : words name.toList = []) :
    (snake name).toList = [] := by
  rw [toList_snake, h]
  rfl

/-! ## Names -/

theorem isSnake_of_mem_snake {name : String} (h : IsAscii name.toList)
    (hc : c ∈ (snake name).toList) : isSnake c = true := by
  rw [toList_snake] at hc
  rcases mem_of_mem_intercalate hc with hc | ⟨word, hword, hc⟩
  · obtain rfl := List.mem_singleton.mp hc
    rfl
  · exact isSnake_of_mem_markWords h (mem_of_mem_splitAt (List.mem_of_mem_filter hword) hc)

/-- An underscore at the start, at the end or next to another one would leave an empty piece. -/
theorem underscores_snake (name : String) :
    (snake name).toList.head? ≠ some '_' ∧ (snake name).toList.getLast? ≠ some '_' ∧
      ¬ ['_', '_'] <:+: (snake name).toList := by
  by_cases hwords : words name.toList = []
  · rw [toList_snake_of_nil hwords]
    decide
  have hnil : [] ∉ splitAt (· = '_') (snake name).toList :=
    splitAt_snake hwords ▸ nil_not_mem_words
  have hcut : decide ('_' = '_') = true := rfl
  refine ⟨fun h => hnil ?_, fun h => hnil ?_, fun ⟨before, after, h⟩ => hnil ?_⟩
  · obtain ⟨rest, hrest⟩ := List.head?_eq_some_iff.mp h
    rw [hrest, splitAt_cut hcut]
    exact List.mem_cons_self
  · obtain ⟨rest, hrest⟩ := List.getLast?_eq_some_iff.mp h
    rw [hrest, splitAt_append_cut hcut]
    exact List.mem_append_right _ List.mem_cons_self
  · rw [← h, List.append_assoc, List.cons_append, splitAt_append_cut hcut, List.singleton_append,
      splitAt_cut hcut]
    exact List.mem_append_right _ List.mem_cons_self

/-- The letters and digits of a name are in its words, in order and in lower case. -/
theorem filter_snake {name : String} (h : IsAscii name.toList) :
    (snake name).toList.filter (· ≠ '_') =
      (name.toList.filter Char.isAlphanum).map Char.toLower := by
  rw [← filter_markWords none h, ← flatten_words]
  by_cases hwords : words name.toList = []
  · rw [toList_snake_of_nil hwords, hwords]
    rfl
  · rw [← splitAt_snake hwords, flatten_splitAt]
    exact List.filter_congr fun c _ => decide_not ..

/-- A name in lower case has the words of the name. -/
theorem words_snake {name : String} (h : IsAscii name.toList) :
    words (snake name).toList = words name.toList := by
  by_cases hwords : words name.toList = []
  · rw [toList_snake_of_nil hwords, hwords]
    rfl
  · rw [words, markWords_of_isSnake none fun c hc => isSnake_of_mem_snake h hc,
      splitAt_snake hwords, List.filter_eq_self]
    intro word hword
    exact (List.mem_filter.mp hword).2

theorem snake_snake {name : String} (h : IsAscii name.toList) :
    snake (snake name) = snake name := by
  rw [snake, words_snake h, snake]

/-- A text is a name in normal form: words in lower case, with one underscore between
each two of them; and it keeps what the words of the name are made of. -/
structure IsSnakeOf (name text : String) : Prop where
  characters : ∀ c ∈ text.toList, c.isLower = true ∨ c.isDigit = true ∨ c = '_'
  start : text.toList.head? ≠ some '_'
  finish : text.toList.getLast? ≠ some '_'
  single : ¬ ['_', '_'] <:+: text.toList
  kept : text.toList.filter (· ≠ '_') = (name.toList.filter Char.isAlphanum).map Char.toLower

theorem isSnakeOf_snake {name : String} (h : IsAscii name.toList) :
    IsSnakeOf name (snake name) where
  characters c hc := by
    have hsnake := isSnake_of_mem_snake h hc
    rw [isSnake, Bool.or_eq_true, Bool.or_eq_true, decide_eq_true_eq, or_assoc] at hsnake
    exact hsnake
  start := (underscores_snake name).1
  finish := (underscores_snake name).2.1
  single := (underscores_snake name).2.2
  kept := filter_snake h

/-- Putting a name into lower case is what the two loops come to. It brings the name into
normal form, a name in normal form stays as it is, and so it does not matter whether a
service is named after a name or after what was made of it. -/
theorem snake_normalizes {name : String} (h : IsAscii name.toList) :
    Settles (writeWords [] none name.toList) (snake name).toList ∧
      IsSnakeOf name (snake name) ∧ snake (snake name) = snake name ∧
      ∀ src : Sources, src.withName (snake name) = src.withName name := by
  refine ⟨settles_writeWords name, isSnakeOf_snake h, snake_snake h, fun src => ?_⟩
  rw [Sources.withName, Sources.withName, snake_snake h]

/-- Boundaries of case, separators, doubled underscores and dropped characters at once. -/
theorem snake_normalizes_orders : IsAscii "__HTTPServer: v2 (Beta)--Orders_".toList ∧
    Settles (writeWords [] none "__HTTPServer: v2 (Beta)--Orders_".toList)
      "http_server_v2_beta_orders".toList ∧
    IsSnakeOf "__HTTPServer: v2 (Beta)--Orders_" "http_server_v2_beta_orders" ∧
      snake "http_server_v2_beta_orders" = "http_server_v2_beta_orders" := by
  have hascii : IsAscii "__HTTPServer: v2 (Beta)--Orders_".toList := by decide
  have hsnake : snake "__HTTPServer: v2 (Beta)--Orders_" = "http_server_v2_beta_orders" := by
    rfl
  obtain ⟨hsettles, hnormal, hagain, -⟩ := snake_normalizes hascii
  rw [hsnake] at hsettles hnormal hagain
  exact ⟨hascii, hsettles, hnormal, hagain⟩

end Naming

end Clientwright
