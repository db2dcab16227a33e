import Clientwright.Proofs.MarkdownBlanks

/-!
# Lines of documentation

A comment has a line for each line of the Markdown. The Markdown is tidy, and its lines are what
stands between two of its line feeds or between one of them and an end of the text: a blank at
the end of a line would stand beside a line feed or at an end of the text, two empty lines
together are three line feeds, and an empty line that comes first or last is a line feed at an end.
-/

namespace Clientwright.Docs

open Text

variable {s t : List Char} {c : Char}

/-! ## The lines of a tidy text -/

/-- The text of a line: its blanks are spaces, so that no line breaks in it, and none of them
stands at an end. -/
structure Proper (text : List Char) : Prop where
  blanks : ∀ c ∈ text, isBlank c = true → c = ' '
  head : ∀ c ∈ text.head?, isBlank c = false
  last : ∀ c ∈ text.getLast?, isBlank c = false

/-- The texts of the lines of a comment: the first and the last of them have something in them,
and no two without anything stand together. -/
structure Composed (texts : List (List Char)) : Prop where
  proper : ∀ text ∈ texts, Proper text
  first : [] ∉ texts.head?
  last : [] ∉ texts.getLast?
  apart : ¬ [[], []] <:+: texts

/-- What stands in front of a line is nothing, or it ends with a line feed. -/
theorem front_cases (lines : List (List Char)) :
    lines = [] ∨ ∃ front, lines.flatMap (· ++ ['\n']) = front ++ ['\n'] := by
  rcases List.eq_nil_or_concat lines with rfl | ⟨first, last, rfl⟩
  · exact .inl rfl
  · exact .inr ⟨first.flatMap (· ++ ['\n']) ++ last, by simp⟩

/-- And what stands behind it is nothing, or it begins with one. -/
theorem back_cases (lines : List (List Char)) :
    lines = [] ∨ ∃ back, lines.flatMap ('\n' :: ·) = '\n' :: back := by
  cases lines with
  | nil => exact .inl rfl
  | cons first rest => exact .inr ⟨first ++ rest.flatMap ('\n' :: ·), rfl⟩

theorem intercalate_middle (front back : List (List Char)) (line : List Char) :
    ['\n'].intercalate (front ++ line :: back) =
      front.flatMap (· ++ ['\n']) ++ (line ++ back.flatMap ('\n' :: ·)) := by
  induction front with
  | nil =>
      rw [List.nil_append, List.flatMap_nil, List.nil_append]
      induction back generalizing line with
      | nil => simp
      | cons next back ih =>
          rw [List.intercalate_cons_of_ne_nil (List.cons_ne_nil next back), ih]
          simp
  | cons first front ih =>
      have hne : front ++ line :: back ≠ [] := by simp
      rw [List.cons_append, List.intercalate_cons_of_ne_nil hne, ih]
      simp

theorem Tidy.not_front (h : Tidy s) (hs : s = '\n' :: t) : False := by
  subst hs
  exact absurd (h.head '\n' rfl) (by decide)

theorem Tidy.not_back (h : Tidy s) (hs : s = t ++ ['\n']) : False := by
  subst hs
  exact absurd (h.last '\n' (by simp)) (by decide)

/-- The lines of a tidy text are all of it. -/
theorem intercalate_lines (h : Tidy s) : ['\n'].intercalate (lines s) = s := by
  have hsplit : ['\n'].intercalate (Text.splitAt (· = '\n') s) = s := intercalate_splitAt '\n' s
  dsimp only [lines]
  split
  · next hlast =>
    -- Nothing stands behind a last line feed, so there is none.
    obtain ⟨front, hfront⟩ := List.getLast?_eq_some_iff.mp hlast
    rw [hfront, intercalate_middle] at hsplit
    rcases front_cases front with rfl | ⟨first, hfirst⟩
    · rw [hfront]
      exact hsplit
    · rw [hfirst] at hsplit
      exact (h.not_back (t := first) (by simpa using hsplit.symm)).elim
  · exact hsplit

theorem infix_of_mem_lines (h : Tidy s) {line : List Char} (hline : line ∈ lines s) :
    line <:+: s := by
  have hs := intercalate_lines h
  obtain ⟨front, back, hlines⟩ := List.append_of_mem hline
  rw [hlines, intercalate_middle, ← List.append_assoc] at hs
  exact ⟨_, _, hs⟩

theorem lines_ne_blank (h : Tidy s) : lines s ≠ [[]] := by
  intro hlines
  have hs := intercalate_lines h
  rw [hlines, List.intercalate_singleton] at hs
  subst hs
  exact absurd hlines (by decide)

theorem proper_of_mem_lines (h : Tidy s) {line : List Char} (hline : line ∈ lines s) :
    Proper line := by
  have hs := intercalate_lines h
  have hfeed : '\n' ∉ line := feed_not_mem_of_mem_lines hline
  obtain ⟨front, back, hlines⟩ := List.append_of_mem hline
  rw [hlines, intercalate_middle] at hs
  have hblanks : ∀ c ∈ line, isBlank c = true → c = ' ' := by
    intro c hc hblank
    have hmem : c ∈ s := by
      rw [← hs]
      simp [hc]
    refine (isPlain_iff.mp (h.plain c hmem) hblank).resolve_right ?_
    rintro rfl
    exact hfeed hc
  refine ⟨hblanks, fun c hc => ?_, fun c hc => ?_⟩
  · obtain ⟨rest, rfl⟩ := List.head?_eq_some_iff.mp hc
    rw [← Bool.not_eq_true]
    intro hblank
    obtain rfl := hblanks c List.mem_cons_self hblank
    rcases front_cases front with rfl | ⟨first, hfirst⟩
    · exact absurd (h.head ' ' (by simp [← hs])) (by decide)
    · rw [hfirst] at hs
      refine h.flush.before ⟨first, rest ++ back.flatMap ('\n' :: ·), ?_⟩
      simpa using hs
  · obtain ⟨rest, rfl⟩ := List.getLast?_eq_some_iff.mp hc
    rw [← Bool.not_eq_true]
    intro hblank
    obtain rfl := hblanks c (by simp) hblank
    rcases back_cases back with rfl | ⟨last, hlast⟩
    · exact absurd (h.last ' ' (by simp [← hs])) (by decide)
    · rw [hlast] at hs
      refine h.flush.behind ⟨front.flatMap (· ++ ['\n']) ++ rest, last, ?_⟩
      simpa using hs

theorem composed_lines (h : Tidy s) : Composed (lines s) := by
  have hs := intercalate_lines h
  have hblank := lines_ne_blank h
  refine ⟨fun line hline => proper_of_mem_lines h hline, fun hfirst => ?_, fun hlast => ?_, ?_⟩
  · obtain ⟨back, hlines⟩ := List.head?_eq_some_iff.mp hfirst
    rw [hlines, ← List.nil_append ([] :: back), intercalate_middle] at hs
    rcases back_cases back with rfl | ⟨last, hback⟩
    · exact hblank hlines
    · exact h.not_front (by rw [← hs, hback]; rfl)
  · obtain ⟨front, hlines⟩ := List.getLast?_eq_some_iff.mp hlast
    rw [hlines, intercalate_middle] at hs
    rcases front_cases front with rfl | ⟨first, hfront⟩
    · exact hblank hlines
    · exact h.not_back (t := first) (by rw [← hs, hfront]; simp)
  · rintro ⟨front, back, hlines⟩
    rw [← hlines, List.append_assoc, List.cons_append, intercalate_middle] at hs
    rcases front_cases front with rfl | ⟨first, hfront⟩
    · exact h.not_front (by rw [← hs]; rfl)
    · rcases back_cases back with rfl | ⟨last, hback⟩
      · exact h.not_back (t := first ++ ['\n']) (by rw [← hs, hfront]; simp)
      · refine h.feeds ⟨first, last, ?_⟩
        rw [← hs, hfront]
        simp [hback]

/-! ## The lines of a comment -/

/-- The line for a text: the indentation, the marker and, behind a space, the text. -/
def docLine (indent : Nat) (text : List Char) : List Char :=
  List.replicate (4 * indent) ' ' ++ (['/', '/', '/'] ++
    ((if text = [] then [] else ' ' :: text) ++ ['\n']))

theorem toList_comment (html : String) (indent : Nat) : (comment (some html) indent).toList =
    (lines (markdownChars html.toList)).flatMap (docLine indent) := by
  rw [comment, String.toList_join, commentLines, List.map_map, List.flatMap_map]
  refine List.flatMap_congr fun line _ => ?_
  cases line with
  | nil => simp [commentLine, indentation, docLine]
  | cons c line => simp [commentLine, indentation, docLine]

theorem not_mem_fence {c : Char} {n : Nat}
    (hc : c ∈ List.replicate n ' ' ++ ['/', '/', '/']) : c ∉ fence := by
  have hcases : c = ' ' ∨ c = '/' := by
    rcases List.mem_append.mp hc with hc | hc
    · exact .inl (List.mem_replicate.mp hc).2
    · exact .inr (by simpa using hc)
  rcases hcases with rfl | rfl <;> decide

theorem not_fence_docLines {texts : List (List Char)} (indent : Nat)
    (h : ∀ text ∈ texts, ¬ fence <:+: text) : ¬ fence <:+: texts.flatMap (docLine indent) := by
  induction texts with
  | nil => exact fun hnil => absurd (List.infix_nil.mp hnil) (by decide)
  | cons text texts ih =>
      obtain ⟨htext, htexts⟩ := List.forall_mem_cons.mp h
      rw [List.flatMap_cons, docLine, List.append_assoc, List.append_assoc, List.append_assoc,
        List.singleton_append]
      intro hfence
      rw [← List.append_assoc] at hfence
      have htail := infix_append_of_disjoint (by decide) (fun _ => not_mem_fence) hfence
      rcases (infix_append_cons (by decide)).mp htail with hinner | hrest
      · split at hinner
        · exact absurd (List.infix_nil.mp hinner) (by decide)
        · rcases (infix_append_cons (s := []) (by decide)).mp hinner with hnil | hinner
          · exact absurd (List.infix_nil.mp hnil) (by decide)
          · exact htext hinner
      · exact ih htexts hrest

/-- The comment for a fragment is a sequence of comment lines with single empty ones between them,
it has no fence, and what it says is the Markdown of the fragment. -/
theorem comment_composed (html : Option String) (indent : Nat) : ∃ texts : List (List Char),
    (comment html indent).toList = texts.flatMap (docLine indent) ∧ Composed texts ∧
      ¬ fence <:+: (comment html indent).toList ∧
      ['\n'].intercalate texts = (html.elim [] fun html => markdownChars html.toList) := by
  cases html with
  | none =>
      refine ⟨[], rfl, ⟨by simp, by simp, by simp, by simp⟩, ?_, rfl⟩
      exact fun hnil => absurd (List.infix_nil.mp hnil) (by decide)
  | some html =>
      have htidy := tidy_markdownChars html.toList
      refine ⟨_, toList_comment html indent, composed_lines htidy, ?_, ?_⟩
      · rw [toList_comment]
        exact not_fence_docLines indent fun line hline hfence =>
          not_fence_markdownChars html.toList (hfence.trans (infix_of_mem_lines htidy hline))
      · rw [Option.elim_some, intercalate_lines htidy]

end Clientwright.Docs
