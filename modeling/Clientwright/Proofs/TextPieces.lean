import Clientwright.Proofs.NameCharacters
import Mathlib.Data.List.DropRight

/-!
# Pieces of texts

A text is cut at the characters of a kind, and pieces with nothing between two cuts are
left out more often than not. Two texts with the same pieces then differ in their cuts
alone: how many of them stand together, and how many at the two ends.

The other way round, pieces joined by one cut each are cut into the same pieces again.
-/

namespace Clientwright.Text

variable {isCut : Char → Bool} {s t p : List Char} {c : Char}

/-! ## Cutting and joining -/

theorem splitAt_ne_nil (s : List Char) : splitAt isCut s ≠ [] := by
  cases s with
  | nil => exact List.cons_ne_nil _ _
  | cons c s =>
      unfold splitAt
      split
      · exact List.cons_ne_nil _ _
      · split <;> exact List.cons_ne_nil _ _

theorem splitAt_cut (hc : isCut c = true) : splitAt isCut (c :: s) = [] :: splitAt isCut s := by
  rw [splitAt, if_pos hc]

/-- A character that does not cut belongs to the first piece. -/
theorem splitAt_cons (hc : isCut c = false) :
    splitAt isCut (c :: s) = (splitAt isCut s).modifyHead (c :: ·) := by
  rw [splitAt, if_neg (by rw [hc]; exact Bool.false_ne_true)]
  cases hs : splitAt isCut s with
  | nil => exact absurd hs (splitAt_ne_nil s)
  | cons piece rest => rfl

theorem nil_mem_tail_splitAt (hc : isCut c = false) (h : [] ∈ splitAt isCut (c :: s)) :
    [] ∈ (splitAt isCut (c :: s)).tail := by
  rw [splitAt_cons hc] at h ⊢
  cases hs : splitAt isCut s with
  | nil => exact absurd hs (splitAt_ne_nil s)
  | cons piece rest =>
      rw [hs, List.modifyHead_cons] at h
      exact (List.mem_cons.mp h).resolve_left nofun

/-- A text is cut into the pieces before a cut and the pieces after it. -/
theorem splitAt_append_cut (hc : isCut c = true) :
    splitAt isCut (s ++ c :: t) = splitAt isCut s ++ splitAt isCut t := by
  induction s with
  | nil => exact splitAt_cut hc
  | cons d s ih =>
      rw [List.cons_append]
      cases hd : isCut d with
      | true => rw [splitAt_cut hd, splitAt_cut hd, ih, List.cons_append]
      | false =>
          rw [splitAt_cons hd, splitAt_cons hd, ih]
          cases hs : splitAt isCut s with
          | nil => exact absurd hs (splitAt_ne_nil s)
          | cons piece rest => rfl

theorem splitAt_of_uncut (h : ∀ c ∈ s, isCut c = false) : splitAt isCut s = [s] := by
  induction s with
  | nil => rfl
  | cons c s ih =>
      obtain ⟨hc, hs⟩ := List.forall_mem_cons.mp h
      rw [splitAt_cons hc, ih hs, List.modifyHead_cons]

/-- Cutting undoes joining. -/
theorem splitAt_intercalate {l : List (List Char)} (hc : isCut c = true) (hne : l ≠ [])
    (huncut : ∀ piece ∈ l, ∀ d ∈ piece, isCut d = false) :
    splitAt isCut ([c].intercalate l) = l := by
  induction l with
  | nil => exact absurd rfl hne
  | cons piece l ih =>
      obtain ⟨hpiece, hl⟩ := List.forall_mem_cons.mp huncut
      cases l with
      | nil => rw [List.intercalate_singleton, splitAt_of_uncut hpiece]
      | cons next l =>
          have hnext : next :: l ≠ [] := List.cons_ne_nil next l
          rw [List.intercalate_cons_of_ne_nil hnext, List.append_assoc, List.singleton_append,
            splitAt_append_cut hc, splitAt_of_uncut hpiece, ih hnext hl, List.singleton_append]

/-- The pieces have what does not cut. -/
theorem flatten_splitAt (s : List Char) :
    (splitAt isCut s).flatten = s.filter fun c => !isCut c := by
  induction s with
  | nil => rfl
  | cons c s ih =>
      cases hc : isCut c with
      | true =>
          rw [splitAt_cut hc, List.flatten_cons, ih, List.nil_append, List.filter_cons_of_neg]
          rw [hc]
          decide
      | false =>
          rw [splitAt_cons hc, List.filter_cons_of_pos (by rw [hc]; rfl), ← ih]
          cases hs : splitAt isCut s with
          | nil => exact absurd hs (splitAt_ne_nil s)
          | cons piece rest => rfl

/-- Joining undoes cutting. -/
theorem intercalate_splitAt (c : Char) (s : List Char) :
    [c].intercalate (splitAt (· = c) s) = s := by
  induction s with
  | nil => rfl
  | cons d s ih =>
      cases hd : decide (d = c) with
      | true =>
          rw [splitAt_cut hd, List.intercalate_cons_of_ne_nil (splitAt_ne_nil s), ih,
            of_decide_eq_true hd]
          rfl
      | false =>
          rw [splitAt_cons hd]
          cases hs : splitAt (· = c) s with
          | nil => exact absurd hs (splitAt_ne_nil s)
          | cons piece rest =>
              rw [List.modifyHead_cons]
              rw [hs] at ih
              cases rest with
              | nil =>
                  rw [List.intercalate_singleton] at ih ⊢
                  rw [ih]
              | cons next rest =>
                  have hrest : next :: rest ≠ [] := List.cons_ne_nil next rest
                  rw [List.intercalate_cons_of_ne_nil hrest] at ih ⊢
                  rw [List.cons_append, List.cons_append, ih]

/-! ## Pieces with something in them -/

/-- The pieces of a text that have something in them. -/
def pieces (isCut : Char → Bool) (s : List Char) : List (List Char) :=
  (splitAt isCut s).filter fun piece => !piece.isEmpty

theorem ne_nil_of_mem_pieces (hp : p ∈ pieces isCut s) : p ≠ [] := by
  rintro rfl
  exact absurd (List.mem_filter.mp hp).2 (by decide)

theorem pieces_cut (hc : isCut c = true) : pieces isCut (c :: s) = pieces isCut s := by
  rw [pieces, splitAt_cut hc]
  rfl

theorem pieces_append_cut (hc : isCut c = true) :
    pieces isCut (s ++ c :: t) = pieces isCut s ++ pieces isCut t := by
  rw [pieces, splitAt_append_cut hc, List.filter_append, pieces, pieces]

theorem pieces_of_cut (h : ∀ c ∈ s, isCut c = true) : pieces isCut s = [] := by
  induction s with
  | nil => rfl
  | cons c s ih =>
      obtain ⟨hc, hs⟩ := List.forall_mem_cons.mp h
      rw [pieces_cut hc, ih hs]

/-- Cuts in front and behind make no piece. -/
theorem pieces_cuts_append (h : ∀ c ∈ s, isCut c = true) :
    pieces isCut (s ++ t) = pieces isCut t := by
  induction s with
  | nil => rfl
  | cons c s ih =>
      obtain ⟨hc, hs⟩ := List.forall_mem_cons.mp h
      rw [List.cons_append, pieces_cut hc, ih hs]

theorem pieces_append_cuts (h : ∀ c ∈ t, isCut c = true) :
    pieces isCut (s ++ t) = pieces isCut s := by
  cases t with
  | nil => rw [List.append_nil]
  | cons c t =>
      obtain ⟨hc, ht⟩ := List.forall_mem_cons.mp h
      rw [pieces_append_cut hc, pieces_of_cut ht, List.append_nil]

theorem pieces_of_uncut (hp : p ≠ []) (h : ∀ c ∈ p, isCut c = false) : pieces isCut p = [p] := by
  rw [pieces, splitAt_of_uncut h, List.filter_singleton, List.isEmpty_eq_false_iff.mpr hp]
  rfl

theorem flatten_pieces (s : List Char) :
    (pieces isCut s).flatten = s.filter fun c => !isCut c := by
  rw [pieces, List.flatten_filter_not_isEmpty, flatten_splitAt]

theorem cut_of_pieces_eq_nil (h : pieces isCut s = []) : ∀ c ∈ s, isCut c = true := by
  have hflatten : (pieces isCut s).flatten = s.filter fun c => !isCut c := flatten_pieces s
  rw [h, List.flatten_nil, eq_comm, List.filter_eq_nil_iff] at hflatten
  simpa using hflatten

/-- A text with one piece is the piece, with nothing but cuts on both sides. -/
theorem pieces_eq_singleton_iff : pieces isCut s = [p] ↔ p ≠ [] ∧ (∀ c ∈ p, isCut c = false) ∧
    ∃ before after, s = before ++ (p ++ after) ∧ ∀ c ∈ before ++ after, isCut c = true := by
  constructor
  · intro h
    have hmem : p ∈ pieces isCut s := h ▸ List.mem_cons_self
    refine ⟨ne_nil_of_mem_pieces hmem,
      fun c hc => not_cut_of_mem_splitAt (List.mem_of_mem_filter hmem) hc, ?_⟩
    induction s with
    | nil => cases hmem
    | cons c s ih =>
        cases hc : isCut c with
        | true =>
            rw [pieces_cut hc] at h hmem
            obtain ⟨before, after, rfl, hcuts⟩ := ih h hmem
            exact ⟨c :: before, after, rfl, List.forall_mem_cons.mpr ⟨hc, hcuts⟩⟩
        | false =>
            -- The piece begins here, and it goes on to the first cut.
            cases hfind : s.find? isCut with
            | none =>
                have huncut : ∀ d ∈ c :: s, isCut d = false := by
                  simpa [hc] using hfind
                rw [pieces_of_uncut (List.cons_ne_nil c s) huncut] at h
                obtain rfl := List.head_eq_of_cons_eq h
                exact ⟨[], [], by simp, List.forall_mem_nil _⟩
            | some d =>
                obtain ⟨hd, first, rest, rfl, hfirst⟩ := List.find?_eq_some_iff_append.mp hfind
                have huncut : ∀ d ∈ c :: first, isCut d = false := by
                  simpa [hc] using hfirst
                rw [← List.cons_append, pieces_append_cut hd,
                  pieces_of_uncut (List.cons_ne_nil c first) huncut] at h
                obtain ⟨rfl, hrest⟩ := List.cons.inj h
                have hcuts := cut_of_pieces_eq_nil hrest
                exact ⟨[], d :: rest, rfl, List.forall_mem_cons.mpr ⟨hd, hcuts⟩⟩
  · rintro ⟨hne, huncut, before, after, rfl, hcuts⟩
    obtain ⟨hbefore, hafter⟩ := List.forall_mem_append.mp hcuts
    rw [pieces_cuts_append hbefore, pieces_append_cuts hafter, pieces_of_uncut hne huncut]

/-! ## Ends -/

/-- The text without the cuts at its two ends. -/
def bare (isCut : Char → Bool) (s : List Char) : List Char :=
  (s.dropWhile isCut).rdropWhile isCut

theorem pieces_bare (s : List Char) : pieces isCut (bare isCut s) = pieces isCut s := by
  have hfront : pieces isCut (s.dropWhile isCut) = pieces isCut s := by
    conv_rhs => rw [← List.takeWhile_append_dropWhile (p := isCut) (l := s)]
    exact (pieces_cuts_append fun c hc => List.mem_takeWhile_imp hc).symm
  have hback : pieces isCut (bare isCut s) = pieces isCut (s.dropWhile isCut) := by
    conv_rhs => rw [← List.rdropWhile_append_rtakeWhile (p := isCut) (l := s.dropWhile isCut)]
    exact (pieces_append_cuts fun c hc => List.mem_rtakeWhile_imp hc).symm
  rw [hback, hfront]

theorem infix_bare (s : List Char) : bare isCut s <:+: s := by
  have hfront : bare isCut s <+: s.dropWhile isCut := List.rdropWhile_prefix isCut _
  exact hfront.isInfix.trans (List.dropWhile_suffix isCut).isInfix

theorem head?_bare (s : List Char) : (bare isCut s).head?.any isCut = false := by
  cases hs : bare isCut s with
  | nil => rfl
  | cons c rest =>
      obtain ⟨more, hmore⟩ := List.rdropWhile_prefix isCut (s.dropWhile isCut)
      have hhead := List.head?_dropWhile_not isCut s
      rw [← hmore, ← bare, hs] at hhead
      exact hhead

theorem getLast?_bare (s : List Char) : (bare isCut s).getLast?.any isCut = false := by
  by_cases hne : bare isCut s = []
  · rw [hne]
    rfl
  · rw [List.getLast?_eq_some_getLast hne, Option.any_some, ← Bool.not_eq_true]
    exact List.rdropWhile_last_not isCut _ hne

end Clientwright.Text
