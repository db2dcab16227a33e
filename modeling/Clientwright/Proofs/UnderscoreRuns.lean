import Clientwright.Proofs.TextPieces
import Mathlib.Logic.Relation

/-!
# Underscores that are too many

Putting a name into lower case can be said as two loops. The first one goes over the
characters: a capital that starts a word gets an underscore in front and a separator
becomes one, unless one was written just before. The second one makes one underscore of
two that stand together, all through the text, for as long as there are such; and those
at the two ends are taken off in the end. `Collapse` is one turn of the second loop. It
may leave underscores together, since out of three it makes two.

Each turn shortens the text, so the loop ends wherever it is begun (`acc_collapse`). And
no turn changes the words: underscores that stand together cut like one. What has no two
of them together and none at an end is its own words, joined by one each, and this is
how `snake` says it. `settles_writeWords` puts the two together, for any name.
-/

namespace Clientwright.Naming

open Relation Text

variable {s t : List Char} {c : Char}

/-! ## The loop over the characters -/

/-- Puts an underscore at the end, unless there is one. -/
def closeWord (done : List Char) : List Char :=
  if done.getLast? = some '_' then done else done ++ ['_']

/-- Writes one more character, given whether a word starts at it. -/
def writeChar (done : List Char) (starts : Bool) (c : Char) : List Char :=
  if Text.isUppercase c then
    (if starts then closeWord done else done) ++ [c.toLower]
  else if isSeparator c then if done.isEmpty then done else closeWord done
  else if Text.isAlphanumeric c || c = '_' then done ++ [c]
  else done

/-- Writes all characters of a name. -/
def writeWords (done : List Char) (before : Option Char) : List Char → List Char
  | [] => done
  | c :: rest => writeWords (writeChar done (startsWord before rest) c) (some c) rest

/-- What is made of a character when words are marked, given whether a word starts at it. -/
def markChar (starts : Bool) (c : Char) : List Char :=
  if Text.isUppercase c then
    if starts then ['_', c.toLower] else [c.toLower]
  else if isSeparator c then ['_']
  else if Text.isAlphanumeric c || c = '_' then [c]
  else []

theorem markWords_cons (before : Option Char) :
    markWords before (c :: s) = markChar (startsWord before s) c ++ markWords (some c) s := rfl

/-- An underscore that is not written for the second time makes no difference. -/
theorem pieces_closeWord_append (done t : List Char) :
    pieces (· = '_') (closeWord done ++ t) = pieces (· = '_') (done ++ '_' :: t) := by
  have hcut : decide ('_' = '_') = true := rfl
  rw [closeWord]
  split
  next hlast =>
    obtain ⟨start, rfl⟩ := List.getLast?_eq_some_iff.mp hlast
    rw [List.append_assoc, List.singleton_append, List.append_assoc, List.singleton_append,
      pieces_append_cut hcut, pieces_append_cut hcut, pieces_cut hcut]
  next => rw [List.append_assoc, List.singleton_append]

theorem pieces_writeChar_append (done : List Char) (starts : Bool) (c : Char) (t : List Char) :
    pieces (· = '_') (writeChar done starts c ++ t) =
      pieces (· = '_') (done ++ (markChar starts c ++ t)) := by
  rw [writeChar, markChar]
  split
  next =>
    cases starts with
    | true =>
        rw [if_pos rfl, if_pos rfl, List.append_assoc, pieces_closeWord_append]
        rfl
    | false => rw [if_neg Bool.false_ne_true, if_neg Bool.false_ne_true, List.append_assoc]
  next =>
    split
    next =>
      cases done with
      | nil => exact (pieces_cut rfl).symm
      | cons d done => exact pieces_closeWord_append (d :: done) t
    next =>
      split
      next => rw [List.append_assoc]
      next => rw [List.nil_append]

/-- What the loop writes has the words of the name. -/
theorem pieces_writeWords (done : List Char) (before : Option Char) (s : List Char) :
    pieces (· = '_') (writeWords done before s) =
      pieces (· = '_') (done ++ markWords before s) := by
  induction s generalizing done before with
  | nil => rw [writeWords, markWords, List.append_nil]
  | cons c s ih => rw [writeWords, ih, pieces_writeChar_append, markWords_cons]

/-! ## One turn of the other loop -/

/-- The text with one underscore for two that stand together, from left to right. -/
def collapsed (s : List Char) : List Char := Text.replaceWord ['_', '_'] ['_'] s

/-- One turn: the text is gone over as long as there are two together. -/
inductive Collapse : List Char → List Char → Prop where
  | turn {s : List Char} (h : ['_', '_'] <:+: s) : Collapse s (collapsed s)

theorem collapsed_pair (s : List Char) : collapsed ('_' :: '_' :: s) = '_' :: collapsed s := rfl

theorem collapsed_cons (h : ¬ ['_', '_'] <+: c :: s) : collapsed (c :: s) = c :: collapsed s := by
  have hdrop : dropStart? ['_', '_'] (c :: s) = none := by
    rw [Option.eq_none_iff_forall_ne_some]
    exact fun rest hrest => h ⟨rest, (dropStart?_eq_some_iff.mp hrest).symm⟩
  rw [collapsed, replaceWord, substitute, substituteFrom, hdrop]
  rfl

/-- Three underscores are still two after one turn. -/
example : collapsed "a___b".toList = "a__b".toList := by decide

/-- Going over a text takes two underscores at once or one character. -/
@[elab_as_elim]
theorem collapse_induction {motive : List Char → Prop} (s : List Char) (nil : motive [])
    (pair : ∀ s, motive s → motive ('_' :: '_' :: s))
    (cons : ∀ c s, ¬ ['_', '_'] <+: c :: s → motive s → motive (c :: s)) : motive s := by
  induction hlength : s.length using Nat.strong_induction_on generalizing s with
  | h n ih =>
      subst hlength
      by_cases hpair : ['_', '_'] <+: s
      · obtain ⟨rest, rfl⟩ := hpair
        exact pair rest (ih rest.length (by simp) rest rfl)
      · cases s with
        | nil => exact nil
        | cons c s => exact cons c s hpair (ih s.length (by simp) s rfl)

/-- Underscores that stand together cut like one. -/
theorem pieces_append_collapsed (before s : List Char) :
    pieces (· = '_') (before ++ collapsed s) = pieces (· = '_') (before ++ s) := by
  have hcut : decide ('_' = '_') = true := rfl
  induction s using collapse_induction generalizing before with
  | nil => rfl
  | pair s ih =>
      have hs := ih []
      rw [List.nil_append, List.nil_append] at hs
      rw [collapsed_pair, pieces_append_cut hcut, pieces_append_cut hcut, pieces_cut hcut, hs]
  | cons c s h ih =>
      have hs := ih (before ++ [c])
      rw [List.append_assoc, List.append_assoc, List.singleton_append, List.singleton_append] at hs
      rw [collapsed_cons h, hs]

theorem length_collapsed_le (s : List Char) : (collapsed s).length ≤ s.length := by
  induction s using collapse_induction with
  | nil => exact Nat.le_refl _
  | pair s ih =>
      rw [collapsed_pair, List.length_cons, List.length_cons, List.length_cons]
      omega
  | cons c s h ih =>
      rw [collapsed_cons h, List.length_cons, List.length_cons]
      omega

theorem length_collapsed_lt (h : ['_', '_'] <:+: s) : (collapsed s).length < s.length := by
  induction s using collapse_induction with
  | nil => exact absurd (List.infix_nil.mp h) (List.cons_ne_nil _ _)
  | pair s ih =>
      have hle := length_collapsed_le s
      rw [collapsed_pair, List.length_cons, List.length_cons, List.length_cons]
      omega
  | cons c s hpair ih =>
      have hlt := ih ((List.infix_cons_iff.mp h).resolve_left hpair)
      rw [collapsed_cons hpair, List.length_cons, List.length_cons]
      omega

/-! ## The whole loop -/

/-- The text gets shorter with each turn, so the loop ends. -/
theorem acc_collapse (s : List Char) : Acc (fun next s => Collapse s next) s := by
  refine Subrelation.accessible ?_ ((measure List.length).wf.apply s)
  rintro _ _ ⟨h⟩
  exact length_collapsed_lt h

theorem exists_collapsed (s : List Char) :
    ∃ last, ReflTransGen Collapse s last ∧ ¬ ['_', '_'] <:+: last := by
  induction acc_collapse s with
  | intro s _ ih =>
      by_cases h : ['_', '_'] <:+: s
      · obtain ⟨last, hturns, hend⟩ := ih _ (.turn h)
        exact ⟨last, hturns.head (.turn h), hend⟩
      · exact ⟨s, .refl, h⟩

theorem pieces_of_collapses (h : ReflTransGen Collapse s t) :
    pieces (· = '_') t = pieces (· = '_') s := by
  induction h with
  | refl => rfl
  | tail _ hturn ih =>
      obtain ⟨-⟩ := hturn
      exact (pieces_append_collapsed [] _).trans ih

/-- An empty piece that is not the first one stands between two underscores or at the end. -/
theorem of_nil_mem_tail (h : [] ∈ (splitAt (· = '_') s).tail) :
    s.getLast? = some '_' ∨ ['_', '_'] <:+: s := by
  induction s with
  | nil => cases h
  | cons c s ih =>
      have hlonger : s.getLast? = some '_' ∨ ['_', '_'] <:+: s →
          (c :: s).getLast? = some '_' ∨ ['_', '_'] <:+: c :: s := by
        rintro (hlast | hpair)
        · exact .inl (List.mem_getLast?_cons hlast)
        · exact .inr (List.infix_cons hpair)
      cases hc : decide (c = '_') with
      | false =>
          rw [splitAt_cons hc, List.tail_modifyHead] at h
          exact hlonger (ih h)
      | true =>
          rw [splitAt_cut hc, List.tail_cons] at h
          obtain rfl := of_decide_eq_true hc
          cases s with
          | nil => exact .inl rfl
          | cons d s =>
              cases hd : decide (d = '_') with
              | true =>
                  obtain rfl := of_decide_eq_true hd
                  exact .inr ⟨[], s, rfl⟩
              | false =>
                  exact hlonger (ih (nil_mem_tail_splitAt hd h))

/-- A text with no two underscores together and none at an end is its words, joined. -/
theorem bare_eq_intercalate (h : ¬ ['_', '_'] <:+: s) :
    bare (· = '_') s = ['_'].intercalate (pieces (· = '_') s) := by
  have hhead : (bare (· = '_') s).head?.any (· = '_') = false := head?_bare s
  have hlast : (bare (· = '_') s).getLast?.any (· = '_') = false := getLast?_bare s
  have hpair : ¬ ['_', '_'] <:+: bare (· = '_') s := fun hpair => h (hpair.trans (infix_bare s))
  rw [← pieces_bare]
  cases hs : bare (· = '_') s with
  | nil => rfl
  | cons c rest =>
      rw [hs] at hhead hlast hpair
      have hnil : [] ∉ splitAt (· = '_') (c :: rest) := by
        intro hmem
        rcases of_nil_mem_tail (nil_mem_tail_splitAt hhead hmem) with hend | hinfix
        · rw [hend] at hlast
          cases hlast
        · exact hpair hinfix
      have hpieces : pieces (· = '_') (c :: rest) = splitAt (· = '_') (c :: rest) := by
        refine List.filter_eq_self.mpr fun piece hpiece => ?_
        rw [Bool.not_eq_true', List.isEmpty_eq_false_iff]
        exact fun hempty => hnil (hempty ▸ hpiece)
      rw [hpieces, intercalate_splitAt]

/-- The loop comes to an end, and there it has the text but for underscores at its ends. -/
structure Settles (s t : List Char) : Prop where
  ends : Acc (fun next s => Collapse s next) s
  comes : ∃ last, ReflTransGen Collapse s last ∧ ¬ ['_', '_'] <:+: last
  leaves : ∀ last, ReflTransGen Collapse s last → ¬ ['_', '_'] <:+: last →
    bare (· = '_') last = t

/-- The two loops, one after the other, make the name in lower case. -/
theorem settles_writeWords (name : String) :
    Settles (writeWords [] none name.toList) (snake name).toList where
  ends := acc_collapse _
  comes := exists_collapsed _
  leaves last hturns hend := by
    rw [bare_eq_intercalate hend, pieces_of_collapses hturns, pieces_writeWords, snake,
      String.toList_ofList]
    rfl

end Clientwright.Naming
