import Clientwright.Proofs.ModuleNames
import Clientwright.Source.Code

/-!
# Comments and their lines

A comment ends with its line. A text that is put into a comment stays there if it has
no line feeds, and if it has some, each line that they begin needs a marker of its own.
`Harmless` says this of a text, and `Kept` of a line that is emitted: if it is a comment,
then all that is printed for it is one.

Lines are put together from pieces, some written out and some from elsewhere. What
the rules need to know of a piece that is written out is decided by looking at it: that
it starts a comment, or that it starts with something that stands in no marker, so that
whatever comes behind it does not stand at the start of its line. With these decisions
`simp` reduces a comment to what it quotes, and leaves nothing of a line of code.
-/

namespace Clientwright

namespace Comment

/-- Does the character belong to indentation? -/
def isIndent (c : Char) : Bool := c = ' ' || c = '\t'

/-- What documentation comments begin with. -/
def markers : List (List Char) := [['/', '/', '/'], ['/', '/', '!']]

/-- The line is a comment: behind its indentation stands a marker. -/
def Marked (line : List Char) : Prop := ∃ m ∈ markers, m <+: line.dropWhile isIndent

instance : DecidablePred Marked := fun line =>
  inferInstanceAs (Decidable (∃ m ∈ markers, m <+: line.dropWhile isIndent))

/-- The lines that are printed for a text. -/
def linesOf (s : List Char) : List (List Char) := Text.splitAt (· = '\n') s

/-- All of the lines are comments. -/
def AllMarked (lines : List (List Char)) : Prop := ∀ line ∈ lines, Marked line

instance : DecidablePred AllMarked := fun lines =>
  inferInstanceAs (Decidable (∀ line ∈ lines, Marked line))

/-- Every line that begins inside the text is a comment. -/
def Harmless (s : String) : Prop := AllMarked (linesOf s.toList).tail

instance : DecidablePred Harmless := fun s =>
  inferInstanceAs (Decidable (AllMarked (linesOf s.toList).tail))

/-- The text is a comment. -/
def Opens (s : String) : Prop := Marked s.toList

instance : DecidablePred Opens := fun s => inferInstanceAs (Decidable (Marked s.toList))

/-- If the text is a comment, then so is every line that is printed for it. -/
def Kept (s : String) : Prop := Opens s → AllMarked (linesOf s.toList)

instance : DecidablePred Kept := fun s =>
  inferInstanceAs (Decidable (Opens s → AllMarked (linesOf s.toList)))

theorem allMarked_cons {line : List Char} {lines : List (List Char)} :
    AllMarked (line :: lines) ↔ Marked line ∧ AllMarked lines := List.forall_mem_cons

/-! ## Markers -/

/-- The character is neither indentation nor part of a marker. -/
structure Inert (c : Char) : Prop where
  notIndent : isIndent c = false
  not_mem : ∀ m ∈ markers, c ∉ m

theorem inert_feed : Inert '\n' where
  notIndent := by decide
  not_mem := by decide

theorem prefix_append_cons {m s rest : List Char} {c : Char} (hc : c ∉ m) :
    m <+: s ++ c :: rest ↔ m <+: s := by
  refine ⟨fun h => ?_, List.prefix_append_of_prefix⟩
  induction m generalizing s with
  | nil => exact List.nil_prefix
  | cons d m ih =>
      cases s with
      | nil => exact absurd (List.cons_prefix_cons.mp h).1.symm (List.ne_of_not_mem_cons hc)
      | cons e s =>
          obtain ⟨rfl, hrest⟩ := List.cons_prefix_cons.mp h
          exact List.cons_prefix_cons.mpr ⟨rfl, ih (List.not_mem_of_not_mem_cons hc) hrest⟩

theorem dropWhile_isIndent_append {s rest : List Char} (h : s.dropWhile isIndent ≠ []) :
    (s ++ rest).dropWhile isIndent = s.dropWhile isIndent ++ rest := by
  rw [List.dropWhile_append, if_neg (by simpa using h)]

/-- What is a comment may go on. -/
theorem Marked.append {s : List Char} (h : Marked s) (rest : List Char) :
    Marked (s ++ rest) := by
  obtain ⟨m, hm, hprefix⟩ := h
  have hne : s.dropWhile isIndent ≠ [] := by
    intro hnil
    rw [hnil, List.prefix_nil] at hprefix
    subst hprefix
    exact absurd hm (by decide)
  refine ⟨m, hm, ?_⟩
  rw [dropWhile_isIndent_append hne]
  exact List.prefix_append_of_prefix hprefix

/-- And what is none does not become one behind an inert character. -/
theorem marked_append_cons {s rest : List Char} {c : Char} (hc : Inert c) :
    Marked (s ++ c :: rest) ↔ Marked s := by
  have hdrop : (s ++ c :: rest).dropWhile isIndent = s.dropWhile isIndent ++ c :: rest := by
    by_cases hnil : s.dropWhile isIndent = []
    · have hempty : (s.dropWhile isIndent).isEmpty = true := List.isEmpty_iff.mpr hnil
      rw [List.dropWhile_append, if_pos hempty, hnil,
        List.dropWhile_cons_of_neg (by simp [hc.notIndent]), List.nil_append]
    · exact dropWhile_isIndent_append hnil
  rw [Marked, Marked, hdrop]
  exact exists_congr fun m => and_congr_right fun hm => prefix_append_cons (hc.not_mem m hm)

/-! ## Lines -/

theorem linesOf_ne_nil (s : List Char) : linesOf s ≠ [] := by
  rw [linesOf]
  cases s with
  | nil => simp [Text.splitAt]
  | cons c s =>
      unfold Text.splitAt
      split
      · simp
      · split <;> simp

/-- The first line of a text. -/
def firstLine (s : List Char) : List Char := (linesOf s).head (linesOf_ne_nil s)

theorem linesOf_eq (s : List Char) : linesOf s = firstLine s :: (linesOf s).tail :=
  (List.cons_head_tail (linesOf_ne_nil s)).symm

theorem linesOf_feed (s : List Char) : linesOf ('\n' :: s) = [] :: linesOf s := by
  rw [linesOf, Text.splitAt, if_pos (by decide), linesOf]

theorem linesOf_cons {c : Char} {s : List Char} (hc : c ≠ '\n') :
    linesOf (c :: s) = (c :: firstLine s) :: (linesOf s).tail := by
  have hs := linesOf_eq s
  rw [linesOf] at hs ⊢
  rw [Text.splitAt, if_neg (by simpa using hc), hs]
  rfl

theorem firstLine_feed (s : List Char) : firstLine ('\n' :: s) = [] := by
  have h := linesOf_eq ('\n' :: s)
  rw [linesOf_feed] at h
  exact (List.cons.inj h).1.symm

theorem firstLine_cons {c : Char} {s : List Char} (hc : c ≠ '\n') :
    firstLine (c :: s) = c :: firstLine s := by
  have h := linesOf_eq (c :: s)
  rw [linesOf_cons hc] at h
  exact (List.cons.inj h).1.symm

theorem exists_firstLine_append (s : List Char) :
    s = firstLine s ∨ ∃ rest, s = firstLine s ++ '\n' :: rest := by
  induction s with
  | nil => exact .inl rfl
  | cons c s ih =>
      by_cases hc : c = '\n'
      · rw [hc, firstLine_feed]
        exact .inr ⟨s, rfl⟩
      · rw [firstLine_cons hc]
        exact ih.imp (congrArg _) fun ⟨rest, h⟩ => ⟨rest, congrArg (c :: ·) h⟩

/-- A line feed ends a line, whatever is in front of it. -/
theorem linesOf_append_feed (s rest : List Char) :
    linesOf (s ++ '\n' :: rest) = linesOf s ++ linesOf rest := by
  induction s with
  | nil => exact linesOf_feed rest
  | cons c s ih =>
      by_cases hc : c = '\n'
      · rw [hc, List.cons_append, linesOf_feed, linesOf_feed, ih, List.cons_append]
      · rw [linesOf_eq (s ++ _), linesOf_eq s, List.cons_append] at ih
        obtain ⟨hfirst, htail⟩ := List.cons.inj ih
        rw [List.cons_append, linesOf_cons hc, linesOf_cons hc, hfirst, htail, List.cons_append]

theorem linesOf_intercalate {l : List String} (h : l ≠ []) :
    linesOf ("\n".intercalate l).toList = l.flatMap fun s => linesOf s.toList := by
  induction l with
  | nil => exact absurd rfl h
  | cons s l ih =>
      cases l with
      | nil => simp
      | cons s' l =>
          have hrest := ih (List.cons_ne_nil s' l)
          rw [String.intercalate_cons_cons, String.append_assoc, String.toList_append,
            String.toList_append, List.flatMap_cons, ← hrest]
          exact linesOf_append_feed _ _

/-- A text is a comment if its first line is one. -/
theorem marked_firstLine {s : List Char} : Marked (firstLine s) ↔ Marked s := by
  rcases exists_firstLine_append s with h | ⟨rest, h⟩
  · rw [← h]
  · have hmarked := @marked_append_cons (firstLine s) rest _ inert_feed
    rw [← h] at hmarked
    exact hmarked.symm

/-- Behind a text without line feeds the same lines begin. -/
theorem tail_linesOf_append {s : List Char} (h : '\n' ∉ s) (rest : List Char) :
    (linesOf (s ++ rest)).tail = (linesOf rest).tail := by
  induction s with
  | nil => rfl
  | cons c s ih =>
      rw [List.cons_append, linesOf_cons (List.ne_of_not_mem_cons h).symm, List.tail_cons,
        ih (List.not_mem_of_not_mem_cons h)]

/-- The lines that begin in a text are the same with an inert character behind it. -/
theorem allMarked_tail_append_cons {s rest : List Char} {c : Char} (hc : Inert c)
    (hfeed : c ≠ '\n') :
    AllMarked (linesOf (s ++ c :: rest)).tail ↔
      AllMarked (linesOf s).tail ∧ AllMarked (linesOf rest).tail := by
  induction s with
  | nil =>
      rw [List.nil_append, linesOf_cons hfeed, List.tail_cons]
      exact (and_iff_right (by decide)).symm
  | cons d s ih =>
      by_cases hd : d = '\n'
      · have hfirst : Marked (firstLine (s ++ c :: rest)) ↔ Marked (firstLine s) := by
          rw [marked_firstLine, marked_firstLine, marked_append_cons hc]
        rw [hd, List.cons_append, linesOf_feed, linesOf_feed, List.tail_cons, List.tail_cons,
          linesOf_eq (s ++ c :: rest), linesOf_eq s, allMarked_cons, allMarked_cons, and_assoc]
        exact and_congr hfirst ih
      · rw [List.cons_append, linesOf_cons hd, linesOf_cons hd, List.tail_cons, List.tail_cons]
        exact ih

/-! ## Pieces that are written out -/

/-- The character is inert and ends no line. -/
def isCode (c : Char) : Bool := c ∉ ['/', '!', ' ', '\t', '\n']

theorem inert_of_isCode {c : Char} (h : isCode c = true) : Inert c := by
  simp [isCode] at h
  refine ⟨by simp [isIndent, h], fun m hm => ?_⟩
  simp [markers] at hm
  rcases hm with rfl | rfl <;> simp [h]

theorem ne_feed_of_isCode {c : Char} (h : isCode c = true) : c ≠ '\n' := by
  simp [isCode] at h
  exact h.2.2.2.2

/-- The text starts with such a character. -/
def startsCode (s : String) : Bool := s.toList.head?.any isCode

/-- The text does, and it stays in its line. -/
def isCodeText (s : String) : Bool := startsCode s && '\n' ∉ s.toList

/-- The text is a comment that stays in its line. -/
def isCommentText (s : String) : Bool := decide (Opens s) && '\n' ∉ s.toList

variable {s t : String}

theorem exists_of_startsCode (h : startsCode s = true) :
    ∃ c rest, s.toList = c :: rest ∧ isCode c = true := by
  rw [startsCode] at h
  cases hs : s.toList with
  | nil => rw [hs] at h; cases h
  | cons c rest => exact ⟨c, rest, rfl, by rwa [hs] at h⟩

theorem startsCode_append (h : startsCode s = true) : startsCode (s ++ t) = true := by
  obtain ⟨c, rest, hs, hc⟩ := exists_of_startsCode h
  rw [startsCode, String.toList_append, hs]
  exact hc

/-- A line is kept if it is no comment, or what it says is harmless. -/
@[simp]
theorem kept_iff : Kept s ↔ (Opens s → Harmless s) := by
  rw [Kept, Harmless, linesOf_eq, allMarked_cons, marked_firstLine]
  exact forall_congr' fun hopens => and_iff_right hopens

/-! ### What is a comment -/

/-- What is not at the start of its line does not matter. -/
theorem opens_append_of_startsCode (h : startsCode t = true) : Opens (s ++ t) ↔ Opens s := by
  obtain ⟨c, rest, ht, hc⟩ := exists_of_startsCode h
  rw [Opens, Opens, String.toList_append, ht, marked_append_cons (inert_of_isCode hc)]

theorem not_opens_of_startsCode (h : startsCode s = true) : ¬ Opens s := by
  rw [← String.empty_append (s := s), opens_append_of_startsCode h]
  decide

theorem kept_of_startsCode (h : startsCode s = true) : Kept s :=
  kept_iff.mpr fun hopens => absurd hopens (not_opens_of_startsCode h)

@[simp]
theorem not_opens_append (h : startsCode s = true) : ¬ Opens (s ++ t) :=
  not_opens_of_startsCode (startsCode_append h)

@[simp]
theorem opens_append (h : isCommentText s = true) : Opens (s ++ t) := by
  simp only [isCommentText, Bool.and_eq_true, decide_eq_true_eq] at h
  rw [Opens, String.toList_append]
  exact Marked.append h.1 t.toList

@[simp]
theorem opens_append_code {code : String} (h : isCodeText code = true) :
    Opens (s ++ code) ↔ Opens s := by
  rw [isCodeText, Bool.and_eq_true] at h
  exact opens_append_of_startsCode h.1

@[simp]
theorem opens_between {code : String} (h : isCodeText code = true) :
    Opens (s ++ code ++ t) ↔ Opens s := by
  rw [isCodeText, Bool.and_eq_true] at h
  rw [String.append_assoc, opens_append_of_startsCode (startsCode_append h.1)]

/-! ### What comments say -/

theorem harmless_of_free (h : '\n' ∉ s.toList) : Harmless s := by
  intro line hline
  rw [← List.append_nil s.toList, tail_linesOf_append h] at hline
  cases hline

theorem harmless_append_of_free (h : '\n' ∉ s.toList) :
    Harmless (s ++ t) ↔ Harmless t := by
  rw [Harmless, Harmless, String.toList_append, tail_linesOf_append h]

theorem harmless_append_of_startsCode (h : startsCode t = true) :
    Harmless (s ++ t) ↔ Harmless s ∧ Harmless t := by
  obtain ⟨c, rest, ht, hc⟩ := exists_of_startsCode h
  have hfeed := ne_feed_of_isCode hc
  have htail : (linesOf (c :: rest)).tail = (linesOf rest).tail := by
    rw [linesOf_cons hfeed, List.tail_cons]
  rw [Harmless, Harmless, Harmless, String.toList_append, ht, htail]
  exact allMarked_tail_append_cons (inert_of_isCode hc) hfeed

/-- The comment says what stands behind its start. -/
@[simp]
theorem harmless_append_comment (h : isCommentText s = true) :
    Harmless (s ++ t) ↔ Harmless t := by
  simp only [isCommentText, Bool.and_eq_true, decide_eq_true_eq] at h
  exact harmless_append_of_free h.2

/-- Code between two texts keeps them apart. -/
@[simp]
theorem harmless_between {code : String} (h : isCodeText code = true) :
    Harmless (s ++ code ++ t) ↔ Harmless s ∧ Harmless t := by
  simp only [isCodeText, Bool.and_eq_true, decide_eq_true_eq] at h
  rw [String.append_assoc, harmless_append_of_startsCode (startsCode_append h.1),
    harmless_append_of_free h.2]

@[simp]
theorem harmless_append_code {code : String} (h : isCodeText code = true) :
    Harmless (s ++ code) ↔ Harmless s := by
  simp only [isCodeText, Bool.and_eq_true, decide_eq_true_eq] at h
  rw [harmless_append_of_startsCode h.1]
  exact and_iff_left (harmless_of_free h.2)

@[simp]
theorem harmless_code_append {code : String} (h : isCodeText code = true) :
    Harmless (code ++ s) ↔ Harmless s := by
  simp only [isCodeText, Bool.and_eq_true, decide_eq_true_eq] at h
  exact harmless_append_of_free h.2

/-- Indentation makes no difference. -/
theorem kept_indented {depth : Nat} : Kept (Code.indented depth s) ↔ Kept s := by
  rw [Code.indented]
  split
  next => rfl
  next =>
    have hmarked : ∀ n (line : List Char),
        Marked (List.replicate n ' ' ++ line) ↔ Marked line := by
      intro n line
      induction n with
      | zero => rfl
      | succ n ih => exact ih
    have hfree : '\n' ∉ (String.ofList (List.replicate (4 * depth) ' ')).toList := by
      simp [List.mem_replicate]
    rw [kept_iff, kept_iff, harmless_append_of_free hfree, Opens, Opens, String.toList_append,
      String.toList_ofList, hmarked]

end Comment

open Comment

/-! ## Code -/

variable {s : String}

namespace Expr

variable {e : Expr}

/-- The expression starts with a character of code. -/
def Leads (e : Expr) : Prop := startsCode e.text = true

@[simp]
theorem leads_plain (h : startsCode s = true) : (plain s).Leads := h

theorem leads_quoted : (quoted s).Leads := by
  have hhead : (Text.literal s).toList.head? = some '"' := by
    rw [Text.literal, String.toList_ofList, Text.literalChars, List.cons_append, List.head?_cons]
  show (Text.literal s).toList.head?.any isCode = true
  rw [hhead]
  decide

theorem leads_item {area : Area} : (item area s).Leads := by
  show startsCode ("crate::" ++ area.name ++ "::" ++ s) = true
  exact startsCode_append (startsCode_append (startsCode_append (by decide)))

theorem leads_of_cons {rest : List Expr} (h : e.Leads) : (Expr.of (e :: rest)).Leads :=
  startsCode_append h

@[simp]
theorem leads_of_plain {rest : List Expr} (h : startsCode s = true) :
    (Expr.of (.plain s :: rest)).Leads :=
  leads_of_cons h

@[simp]
theorem leads_append {rest : Expr} (h : e.Leads) : (e ++ rest).Leads := startsCode_append h

end Expr

namespace Code

variable {a b c body : Code} {e head : Expr}

/-- The comments in the code end where they should. -/
def Contained (c : Code) : Prop := ∀ line ∈ c.lines 0, Kept line

theorem forall_kept_iff {depth : Nat} : (∀ line ∈ c.lines depth, Kept line) ↔ c.Contained := by
  rw [Contained]
  induction c generalizing depth with
  | empty => exact Iff.rfl
  | seq a b iha ihb => simp only [lines, List.forall_mem_append, iha, ihb]
  | line e | bind name value => simp only [lines, List.forall_mem_singleton, kept_indented]
  | block head binds body close ih =>
      simp only [lines, List.forall_mem_append, List.forall_mem_cons, kept_indented,
        @ih (depth + 1), @ih (0 + 1)]
  | branch condition first second ihfirst ihsecond =>
      simp only [lines, List.forall_mem_append, List.forall_mem_cons, kept_indented,
        @ihfirst (depth + 1), @ihfirst (0 + 1), @ihsecond (depth + 1), @ihsecond (0 + 1)]

@[simp]
theorem contained_empty : empty.Contained := List.forall_mem_nil _

@[simp]
theorem contained_seq : (seq a b).Contained ↔ a.Contained ∧ b.Contained := List.forall_mem_append

@[simp]
theorem contained_append : (a ++ b).Contained ↔ a.Contained ∧ b.Contained := contained_seq

theorem contained_line_iff : (line e).Contained ↔ Kept e.text :=
  List.forall_mem_singleton.trans kept_indented

@[simp]
theorem contained_text : (text s).Contained ↔ Kept s := contained_line_iff

@[simp]
theorem contained_line (h : e.Leads) : (line e).Contained :=
  contained_line_iff.mpr (kept_of_startsCode h)

@[simp]
theorem contained_bind {name : String} {value : Expr} : (bind name value).Contained := by
  refine List.forall_mem_singleton.mpr (kept_indented.mpr (kept_of_startsCode ?_))
  iterate 4 apply startsCode_append
  decide

theorem contained_block_iff {binds : List String} {close : String} :
    (block head binds body close).Contained ↔ Kept head.text ∧ body.Contained ∧ Kept close := by
  rw [Contained, lines, List.forall_mem_append, List.forall_mem_cons, List.forall_mem_singleton,
    kept_indented, kept_indented, forall_kept_iff, and_assoc]

@[simp]
theorem contained_block {binds : List String} {close : String} (h : head.Leads)
    (hclose : startsCode close = true) :
    (block head binds body close).Contained ↔ body.Contained := by
  rw [contained_block_iff, and_iff_right (kept_of_startsCode h)]
  exact and_iff_left (kept_of_startsCode hclose)

@[simp]
theorem contained_branch {condition : Expr} {first second : Code} :
    (branch condition first second).Contained ↔ first.Contained ∧ second.Contained := by
  have hcondition : Kept ("if " ++ condition.text ++ " \x7b") :=
    kept_of_startsCode (startsCode_append (startsCode_append (by decide)))
  have helse : Kept "\x7d else \x7b" := by decide
  have hclose : Kept "\x7d" := by decide
  rw [Contained, lines]
  simp only [List.forall_mem_append, List.forall_mem_cons, kept_indented, forall_kept_iff,
    hcondition, helse, hclose, true_and]
  exact and_iff_left (List.forall_mem_nil _)

@[simp]
theorem contained_all_nil : (all []).Contained := contained_empty

@[simp]
theorem contained_all_cons {pieces : List Code} :
    (all (c :: pieces)).Contained ↔ c.Contained ∧ (all pieces).Contained := contained_seq

theorem contained_all {pieces : List Code} :
    (all pieces).Contained ↔ ∀ c ∈ pieces, c.Contained := by
  induction pieces with
  | nil => simp
  | cons c pieces ih => rw [contained_all_cons, ih, List.forall_mem_cons]

@[simp]
theorem contained_all_map {α : Type} {l : List α} {f : α → Code} :
    (all (l.map f)).Contained ↔ ∀ a ∈ l, (f a).Contained := by
  rw [contained_all, List.forall_mem_map]

theorem contained_texts {l : List String} : (texts l).Contained ↔ ∀ s ∈ l, Kept s := by
  simp only [texts, contained_all_map, contained_text]

@[simp]
theorem contained_texts_nil : (texts []).Contained := contained_all_nil

@[simp]
theorem contained_texts_cons {l : List String} :
    (texts (s :: l)).Contained ↔ Kept s ∧ (texts l).Contained := by
  rw [contained_texts, contained_texts, List.forall_mem_cons]

@[simp]
theorem contained_blank : blank.Contained := contained_line_iff.mpr (by decide)

@[simp]
theorem contained_orBlank {c : Option Code} :
    (orBlank c).Contained ↔ ∀ code, c = some code → code.Contained := by
  cases c with
  | none => exact iff_of_true contained_blank nofun
  | some c => simp [orBlank]

@[simp]
theorem contained_when {condition : Bool} :
    (when condition c).Contained ↔ (condition = true → c.Contained) := by
  cases condition with
  | false => simp [when]
  | true => simp [when]

@[simp]
theorem contained_braces (h : head.Leads) : (braces head body).Contained ↔ body.Contained :=
  contained_block (Expr.leads_append h) (by decide)

@[simp]
theorem contained_forEach {pattern : Pattern} {subject : Expr} :
    (forEach pattern subject body).Contained ↔ body.Contained :=
  contained_block (Expr.leads_of_plain (by decide)) (by decide)

@[simp]
theorem contained_ifSet {name receiver ident : String} :
    (ifSet name receiver ident body).Contained ↔ body.Contained :=
  contained_block (Expr.leads_of_plain (by decide)) (by decide)

theorem contained_spaced {pieces : List Code} :
    (spaced pieces).Contained ↔ ∀ c ∈ pieces, c.Contained := by
  induction pieces with
  | nil => simp [spaced]
  | cons c pieces ih =>
      cases pieces with
      | nil => simp [spaced]
      | cons c' pieces =>
          rw [spaced, contained_seq, contained_seq, and_iff_right contained_blank, ih]
          · exact List.forall_mem_cons.symm
          · simp

/-- A file has the lines that its pieces are printed on, and an empty one at its end. -/
theorem linesOf_fileText (h : c.lines 0 ≠ []) :
    linesOf c.fileText.toList = ((c.lines 0).flatMap fun s => linesOf s.toList) ++ [[]] := by
  rw [← linesOf_intercalate h, fileText, String.toList_append]
  exact linesOf_append_feed _ []

end Code

end Clientwright
