import Clientwright.Proofs.FileComments
import Clientwright.Proofs.Substitutions

/-!
# Blanks in Markdown

A fragment of HTML may have any blanks anywhere. Squeezing leaves spaces only, and what the passes
put in for tags and references has spaces and line feeds. The lines are trimmed then, so that no
space stands beside a line feed, and long runs of line feeds are closed up. `Tidy` collects what
is true of every text that comes out. Each step keeps what the steps before it have reached, since
a step puts in nothing that a later one was there to take away: closing up leaves each character
beside the kind of character it stood beside, and the apostrophes for a fence are no blanks.
-/

namespace Clientwright.Docs

open Text

variable {find? : List Char → Option Found} {s t image rest : List Char} {c : Char}

/-! ## Blanks -/

/-- Is the character a space or a line feed, if it is a blank at all? -/
def isPlain (c : Char) : Bool := !isBlank c || (c = ' ' || c = '\n')

theorem isPlain_iff : isPlain c = true ↔ (isBlank c = true → c = ' ' ∨ c = '\n') := by
  cases h : isBlank c <;> simp [isPlain, h]

/-- The blanks of the text are spaces and line feeds. -/
def Plain (s : List Char) : Prop := ∀ c ∈ s, isPlain c = true

instance : DecidablePred Plain := fun s => List.decidableBAll (fun c => isPlain c = true) s

theorem plain_cons : Plain (c :: s) ↔ isPlain c = true ∧ Plain s := List.forall_mem_cons

theorem plain_append : Plain (s ++ t) ↔ Plain s ∧ Plain t := List.forall_mem_append

theorem Plain.mono (h : Plain s) (hsub : t ⊆ s) : Plain t := fun c hc => h c (hsub hc)

theorem plain_squeeze (s : List Char) : Plain (squeeze s) := by
  intro c hc
  rw [isPlain_iff]
  intro hblank
  rcases mem_substitute hc with ⟨t, -, hnone⟩ | ⟨t, image, n, -, hfound, hmem⟩
  · simp [hblank] at hnone
  · cases t with
    | nil => cases hfound
    | cons d t =>
        by_cases hd : isBlank d = true
        · simp only [hd, if_true, Option.some.injEq, Prod.mk.injEq] at hfound
          obtain ⟨rfl, -⟩ := hfound
          exact .inl (List.mem_singleton.mp hmem)
        · simp [hd] at hfound

/-- In a text with such blanks, what is put in for a match has no others. -/
def Sound (find? : List Char → Option Found) : Prop :=
  ∀ s image rest, find? s = some (image, rest) → Plain s → Plain image

theorem Sound.plain (hsound : Sound find?) (hs : Plain s) :
    Plain (substitute (ruleOf find?) s) := by
  intro c hc
  rcases mem_substitute hc with ⟨t, ht, -⟩ | ⟨t, image, n, ht, hfound, hmem⟩
  · exact hs c (ht.subset List.mem_cons_self)
  · obtain ⟨⟨found, rest⟩, hfind, heq⟩ := Option.map_eq_some_iff.mp hfound
    obtain ⟨rfl, -⟩ := Prod.mk.inj heq
    exact hsound t found rest hfind (hs.mono ht.subset) c hmem

theorem plain_replaceWord {word : List Char} (himage : Plain image) (hs : Plain s) :
    Plain (replaceWord word image s) :=
  fun c hc => (mem_replaceWord hc).elim (hs c) (himage c)

/-! ## What the passes put in -/

theorem suffix_of_dropTag? {tag : List Char} (h : dropTag? tag s = some rest) : rest <:+ s := by
  induction tag generalizing s with
  | nil =>
      obtain rfl := Option.some.inj h
      exact List.suffix_refl _
  | cons p tag ih =>
      cases s with
      | nil => cases h
      | cons c s =>
          rw [dropTag?] at h
          split at h
          · exact (ih h).trans (List.suffix_cons c s)
          · cases h

theorem suffix_of_tag? {tag : String} (h : tag? tag s = some rest) : rest <:+ s :=
  suffix_of_dropTag? h

theorem sides_of_cutAtTag? {tag : String} {before after : List Char}
    (h : cutAtTag? tag s = some (before, after)) : before <+: s ∧ after <:+ s := by
  induction s generalizing before with
  | nil => cases h
  | cons c s ih =>
      rw [cutAtTag?] at h
      split at h
      · next rest hrest =>
        obtain ⟨rfl, rfl⟩ := Prod.mk.inj (Option.some.inj h)
        exact ⟨List.nil_prefix, suffix_of_tag? hrest⟩
      · obtain ⟨⟨first, last⟩, hcut, heq⟩ := Option.map_eq_some_iff.mp h
        obtain ⟨rfl, rfl⟩ := Prod.mk.inj heq
        obtain ⟨hbefore, hafter⟩ := ih hcut
        exact ⟨List.cons_prefix_cons.mpr ⟨rfl, hbefore⟩, hafter.trans (List.suffix_cons c s)⟩

theorem sides_of_cutAt? {isCut : Char → Bool} {before after : List Char}
    (h : cutAt? isCut s = some (before, after)) : before <+: s ∧ after <:+ s := by
  obtain ⟨c, -, rfl, -⟩ := cutAt?_eq_some h
  exact ⟨List.prefix_append _ _, (List.suffix_cons c after).trans (List.suffix_append _ _)⟩

theorem parts_of_addressed? {address label : List Char}
    (h : addressed? s = some (address, label, rest)) : address ⊆ s ∧ label ⊆ s := by
  simp only [addressed?, Option.bind_eq_bind, Option.bind_eq_some_iff, Prod.exists] at h
  obtain ⟨s₁, h₁, found, s₂, h₂, skipped, s₃, h₃, text, s₄, h₄, heq⟩ := h
  obtain ⟨rfl, rfl, rfl⟩ := by simpa using heq
  obtain ⟨haddress, hs₂⟩ := sides_of_cutAt? h₂
  have hs₁ : s₁ <:+ s := suffix_of_tag? h₁
  have hs₃ : s₃ <:+ s := (sides_of_cutAt? h₃).2.trans (hs₂.trans hs₁)
  exact ⟨List.Subset.trans haddress.subset hs₁.subset,
    List.Subset.trans (sides_of_cutAtTag? h₄).1.subset hs₃.subset⟩

theorem parts_of_lastAddressed? {address label : List Char}
    (h : lastAddressed? s = some (address, label, rest)) : address ⊆ s ∧ label ⊆ s := by
  induction s with
  | nil => cases h
  | cons c s ih =>
      rw [lastAddressed?] at h
      split at h
      · cases h
      · rcases Option.or_eq_some_iff.mp h with h | ⟨-, h⟩
        · obtain ⟨haddress, hlabel⟩ := ih h
          exact ⟨List.subset_cons_of_subset c haddress, List.subset_cons_of_subset c hlabel⟩
        · exact parts_of_addressed? h

theorem sound_link : Sound link? := by
  intro s image rest h hs
  obtain ⟨inner, htag, h⟩ := Option.bind_eq_some_iff.mp h
  cases inner with
  | nil => cases h
  | cons d attributes =>
      by_cases hd : isBlank d = true
      · obtain ⟨⟨address, label, after⟩, hlast, heq⟩ :=
          Option.bind_eq_some_iff.mp (by simpa [hd] using h)
        obtain ⟨haddress, hlabel⟩ := parts_of_lastAddressed? hlast
        obtain ⟨-, hattributes⟩ := plain_cons.mp (hs.mono (suffix_of_tag? htag).subset)
        obtain ⟨rfl, -⟩ := Prod.mk.inj (Option.some.inj heq)
        have hclosing : Plain (address ++ [')']) :=
          plain_append.mpr ⟨hattributes.mono haddress, by decide⟩
        have hopening : Plain (']' :: '(' :: (address ++ [')'])) :=
          plain_cons.mpr ⟨by decide, plain_cons.mpr ⟨by decide, hclosing⟩⟩
        exact plain_cons.mpr ⟨by decide, plain_append.mpr ⟨hattributes.mono hlabel, hopening⟩⟩
      · simp [hd] at h

theorem sound_fullName : Sound fullName? := by
  intro s image rest h hs
  simp only [fullName?, Option.bind_eq_bind, Option.bind_eq_some_iff, Prod.exists] at h
  obtain ⟨inner, htag, name, after, hcut, h⟩ := h
  split at h
  · cases h
  · obtain ⟨rfl, -⟩ := Prod.mk.inj (Option.some.inj h)
    have hinner : Plain inner := hs.mono (suffix_of_tag? htag).subset
    exact plain_append.mpr ⟨hinner.mono (sides_of_cutAtTag? hcut).1.subset, by decide⟩

theorem prefix_trimEnd (s : List Char) : trimEnd s <+: s := List.rdropWhile_prefix isBlank s

theorem sound_code : Sound code? := by
  intro s image rest h hs
  simp only [code?, Option.bind_eq_bind, Option.bind_eq_some_iff, Prod.exists] at h
  obtain ⟨inner, htag, code, after, hcut, h⟩ := h
  split at h
  · cases h
  · obtain ⟨rfl, -⟩ := Prod.mk.inj (Option.some.inj h)
    have hinner : inner.dropWhile isBlank <:+ s :=
      (List.dropWhile_suffix isBlank).trans (suffix_of_tag? htag)
    have hcode : trimEnd code <+: inner.dropWhile isBlank :=
      (prefix_trimEnd code).trans (sides_of_cutAtTag? hcut).1
    exact plain_append.mpr
      ⟨plain_cons.mpr ⟨by decide, (hs.mono hinner.subset).mono hcode.subset⟩, by decide⟩

theorem sound_tags (tags : List String) {text : String} (htext : Plain text.toList) :
    Sound (tags? tags text) := by
  intro s image rest h hs
  obtain ⟨after, -, heq⟩ := Option.map_eq_some_iff.mp h
  obtain ⟨rfl, -⟩ := Prod.mk.inj heq
  exact htext

theorem sound_tagsAndBlanks (tags : List String) {text : String} (htext : Plain text.toList) :
    Sound (tagsAndBlanks? tags text) := by
  intro s image rest h hs
  obtain ⟨after, -, heq⟩ := Option.map_eq_some_iff.mp h
  obtain ⟨rfl, -⟩ := Prod.mk.inj heq
  exact htext

theorem sound_break : Sound break? := by
  intro s image rest h hs
  simp only [break?, Option.bind_eq_bind, Option.bind_eq_some_iff] at h
  obtain ⟨inner, -, after, -, heq⟩ := h
  obtain ⟨rfl, -⟩ := Prod.mk.inj (Option.some.inj heq)
  decide

theorem sound_anyTag : Sound anyTag? := by
  intro s image rest h hs
  unfold anyTag? at h
  split at h
  · next d inner =>
    by_cases hd : d = '>'
    · simp [hd] at h
    · obtain ⟨⟨skipped, after⟩, -, heq⟩ := Option.bind_eq_some_iff.mp (by simpa [hd] using h)
      obtain ⟨rfl, -⟩ := Prod.mk.inj (Option.some.inj heq)
      decide
  · cases h

theorem sound_of_mem_passes (h : find? ∈ passes) : Sound find? := by
  simp only [passes, List.mem_cons, List.not_mem_nil, or_false] at h
  rcases h with rfl | rfl | rfl | rfl | rfl | rfl | rfl | rfl | rfl | rfl
  · exact sound_link
  · exact sound_fullName
  · exact sound_code
  · exact sound_tags _ (by decide)
  · exact sound_tags _ (by decide)
  · exact sound_tagsAndBlanks _ (by decide)
  · exact sound_tagsAndBlanks _ (by decide)
  · exact sound_tags _ (by decide)
  · exact sound_break
  · exact sound_anyTag

/-- The fragment after all passes over its tags. -/
def untagged (html : List Char) : List Char :=
  passes.foldl (fun s find? => substitute (ruleOf find?) s) (squeeze html)

theorem plain_passes {finds : List (List Char → Option Found)} (h : ∀ find? ∈ finds, Sound find?)
    (hs : Plain s) : Plain (finds.foldl (fun s find? => substitute (ruleOf find?) s) s) := by
  induction finds generalizing s with
  | nil => exact hs
  | cons find? finds ih =>
      obtain ⟨hfind, hfinds⟩ := List.forall_mem_cons.mp h
      exact ih hfinds (hfind.plain hs)

theorem plain_untagged (html : List Char) : Plain (untagged html) :=
  plain_passes (fun _ => sound_of_mem_passes) (plain_squeeze html)

theorem plain_words {words : List (String × String)} (h : ∀ w ∈ words, Plain w.2.toList)
    (hs : Plain s) :
    Plain (words.foldl (fun s (name, image) => replaceWord name.toList image.toList s) s) := by
  induction words generalizing s with
  | nil => exact hs
  | cons word words ih =>
      obtain ⟨hword, hwords⟩ := List.forall_mem_cons.mp h
      exact ih hwords (plain_replaceWord hword hs)

theorem plain_resolve (hs : Plain s) : Plain (resolve s) := by
  have himages : ∀ w ∈ references, Plain w.2.toList := by decide
  exact plain_words himages hs

/-! ## Spaces beside line feeds -/

/-- No space stands beside a line feed. -/
structure Flush (s : List Char) : Prop where
  behind : ¬ [' ', '\n'] <:+: s
  before : ¬ ['\n', ' '] <:+: s

theorem Flush.mono (h : Flush s) (ht : t <:+: s) : Flush t where
  behind hbehind := h.behind (hbehind.trans ht)
  before hbefore := h.before (hbefore.trans ht)

theorem flush_cons : Flush (c :: s) ↔
    ¬ (c = ' ' ∧ '\n' ∈ s.head?) ∧ ¬ (c = '\n' ∧ ' ' ∈ s.head?) ∧ Flush s := by
  refine ⟨fun ⟨hbehind, hbefore⟩ => ?_, fun ⟨hspace, hfeed, hbehind, hbefore⟩ => ?_⟩
  · rw [pair_infix_cons, not_or] at hbehind hbefore
    exact ⟨hbehind.1, hbefore.1, hbehind.2, hbefore.2⟩
  · constructor <;> rw [pair_infix_cons, not_or]
    · exact ⟨hspace, hbehind⟩
    · exact ⟨hfeed, hbefore⟩

/-- A line without blanks at its ends. -/
structure Bare (line : List Char) : Prop where
  feedless : '\n' ∉ line
  head : ∀ c ∈ line.head?, isBlank c = false
  last : ∀ c ∈ line.getLast?, isBlank c = false

theorem mem_head?_intercalate {lines : List (List Char)}
    (hc : c ∈ (['\n'].intercalate lines).head?) : c = '\n' ∨ ∃ line ∈ lines, c ∈ line.head? := by
  cases lines with
  | nil => cases hc
  | cons line lines =>
      by_cases hlines : lines = []
      · subst hlines
        rw [List.intercalate_singleton] at hc
        exact .inr ⟨line, List.mem_cons_self, hc⟩
      · rw [List.intercalate_cons_of_ne_nil hlines, List.append_assoc, List.head?_append] at hc
        rcases Option.or_eq_some_iff.mp hc with hc | ⟨-, hc⟩
        · exact .inr ⟨line, List.mem_cons_self, hc⟩
        · exact .inl (Option.some.inj hc).symm

theorem Bare.flush {line : List Char} (h : Bare line) : Flush line where
  behind hbehind := h.feedless (hbehind.subset (by simp))
  before hbefore := h.feedless (hbefore.subset (by simp))

theorem flush_intercalate {lines : List (List Char)} (h : ∀ line ∈ lines, Bare line) :
    Flush (['\n'].intercalate lines) := by
  induction lines with
  | nil => exact ⟨by simp, by simp⟩
  | cons line lines ih =>
      obtain ⟨hline, hlines⟩ := List.forall_mem_cons.mp h
      by_cases hnil : lines = []
      · subst hnil
        rw [List.intercalate_singleton]
        exact hline.flush
      · rw [List.intercalate_cons_of_ne_nil hnil, List.append_assoc]
        have hrest : Flush (['\n'].intercalate lines) := ih hlines
        constructor
        · intro hbehind
          rcases pair_infix_append.mp hbehind with hinner | hback | ⟨hlast, -⟩
          · exact hline.flush.behind hinner
          · rcases pair_infix_append.mp hback with hfeed | hinner | ⟨hfeed, -⟩
            · exact absurd hfeed (by decide)
            · exact hrest.behind hinner
            · exact absurd hfeed (by decide)
          · exact absurd (hline.last _ hlast) (by decide)
        · intro hbefore
          rcases pair_infix_append.mp hbefore with hinner | hback | ⟨hlast, -⟩
          · exact hline.flush.before hinner
          · rcases pair_infix_append.mp hback with hfeed | hinner | ⟨-, hhead⟩
            · exact absurd hfeed (by decide)
            · exact hrest.before hinner
            · rcases mem_head?_intercalate hhead with heq | ⟨next, hnext, hhead⟩
              · exact absurd heq (by decide)
              · exact absurd ((hlines next hnext).head _ hhead) (by decide)
          · exact hline.feedless (List.mem_of_getLast? hlast)

/-! ## Trimmed lines -/

theorem head?_trim (s : List Char) : ∀ c ∈ (trim s).head?, isBlank c = false := by
  have h : (trim s).head?.any isBlank = false := head?_bare s
  intro c hc
  rw [hc] at h
  exact h

theorem getLast?_trim (s : List Char) : ∀ c ∈ (trim s).getLast?, isBlank c = false := by
  have h : (trim s).getLast?.any isBlank = false := getLast?_bare s
  intro c hc
  rw [hc] at h
  exact h

theorem infix_trim (s : List Char) : trim s <:+: s := infix_bare s

theorem bare_trim {line : List Char} (h : '\n' ∉ line) : Bare (trim line) where
  feedless hfeed := h ((infix_trim line).subset hfeed)
  head := head?_trim line
  last := getLast?_trim line

theorem plain_trimLines (hs : Plain s) : Plain (trimLines s) := by
  intro c hc
  rcases mem_of_mem_intercalate hc with hfeed | ⟨line, hline, hc⟩
  · exact List.mem_singleton.mp hfeed ▸ rfl
  · obtain ⟨piece, hpiece, rfl⟩ := List.mem_map.mp hline
    exact hs c (mem_of_mem_splitAt (mem_splitAt_of_mem_lines hpiece) ((infix_trim piece).subset hc))

theorem flush_trimLines (s : List Char) : Flush (trimLines s) := by
  refine flush_intercalate fun line hline => ?_
  obtain ⟨piece, hpiece, rfl⟩ := List.mem_map.mp hline
  exact bare_trim (feed_not_mem_of_mem_lines hpiece)

/-! ## Runs of line feeds -/

/-- The text with no run of line feeds longer than two. -/
def closedUp (s : List Char) : List Char := substitute (ruleOf blankLines?) s

/-- What is left behind the line feeds at the start of a text. -/
def behindFeeds (s : List Char) : List Char := s.dropWhile (· = '\n')

theorem behindFeeds_suffix (s : List Char) : behindFeeds s <:+ s := List.dropWhile_suffix _

theorem head?_behindFeeds (s : List Char) : '\n' ∉ (behindFeeds s).head? := by
  intro h
  have hhead := List.head?_dropWhile_not (fun c => decide (c = '\n')) s
  rw [← behindFeeds, h] at hhead
  exact absurd hhead (by decide)

theorem ruleOf_blankLines_of_not (h : ¬ ['\n', '\n', '\n'] <+: s) :
    ruleOf blankLines? s = none := by
  have hshort : ¬ 3 ≤ (s.takeWhile (· = '\n')).length := by
    intro hlen
    obtain ⟨k, hk⟩ := Nat.exists_eq_add_of_le hlen
    have hfeeds : s.takeWhile (· = '\n') = List.replicate (3 + k) '\n' :=
      List.eq_replicate_iff.mpr ⟨hk, fun c hc => by simpa using List.mem_takeWhile_imp hc⟩
    have hthree : ['\n', '\n', '\n'] <+: s.takeWhile (· = '\n') := by
      rw [hfeeds, List.replicate_add]
      exact List.prefix_append _ _
    exact h (hthree.trans (List.takeWhile_prefix _))
  rw [ruleOf, blankLines?, if_neg hshort]
  rfl

theorem ruleOf_blankLines_feeds (s : List Char) :
    ruleOf blankLines? ('\n' :: '\n' :: '\n' :: s) =
      some (['\n', '\n'], s.length + 2 - (behindFeeds s).length) := by
  simp [ruleOf, blankLines?, behindFeeds]
  omega

theorem drop_feeds (s : List Char) :
    ('\n' :: '\n' :: s).drop (s.length + 2 - (behindFeeds s).length) = behindFeeds s := by
  have hsuffix : behindFeeds s <:+ '\n' :: '\n' :: s :=
    ((behindFeeds_suffix s).trans (List.suffix_cons _ s)).trans (List.suffix_cons _ _)
  exact (List.suffix_iff_eq_drop.mp hsuffix).symm

theorem closedUp_cons (h : ¬ ['\n', '\n', '\n'] <+: c :: s) :
    closedUp (c :: s) = c :: closedUp s :=
  substitute_of_none (ruleOf_blankLines_of_not h)

theorem closedUp_feeds (s : List Char) :
    closedUp ('\n' :: '\n' :: '\n' :: s) = '\n' :: '\n' :: closedUp (behindFeeds s) := by
  rw [closedUp, substitute_of_some (ruleOf_blankLines_feeds s), drop_feeds]
  rfl

/-- A text is closed up a character at a time, and a long run of line feeds at once. -/
theorem closedUp_induction {motive : List Char → Prop} (nil : motive [])
    (cons : ∀ c s, ¬ ['\n', '\n', '\n'] <+: c :: s → motive s → motive (c :: s))
    (feeds : ∀ s, motive (behindFeeds s) → motive ('\n' :: '\n' :: '\n' :: s)) (s : List Char) :
    motive s := by
  induction s using substitute_induction (ruleOf blankLines?) with
  | nil => exact nil
  | kept c s hrule ih =>
      refine cons c s ?_ ih
      rintro ⟨rest, hrest⟩
      rw [← hrest] at hrule
      exact absurd (hrule.symm.trans (ruleOf_blankLines_feeds rest)) nofun
  | replaced c s image n hrule ih =>
      by_cases hthree : ['\n', '\n', '\n'] <+: c :: s
      · obtain ⟨rest, hrest⟩ := hthree
        obtain ⟨rfl, rfl⟩ := List.cons.inj hrest
        have hfound := hrule.symm.trans (ruleOf_blankLines_feeds rest)
        obtain ⟨rfl, rfl⟩ := Prod.mk.inj (Option.some.inj hfound)
        have hback := drop_feeds rest
        exact feeds rest (hback ▸ ih)
      · exact absurd (hrule.symm.trans (ruleOf_blankLines_of_not hthree)) nofun

theorem head?_closedUp (s : List Char) : (closedUp s).head? = s.head? := by
  induction s using closedUp_induction with
  | nil => rfl
  | cons c s h ih => rw [closedUp_cons h]; rfl
  | feeds s ih => rw [closedUp_feeds]; rfl

theorem feed_behindFeeds_suffix (s : List Char) : '\n' :: behindFeeds s <:+ '\n' :: s := by
  induction s with
  | nil => exact List.suffix_refl _
  | cons c s ih =>
      by_cases hc : c = '\n'
      · subst hc
        exact ih.trans (List.suffix_cons _ _)
      · rw [behindFeeds, List.dropWhile_cons_of_neg (by simpa using hc)]

theorem Flush.closedUp (h : Flush s) : Flush (closedUp s) := by
  induction s using closedUp_induction with
  | nil => exact h
  | cons c s hthree ih =>
      rw [closedUp_cons hthree]
      obtain ⟨hspace, hfeed, hrest⟩ := flush_cons.mp h
      rw [← head?_closedUp s] at hspace hfeed
      exact flush_cons.mpr ⟨hspace, hfeed, ih hrest⟩
  | feeds s ih =>
      have hback : '\n' :: behindFeeds s <:+ '\n' :: '\n' :: '\n' :: s :=
        ((feed_behindFeeds_suffix s).trans (List.suffix_cons _ _)).trans (List.suffix_cons _ _)
      obtain ⟨-, hfeed, hrest⟩ := flush_cons.mp (h.mono hback.isInfix)
      rw [← head?_closedUp (behindFeeds s)] at hfeed
      rw [closedUp_feeds]
      have hlast : Flush ('\n' :: Docs.closedUp (behindFeeds s)) :=
        flush_cons.mpr ⟨by simp, hfeed, ih hrest⟩
      exact flush_cons.mpr ⟨by simp, by simp, hlast⟩

theorem two_feeds_of_closedUp (h : ['\n', '\n'] <+: closedUp s) : ['\n', '\n'] <+: s := by
  by_cases hthree : ['\n', '\n', '\n'] <+: s
  · exact (List.prefix_append ['\n', '\n'] ['\n']).trans hthree
  · cases s with
    | nil => exact h
    | cons c s =>
        rw [closedUp_cons hthree] at h
        obtain ⟨rfl, hnext⟩ := List.cons_prefix_cons.mp h
        refine List.cons_prefix_cons.mpr ⟨rfl, ?_⟩
        rw [List.singleton_prefix_iff_head?_eq_some] at hnext ⊢
        rw [← hnext, head?_closedUp]

theorem not_three_closedUp (s : List Char) : ¬ ['\n', '\n', '\n'] <:+: closedUp s := by
  induction s using closedUp_induction with
  | nil => simp [closedUp, substitute, substituteFrom]
  | cons c s hthree ih =>
      rw [closedUp_cons hthree, List.infix_cons_iff, List.cons_prefix_cons]
      rintro (⟨rfl, htwo⟩ | hinner)
      · exact hthree (List.cons_prefix_cons.mpr ⟨rfl, two_feeds_of_closedUp htwo⟩)
      · exact ih hinner
  | feeds s ih =>
      have hhead : '\n' ∉ (closedUp (behindFeeds s)).head? :=
        head?_closedUp (behindFeeds s) ▸ head?_behindFeeds s
      have hnext : ∀ more, ¬ '\n' :: more <+: closedUp (behindFeeds s) := by
        rintro more ⟨rest, hrest⟩
        rw [← hrest] at hhead
        exact hhead rfl
      rw [closedUp_feeds, List.infix_cons_iff, List.infix_cons_iff]
      rintro (hfront | hfront | hinner)
      · exact hnext _ (List.cons_prefix_cons.mp (List.cons_prefix_cons.mp hfront).2).2
      · exact hnext _ (List.cons_prefix_cons.mp hfront).2
      · exact ih hinner

theorem sound_blankLines : Sound blankLines? := by
  intro s image rest h hs
  rw [blankLines?] at h
  split at h
  · obtain ⟨rfl, -⟩ := Prod.mk.inj (Option.some.inj h)
    decide
  · cases h

/-! ## The Markdown of a fragment -/

/-- What is true of the Markdown of every fragment. -/
structure Tidy (s : List Char) : Prop where
  plain : Plain s
  flush : Flush s
  feeds : ¬ ['\n', '\n', '\n'] <:+: s
  head : ∀ c ∈ s.head?, isBlank c = false
  last : ∀ c ∈ s.getLast?, isBlank c = false

theorem tidy_trim (hplain : Plain s) (hflush : Flush s) (hfeeds : ¬ ['\n', '\n', '\n'] <:+: s) :
    Tidy (trim s) where
  plain := hplain.mono (infix_trim s).subset
  flush := hflush.mono (infix_trim s)
  feeds h := hfeeds (h.trans (infix_trim s))
  head := head?_trim s
  last := getLast?_trim s

/-- Three backquotes. -/
def fence : List Char := ['`', '`', '`']

/-- What is written for them. -/
def apostrophes : List Char := ['\'', '\'', '\'']

theorem not_mem_of_mem_apostrophes {w : List Char} (hw : '\'' ∉ w) : ∀ c ∈ apostrophes, c ∉ w := by
  intro c hc
  have hquote : c = '\'' := by simpa [apostrophes] using hc
  rwa [hquote]

/-- No word of blanks comes from the apostrophes. -/
theorem infix_of_infix_apostrophes {w : List Char} (hne : w ≠ []) (hw : '\'' ∉ w)
    (h : w <:+: replaceWord fence apostrophes s) : w <:+: s :=
  infix_of_infix_replaceWord (by decide) hne (not_mem_of_mem_apostrophes hw) h

theorem Tidy.replaceWord (h : Tidy s) : Tidy (replaceWord fence apostrophes s) where
  plain := plain_replaceWord (by decide) h.plain
  flush := {
    behind := fun hbehind =>
      h.flush.behind (infix_of_infix_apostrophes (by decide) (by decide) hbehind)
    before := fun hbefore =>
      h.flush.before (infix_of_infix_apostrophes (by decide) (by decide) hbefore) }
  feeds hfeeds := h.feeds (infix_of_infix_apostrophes (by decide) (by decide) hfeeds)
  head c hc := by
    by_cases hquote : c = '\''
    · exact hquote ▸ rfl
    · have hfront : [c] <+: Text.replaceWord fence apostrophes s :=
        List.singleton_prefix_iff_head?_eq_some.mpr hc
      have hapart : '\'' ∉ [c] := by simpa [eq_comm] using hquote
      exact h.head c (List.singleton_prefix_iff_head?_eq_some.mp
        (prefix_of_prefix_replaceWord (by decide) (not_mem_of_mem_apostrophes hapart) hfront))
  last c hc := by
    rcases getLast?_replaceWord (by decide) c hc with himage | hlast
    · exact Option.some.inj himage ▸ rfl
    · exact h.last c hlast

theorem tidy_markdownChars (html : List Char) : Tidy (markdownChars html) := by
  have hplain : Plain (trimLines (resolve (untagged html))) :=
    plain_trimLines (plain_resolve (plain_untagged html))
  have hflush : Flush (closedUp (trimLines (resolve (untagged html)))) :=
    (flush_trimLines _).closedUp
  exact (tidy_trim (sound_blankLines.plain hplain) hflush (not_three_closedUp _)).replaceWord

theorem not_fence_markdownChars (html : List Char) : ¬ fence <:+: markdownChars html :=
  not_infix_replaceWord (by decide) (by decide) (not_mem_of_mem_apostrophes (by decide)) _

end Clientwright.Docs
