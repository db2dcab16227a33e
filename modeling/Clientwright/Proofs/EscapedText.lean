import Clientwright.Proofs.DocumentationLines

/-!
# Plain text in a fragment

Plain text is written in HTML with references for five characters. None of the passes over
tags finds anything in it, since a tag begins with a character that has a reference. The
references are then resolved one kind after the other. `Written` is what every text on the way
has in common: an ampersand in it begins a reference. A reference has one ampersand and one
semicolon, at its two ends, so that a word of that form is found where it was written and
nowhere else (`replaceWord_references`), whatever the text says. What begins a reference itself
is resolved last, and what that leaves is not looked at again.
-/

namespace Clientwright.Docs

open Text

variable {find? : List Char → Option Found} {rule : List Char → Option (List Char × Nat)}
  {w image s t : List Char} {c : Char}

/-- The characters that have a reference. -/
def special : List Char := ['&', '<', '>', '"', '\'']

/-- How a character of plain text is written in HTML. -/
def reference (c : Char) : List Char :=
  if c = '&' then "&amp;".toList
  else if c = '<' then "&lt;".toList
  else if c = '>' then "&gt;".toList
  else if c = '"' then "&quot;".toList
  else if c = '\'' then "&#39;".toList
  else [c]

/-- Plain text as it is written in HTML. -/
def escape (t : List Char) : List Char := t.flatMap reference

/-- A text with three quotes for every three backquotes, from left to right. -/
def unfenced : List Char → List Char
  | '`' :: '`' :: '`' :: s => '\'' :: '\'' :: '\'' :: unfenced s
  | c :: s => c :: unfenced s
  | [] => []

/-- Plain text: its blanks are single spaces between other characters. -/
structure Spaced (t : List Char) : Prop extends Proper t where
  single : ¬ [' ', ' '] <:+: t

/-! ## Where nothing is found -/

theorem substitute_append_of_none (h : ∀ c ∈ s, ∀ rest, rule (c :: rest) = none) :
    substitute rule (s ++ t) = s ++ substitute rule t := by
  induction s with
  | nil => rfl
  | cons c s ih =>
      obtain ⟨hc, hs⟩ := List.forall_mem_cons.mp h
      rw [List.cons_append, substitute_of_none (hc _), ih hs, List.cons_append]

theorem substitute_eq_self (h : ∀ c ∈ s, ∀ rest, rule (c :: rest) = none) :
    substitute rule s = s := by
  have happend := substitute_append_of_none (t := []) h
  rw [List.append_nil] at happend
  rw [happend]
  exact List.append_nil s

/-- Nothing is found where no tag begins. -/
def TagsOnly (find? : List Char → Option Found) : Prop :=
  ∀ c s, c ≠ '<' → find? (c :: s) = none

theorem foldChar_ne_open (hc : c ≠ '<') : '<' ≠ foldChar c := by
  unfold foldChar
  split
  · decide
  · split
    · decide
    · unfold Char.toLower
      split
      · next hupper =>
        intro h
        have hval := congrArg (fun d => d.val.toNat) h
        simp [UInt32.le_iff_toNat_le] at hval hupper
        omega
      · exact hc.symm

theorem tag?_eq_none {tag : String} (htag : tag.toList.head? = some '<') (hc : c ≠ '<') :
    tag? tag (c :: s) = none := by
  obtain ⟨rest, hrest⟩ := List.head?_eq_some_iff.mp htag
  rw [tag?, hrest, dropTag?, if_neg (foldChar_ne_open hc)]

theorem oneOf?_eq_none {tags : List String} (htags : ∀ tag ∈ tags, tag.toList.head? = some '<')
    (hc : c ≠ '<') : oneOf? tags (c :: s) = none :=
  List.findSome?_eq_none_iff.mpr fun tag htag => tag?_eq_none (htags tag htag) hc

theorem tagsOnly_link : TagsOnly link? := by
  intro c s hc
  rw [link?, tag?_eq_none (by decide) hc]
  rfl

theorem tagsOnly_fullName : TagsOnly fullName? := by
  intro c s hc
  rw [fullName?, tag?_eq_none (by decide) hc]
  rfl

theorem tagsOnly_code : TagsOnly code? := by
  intro c s hc
  rw [code?, tag?_eq_none (by decide) hc]
  rfl

theorem tagsOnly_tags {tags : List String} (htags : ∀ tag ∈ tags, tag.toList.head? = some '<')
    (image : String) : TagsOnly (tags? tags image) := by
  intro c s hc
  rw [tags?, oneOf?_eq_none htags hc]
  rfl

theorem tagsOnly_tagsAndBlanks {tags : List String}
    (htags : ∀ tag ∈ tags, tag.toList.head? = some '<') (image : String) :
    TagsOnly (tagsAndBlanks? tags image) := by
  intro c s hc
  rw [tagsAndBlanks?, oneOf?_eq_none htags hc]
  rfl

theorem tagsOnly_break : TagsOnly break? := by
  intro c s hc
  rw [break?, tag?_eq_none (by decide) hc]
  rfl

theorem tagsOnly_anyTag : TagsOnly anyTag? := by
  intro c s hc
  unfold anyTag?
  split
  · next heq => exact absurd (List.cons.inj heq).1 hc
  · rfl

theorem tagsOnly_of_mem_passes (h : find? ∈ passes) : TagsOnly find? := by
  simp only [passes, List.mem_cons, List.not_mem_nil, or_false] at h
  rcases h with rfl | rfl | rfl | rfl | rfl | rfl | rfl | rfl | rfl | rfl
  · exact tagsOnly_link
  · exact tagsOnly_fullName
  · exact tagsOnly_code
  · exact tagsOnly_tags (by decide) _
  · exact tagsOnly_tags (by decide) _
  · exact tagsOnly_tagsAndBlanks (by decide) _
  · exact tagsOnly_tagsAndBlanks (by decide) _
  · exact tagsOnly_tags (by decide) _
  · exact tagsOnly_break
  · exact tagsOnly_anyTag

theorem passes_eq_self {finds : List (List Char → Option Found)}
    (h : ∀ find? ∈ finds, TagsOnly find?) (hs : '<' ∉ s) :
    finds.foldl (fun s find? => substitute (ruleOf find?) s) s = s := by
  induction finds with
  | nil => rfl
  | cons find? finds ih =>
      obtain ⟨hfind, hfinds⟩ := List.forall_mem_cons.mp h
      have hsame : substitute (ruleOf find?) s = s := by
        refine substitute_eq_self fun c hc rest => ?_
        rw [ruleOf, hfind c rest (ne_of_mem_of_not_mem hc hs)]
        rfl
      rw [List.foldl_cons, hsame, ih hfinds]

/-! ## References -/

/-- A word is a reference: an ampersand is its first character and no other one, and a
semicolon its last. -/
def IsReference (w : List Char) : Prop :=
  ∃ name, w = '&' :: (name ++ [';']) ∧ '&' ∉ name ∧ ';' ∉ name

/-- An ampersand in the word begins a reference. -/
def Written (w : List Char) : Prop := IsReference w ∨ '&' ∉ w

/-- What is true of these characters is checked one by one. -/
theorem of_all_special {p : Char → Prop} [DecidablePred p] (h : special.all p = true) :
    ∀ a ∈ special, p a := by
  simpa using h

theorem isReference_reference (hc : c ∈ special) : IsReference (reference c) := by
  simp only [special, List.mem_cons, List.not_mem_nil, or_false] at hc
  rcases hc with rfl | rfl | rfl | rfl | rfl
  · exact ⟨"amp".toList, by decide⟩
  · exact ⟨"lt".toList, by decide⟩
  · exact ⟨"gt".toList, by decide⟩
  · exact ⟨"quot".toList, by decide⟩
  · exact ⟨"#39".toList, by decide⟩

theorem reference_of_not_special (hc : c ∉ special) : reference c = [c] := by
  simp only [special, List.mem_cons, List.not_mem_nil, or_false, not_or] at hc
  simp [reference, hc]

theorem reference_inj {a b : Char} (ha : a ∈ special) (hb : b ∈ special)
    (h : reference a = reference b) : a = b := by
  simp only [special, List.mem_cons, List.not_mem_nil, or_false] at ha hb
  rcases ha with rfl | rfl | rfl | rfl | rfl <;>
    rcases hb with rfl | rfl | rfl | rfl | rfl <;> first | rfl | exact absurd h (by decide)

theorem reference_ne_nil (c : Char) : reference c ≠ [] := by
  by_cases hc : c ∈ special
  · obtain ⟨name, heq, -⟩ := isReference_reference hc
    rw [heq]
    exact List.cons_ne_nil _ _
  · rw [reference_of_not_special hc]
    exact List.cons_ne_nil _ _

/-- Two texts that are the same as far as a character which neither side has are the same there. -/
theorem eq_of_append_cons_eq {x y rest more : List Char} (hx : c ∉ x) (hy : c ∉ y)
    (h : x ++ c :: rest = y ++ c :: more) : x = y := by
  induction x generalizing y with
  | nil =>
      cases y with
      | nil => rfl
      | cons d y =>
          obtain ⟨rfl, -⟩ := List.cons.inj h
          exact absurd List.mem_cons_self hy
  | cons d x ih =>
      cases y with
      | nil =>
          obtain ⟨rfl, -⟩ := List.cons.inj h
          exact absurd List.mem_cons_self hx
      | cons e y =>
          obtain ⟨rfl, hrest⟩ := List.cons.inj h
          rw [ih (List.not_mem_of_not_mem_cons hx) (List.not_mem_of_not_mem_cons hy) hrest]

/-- A reference does not go on, so none is the beginning of another. -/
theorem IsReference.eq_of_prefix {v rest : List Char} (hw : IsReference w) (hv : IsReference v)
    (h : w <+: v ++ rest) : v = w := by
  obtain ⟨name, rfl, -, hname⟩ := hw
  obtain ⟨other, rfl, -, hother⟩ := hv
  obtain ⟨more, hmore⟩ := h
  simp only [List.cons_append, List.append_assoc, List.cons.injEq, true_and] at hmore
  rw [eq_of_append_cons_eq hother hname hmore.symm]

theorem wordRule_reference_eq_none (hw : IsReference w) (hc : c ≠ '&') :
    wordRule w image (c :: s) = none := by
  obtain ⟨name, rfl, -, -⟩ := hw
  rw [wordRule_eq_none_iff, List.cons_prefix_cons]
  exact fun h => hc h.1.symm

/-- What does not begin a reference stays. -/
theorem replaceWord_reference_append (hw : IsReference w) (hs : '&' ∉ s) :
    replaceWord w image (s ++ t) = s ++ replaceWord w image t :=
  substitute_append_of_none fun _ hc _ =>
    wordRule_reference_eq_none hw (ne_of_mem_of_not_mem hc hs)

/-- A reference stays unless it is the word. -/
theorem replaceWord_reference_other {v : List Char} (hw : IsReference w) (hv : Written v)
    (hne : v ≠ w) : replaceWord w image (v ++ t) = v ++ replaceWord w image t := by
  rcases hv with hv | hv
  · have hnone : wordRule w image (v ++ t) = none :=
      wordRule_eq_none_iff.mpr fun hprefix => hne (hw.eq_of_prefix hv hprefix)
    obtain ⟨name, rfl, hname, -⟩ := hv
    rw [List.cons_append] at hnone ⊢
    have hbody : '&' ∉ name ++ [';'] := by simpa using hname
    rw [replaceWord_eq, substitute_of_none hnone, ← replaceWord_eq,
      replaceWord_reference_append hw hbody, List.cons_append]
  · exact replaceWord_reference_append hw hv

theorem replaceWord_append_word (hne : w ≠ []) :
    replaceWord w image (w ++ t) = image ++ replaceWord w image t := by
  obtain ⟨c, rest, rfl⟩ := List.exists_cons_of_ne_nil hne
  have hdrop : dropStart? (c :: rest) (c :: (rest ++ t)) = some t :=
    dropStart?_eq_some_iff.mpr rfl
  have hfound : wordRule (c :: rest) image (c :: (rest ++ t)) = some (image, rest.length) := by
    rw [wordRule, hdrop]
    rfl
  rw [List.cons_append, replaceWord_eq, substitute_of_some hfound, List.drop_left, ← replaceWord_eq]

/-- Where every character is written so that an ampersand begins a reference, a reference is
replaced where it was written. -/
theorem replaceWord_references {f g : Char → List Char} (hw : IsReference w)
    (h : ∀ c ∈ t, (f c = w ∧ g c = image) ∨ (f c = g c ∧ f c ≠ w ∧ Written (f c))) :
    replaceWord w image (t.flatMap f) = t.flatMap g := by
  have hne : w ≠ [] := by
    obtain ⟨name, rfl, -⟩ := hw
    exact List.cons_ne_nil _ _
  induction t with
  | nil => rfl
  | cons c t ih =>
      obtain ⟨hc, ht⟩ := List.forall_mem_cons.mp h
      rw [List.flatMap_cons, List.flatMap_cons]
      rcases hc with ⟨hword, himage⟩ | ⟨hsame, hother, hwritten⟩
      · rw [hword, himage, replaceWord_append_word hne, ih ht]
      · rw [replaceWord_reference_other hw hwritten hother, hsame, ih ht]

/-! ## Resolving -/

/-- How a character is written while these characters still have their references. -/
def pending (l : List Char) (c : Char) : List Char := if c ∈ l then reference c else [c]

theorem written_pending {l : List Char} (hl : l ⊆ special) (hamp : '&' ∈ l) (c : Char) :
    Written (pending l c) := by
  rw [pending]
  split
  · next hc => exact .inl (isReference_reference (hl hc))
  · next hc =>
    have hne : '&' ≠ c := ne_of_mem_of_not_mem hamp hc
    exact .inr (by simpa using hne)

theorem pending_ne_of_not_mem {l : List Char} (hw : IsReference w) (hc : c ∉ l) :
    pending l c ≠ w := by
  obtain ⟨name, rfl, -⟩ := hw
  rw [pending, if_neg hc]
  simp

/-- One kind of reference is resolved. -/
theorem resolve_pending {l : List Char} {a : Char} (hl : l ⊆ special) (hamp : '&' ∈ l)
    (ha : a ∈ l) : replaceWord (reference a) [a] (t.flatMap (pending l)) =
      t.flatMap (pending (l.filter (· ≠ a))) := by
  have hreference := isReference_reference (hl ha)
  refine replaceWord_references hreference fun c _ => ?_
  by_cases hca : c = a
  · subst hca
    exact .inl ⟨if_pos ha, if_neg (by simp)⟩
  · have hsame : pending l c = pending (l.filter (· ≠ a)) c := by
      simp [pending, hca]
    have hne : pending l c ≠ reference a := by
      by_cases hc : c ∈ l
      · rw [pending, if_pos hc]
        exact fun h => hca (reference_inj (hl hc) (hl ha) h)
      · exact pending_ne_of_not_mem hreference hc
    exact .inr ⟨hsame, hne, written_pending hl hamp c⟩

/-- A reference that plain text is not written with is not found. -/
theorem resolve_absent {l : List Char} (hl : l ⊆ special) (hamp : '&' ∈ l) (hw : IsReference w)
    (habsent : ∀ a ∈ special, reference a ≠ w) :
    replaceWord w image (t.flatMap (pending l)) = t.flatMap (pending l) := by
  refine replaceWord_references hw fun c _ => .inr ⟨rfl, ?_, written_pending hl hamp c⟩
  by_cases hc : c ∈ l
  · rw [pending, if_pos hc]
    exact habsent c (hl hc)
  · exact pending_ne_of_not_mem hw hc

theorem escape_eq_pending (t : List Char) : escape t = t.flatMap (pending special) := by
  refine List.flatMap_congr fun c _ => ?_
  rw [pending]
  split
  · rfl
  · next hc => exact reference_of_not_special hc

theorem resolve_eq (s : List Char) : resolve s =
    replaceWord (reference '&') ['&'] (replaceWord "&nbsp;".toList [' ']
      (replaceWord "&apos;".toList ['\''] (replaceWord (reference '\'') ['\'']
        (replaceWord (reference '"') ['"'] (replaceWord (reference '>') ['>']
          (replaceWord (reference '<') ['<'] s)))))) := rfl

theorem resolve_escape (t : List Char) : resolve (escape t) = t := by
  have hlt : replaceWord (reference '<') ['<'] (t.flatMap (pending special)) =
      t.flatMap (pending ['&', '>', '"', '\'']) :=
    resolve_pending (by decide) (by decide) (by decide)
  have hgt : replaceWord (reference '>') ['>'] (t.flatMap (pending ['&', '>', '"', '\''])) =
      t.flatMap (pending ['&', '"', '\'']) := resolve_pending (by decide) (by decide) (by decide)
  have hquote : replaceWord (reference '"') ['"'] (t.flatMap (pending ['&', '"', '\''])) =
      t.flatMap (pending ['&', '\'']) := resolve_pending (by decide) (by decide) (by decide)
  have hapostrophe : replaceWord (reference '\'') ['\''] (t.flatMap (pending ['&', '\''])) =
      t.flatMap (pending ['&']) := resolve_pending (by decide) (by decide) (by decide)
  have hapos : replaceWord "&apos;".toList ['\''] (t.flatMap (pending ['&'])) =
      t.flatMap (pending ['&']) :=
    resolve_absent (by decide) (by decide) ⟨"apos".toList, by decide⟩ (of_all_special (by decide))
  have hnbsp : replaceWord "&nbsp;".toList [' '] (t.flatMap (pending ['&'])) =
      t.flatMap (pending ['&']) :=
    resolve_absent (by decide) (by decide) ⟨"nbsp".toList, by decide⟩ (of_all_special (by decide))
  have hamp : replaceWord (reference '&') ['&'] (t.flatMap (pending ['&'])) =
      t.flatMap (pending []) := resolve_pending (by decide) (by decide) (by decide)
  rw [resolve_eq, escape_eq_pending, hlt, hgt, hquote, hapostrophe, hapos, hnbsp, hamp]
  exact List.flatMap_singleton' t

/-! ## Blanks -/

theorem open_not_mem_escape (t : List Char) : '<' ∉ escape t := by
  rw [escape, List.mem_flatMap]
  rintro ⟨c, -, hc⟩
  by_cases hspecial : c ∈ special
  · have hnone : ∀ a ∈ special, '<' ∉ reference a := of_all_special (by decide)
    exact hnone c hspecial hc
  · rw [reference_of_not_special hspecial, List.mem_singleton] at hc
    exact hspecial (hc ▸ by decide)

theorem not_blank_reference (hc : isBlank c = false) : ∀ d ∈ reference c, isBlank d = false := by
  by_cases hspecial : c ∈ special
  · have hnone : ∀ a ∈ special, (reference a).any isBlank = false := of_all_special (by decide)
    simpa using hnone c hspecial
  · rw [reference_of_not_special hspecial]
    simpa using hc

theorem head?_escape (ht : ∀ c ∈ t.head?, isBlank c = false) :
    ∀ d ∈ (escape t).head?, isBlank d = false := by
  cases t with
  | nil => exact nofun
  | cons c t =>
      intro d hd
      have hreference := not_blank_reference (ht c rfl)
      rw [escape, List.flatMap_cons, List.head?_append] at hd
      rcases Option.or_eq_some_iff.mp hd with hd | ⟨hnil, -⟩
      · exact hreference d (List.mem_of_mem_head? hd)
      · exact absurd (List.head?_eq_none_iff.mp hnil) (reference_ne_nil c)

theorem squeeze_escape (hblanks : ∀ c ∈ t, isBlank c = true → c = ' ')
    (hsingle : ¬ [' ', ' '] <:+: t) : squeeze (escape t) = escape t := by
  induction t with
  | nil => rfl
  | cons c t ih =>
      obtain ⟨hc, ht⟩ := List.forall_mem_cons.mp hblanks
      rw [pair_infix_cons, not_or] at hsingle
      have hrest : squeeze (escape t) = escape t := ih ht hsingle.2
      rw [squeeze] at hrest ⊢
      rw [escape, List.flatMap_cons, ← escape]
      cases hblank : isBlank c with
      | false =>
          rw [substitute_append_of_none, hrest]
          intro d hd rest
          simp [not_blank_reference hblank d hd]
      | true =>
          obtain rfl := hc hblank
          have hhead : ∀ d ∈ (escape t).head?, isBlank d = false := by
            refine head?_escape fun d hd => ?_
            rw [← Bool.not_eq_true]
            intro hd'
            exact hsingle.1 ⟨rfl, ht d (List.mem_of_mem_head? hd) hd' ▸ hd⟩
          have hnone : (escape t).takeWhile isBlank = [] := by
            cases hs : escape t with
            | nil => rfl
            | cons d s =>
                rw [hs] at hhead
                rw [List.takeWhile_cons_of_neg (by rw [hhead d rfl]; decide)]
          show substitute _ (' ' :: escape t) = ' ' :: escape t
          refine (substitute_of_some (n := 0) (?_ : _ = some ([' '], 0))).trans ?_
          · simp [hblank, hnone]
          · rw [List.drop_zero, hrest]
            rfl

theorem trim_eq_self (hhead : ∀ c ∈ s.head?, isBlank c = false)
    (hlast : ∀ c ∈ s.getLast?, isBlank c = false) : trim s = s := by
  have hfront : s.dropWhile isBlank = s := by
    cases s with
    | nil => rfl
    | cons c s => rw [List.dropWhile_cons_of_neg (by rw [hhead c rfl]; decide)]
  have hback : s.rdropWhile isBlank = s := by
    refine List.rdropWhile_eq_self_iff.mpr fun hne => ?_
    rw [hlast _ (List.getLast?_eq_some_getLast hne)]
    decide
  rw [trim, hfront]
  exact hback

theorem Proper.feed_not_mem (h : Proper t) : '\n' ∉ t :=
  fun hfeed => absurd (h.blanks '\n' hfeed (by decide)) (by decide)

theorem Proper.trimLines (h : Proper t) : trimLines t = t := by
  by_cases hne : t = []
  · subst hne
    rfl
  · have hcut : Text.splitAt (· = '\n') t = [t] := by
      refine splitAt_of_uncut fun c hc => ?_
      simpa using ne_of_mem_of_not_mem hc h.feed_not_mem
    have hlines : lines t = [t] := by
      rw [lines, hcut]
      simp [hne]
    rw [Docs.trimLines, hlines, List.map_singleton, List.intercalate_singleton,
      trim_eq_self h.head h.last]

theorem Proper.closedUp (h : Proper t) : closedUp t = t := by
  refine substitute_eq_self fun c hc rest => ruleOf_blankLines_of_not ?_
  rw [List.cons_prefix_cons]
  rintro ⟨rfl, -⟩
  exact h.feed_not_mem hc

/-! ## Fences -/

theorem replaceWord_fence (s : List Char) : replaceWord fence apostrophes s = unfenced s := by
  induction s using unfenced.induct with
  | case1 s ih =>
      show replaceWord fence apostrophes (fence ++ s) = apostrophes ++ unfenced s
      rw [replaceWord_append_word (by decide), ih]
  | case2 c s hfence ih =>
      have hnone : wordRule fence apostrophes (c :: s) = none := by
        rw [wordRule_eq_none_iff]
        rintro ⟨rest, hrest⟩
        obtain ⟨rfl, rfl⟩ := List.cons.inj hrest
        exact hfence rest rfl rfl
      rw [replaceWord_eq, substitute_of_none hnone, ← replaceWord_eq, ih, unfenced]
      exact hfence
  | case3 => rfl

/-- Plain text that is written in HTML is its own Markdown, but for the fences in it. -/
theorem markdown_escape {t : String} (h : Spaced t.toList) :
    (markdown (String.ofList (escape t.toList))).toList = unfenced t.toList := by
  have hsqueeze := squeeze_escape h.blanks h.single
  have htags : untagged (escape t.toList) = escape t.toList := by
    rw [untagged, hsqueeze]
    exact passes_eq_self (fun _ => tagsOnly_of_mem_passes) (open_not_mem_escape t.toList)
  have hlines : Docs.closedUp (Docs.trimLines (resolve (escape t.toList))) = t.toList := by
    rw [resolve_escape, h.toProper.trimLines, h.toProper.closedUp]
  rw [markdown, String.toList_ofList, String.toList_ofList]
  show replaceWord fence apostrophes (trim (Docs.closedUp (Docs.trimLines (resolve
    (untagged (escape t.toList)))))) = _
  rw [htags, hlines, trim_eq_self h.head h.last, replaceWord_fence]

/-- A text about references and tags that looks like both, with a fence in it. -/
def aboutTags : String := "write <b> & '&lt;b&gt;' as \"&amp;lt;b\", not ````"

theorem spaced_aboutTags : Spaced aboutTags.toList where
  blanks := by
    have hall : (aboutTags.toList.all fun c => !isBlank c || c = ' ') = true := by decide
    simpa [imp_iff_not_or] using hall
  head c hc := by
    have hfirst : 'w' = c := Option.some.inj hc
    rw [← hfirst]
    decide
  last c hc := by
    have hlast : '`' = c := Option.some.inj hc
    rw [← hlast]
    decide
  single := by decide

theorem markdown_aboutTags : Spaced aboutTags.toList ∧
    (markdown (String.ofList (escape aboutTags.toList))).toList =
      "write <b> & '&lt;b&gt;' as \"&amp;lt;b\", not '''`".toList :=
  ⟨spaced_aboutTags, (markdown_escape spaced_aboutTags).trans (by decide)⟩

end Clientwright.Docs
