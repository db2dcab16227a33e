import Clientwright.Service.Http
import Mathlib.Tactic.Common

/-!
# Cutting a path at its placeholders

The placeholders of a path are found by going over it once, character by
character. Here the path is taken as a whole: it is the text before each
placeholder, the placeholder in its braces, and the text that is left
(`PathCut`). A cut is known by the braces that it leaves in these texts, so every
path has exactly one (`PathCut.exists_unique`), and what stands in its braces is
what is found by going over the path.
-/

namespace Clientwright.Request

/-! ## Cutting a path -/

/-- A path as its placeholders, each with the text before it, and the text after them. -/
structure PathCut where
  places : List (List Char × List Char)
  rest : List Char

namespace PathCut

/-- The text of the cut, with something at each place. -/
def filled (f : List Char → List Char) (cut : PathCut) : List Char :=
  (cut.places.flatMap fun place => place.1 ++ f place.2) ++ cut.rest

/-- A placeholder as it stands in the path. -/
def braced (inner : List Char) : List Char := '\x7b' :: (inner ++ ['\x7d'])

/-- The mark of a format string. -/
def mark : List Char := ['\x7b', '\x7d']

/-- A placeholder begins at the first brace that opens and ends where that is closed. After
the last one the first brace that opens is not closed. -/
structure Sound (cut : PathCut) : Prop where
  before : ∀ place ∈ cut.places, '\x7b' ∉ place.1
  inner : ∀ place ∈ cut.places, '\x7d' ∉ place.2
  rest : ∀ s t, cut.rest = s ++ '\x7b' :: t → '\x7b' ∉ s → '\x7d' ∉ t

/-- The placeholders of the cut. -/
def placeholders (cut : PathCut) : List Placeholder :=
  cut.places.map fun place => .ofInner place.2

/-- The cut with one more place before it. -/
def cons (place : List Char × List Char) (cut : PathCut) : PathCut :=
  { cut with places := place :: cut.places }

variable {cut : PathCut} {place : List Char × List Char} {f : List Char → List Char}
  {s t before inner : List Char}

theorem filled_nil (rest : List Char) : filled f ⟨[], rest⟩ = rest := List.nil_append _

theorem filled_cons (f : List Char → List Char) (place : List Char × List Char) (cut : PathCut) :
    (cut.cons place).filled f = place.1 ++ (f place.2 ++ cut.filled f) := by
  rw [filled, cons, List.flatMap_cons, List.append_assoc, List.append_assoc]
  rfl

theorem sound_cons (place : List Char × List Char) (cut : PathCut) :
    (cut.cons place).Sound ↔ '\x7b' ∉ place.1 ∧ '\x7d' ∉ place.2 ∧ cut.Sound := by
  constructor
  · rintro ⟨hbefore, hinner, hrest⟩
    obtain ⟨hb, hbefore⟩ := List.forall_mem_cons.mp hbefore
    obtain ⟨hi, hinner⟩ := List.forall_mem_cons.mp hinner
    exact ⟨hb, hi, hbefore, hinner, hrest⟩
  · rintro ⟨hb, hi, hbefore, hinner, hrest⟩
    exact ⟨List.forall_mem_cons.mpr ⟨hb, hbefore⟩, List.forall_mem_cons.mpr ⟨hi, hinner⟩, hrest⟩

/-- What stands before the first character of a kind, and what stands after it. -/
theorem split_unique {c : Char} {s s' t t' : List Char} (hs : c ∉ s) (hs' : c ∉ s')
    (h : s ++ c :: t = s' ++ c :: t') : s = s' ∧ t = t' := by
  induction s generalizing s' with
  | nil =>
      cases s' with
      | nil => exact ⟨rfl, (List.cons.inj h).2⟩
      | cons d s' => exact absurd ((List.cons.inj h).1 ▸ List.mem_cons_self) hs'
  | cons a s ih =>
      cases s' with
      | nil => exact absurd ((List.cons.inj h).1 ▸ List.mem_cons_self) hs
      | cons d s' =>
          obtain ⟨rfl, htail⟩ := List.cons.inj h
          obtain ⟨rfl, ht⟩ := ih (fun hc => hs (List.mem_cons_of_mem _ hc))
            (fun hc => hs' (List.mem_cons_of_mem _ hc)) htail
          exact ⟨rfl, ht⟩

/-- There is no placeholder in the text after the last one. -/
theorem Sound.rest_ne (h : Sound ⟨[], s⟩) (hbefore : '\x7b' ∉ before) :
    s ≠ before ++ (braced inner ++ t) := by
  intro hs
  rw [braced, List.cons_append, List.append_assoc] at hs
  exact h.rest before _ hs hbefore (List.mem_append_right _ List.mem_cons_self)

/-- A path has one sound cut. -/
theorem Sound.unique {cut cut' : PathCut} (h : cut.Sound) (h' : cut'.Sound)
    (heq : cut.filled braced = cut'.filled braced) : cut = cut' := by
  obtain ⟨places, rest⟩ := cut
  obtain ⟨places', rest'⟩ := cut'
  induction places generalizing places' with
  | nil =>
      rw [filled_nil] at heq
      cases places' with
      | nil =>
          rw [filled_nil] at heq
          rw [heq]
      | cons place' places' =>
          have hfilled := filled_cons braced place' ⟨places', rest'⟩
          exact absurd (heq.trans hfilled) (h.rest_ne (h'.before place' List.mem_cons_self))
  | cons place places ih =>
      have hfilled := filled_cons braced place ⟨places, rest⟩
      cases places' with
      | nil =>
          rw [filled_nil] at heq
          exact absurd (heq.symm.trans hfilled) (h'.rest_ne (h.before place List.mem_cons_self))
      | cons place' places' =>
          obtain ⟨hbefore, hinner, hsound⟩ := (sound_cons place ⟨places, rest⟩).mp h
          obtain ⟨hbefore', hinner', hsound'⟩ := (sound_cons place' ⟨places', rest'⟩).mp h'
          have hfilled' := filled_cons braced place' ⟨places', rest'⟩
          have htext := hfilled.symm.trans (heq.trans hfilled')
          rw [braced, braced, List.cons_append, List.cons_append] at htext
          obtain ⟨hfirst, htext⟩ := split_unique hbefore hbefore' htext
          rw [List.append_assoc, List.append_assoc] at htext
          obtain ⟨hsecond, htext⟩ := split_unique hinner hinner' htext
          have hcut := ih hsound _ hsound' htext
          obtain ⟨rfl, rfl⟩ := PathCut.mk.inj hcut
          rw [Prod.ext hfirst hsecond]

/-! ## The placeholders of a path -/

theorem scan_outside {c : Char} : Placeholder.scan none (c :: t) =
    Placeholder.scan (if c = '\x7b' then some [] else none) t := rfl

theorem scan_inside {c : Char} {read : List Char} : Placeholder.scan (some read) (c :: t) =
    if c = '\x7d' then .ofInner read.reverse :: Placeholder.scan none t
    else Placeholder.scan (some (c :: read)) t := rfl

theorem scan_before {s t : List Char} (h : '\x7b' ∉ s) :
    Placeholder.scan none (s ++ t) = Placeholder.scan none t := by
  induction s with
  | nil => rfl
  | cons c s ih =>
      rw [List.mem_cons, not_or] at h
      rw [List.cons_append, scan_outside, if_neg (Ne.symm h.1), ih h.2]

theorem scan_inner {s t read : List Char} (h : '\x7d' ∉ s) :
    Placeholder.scan (some read) (s ++ t) = Placeholder.scan (some (s.reverse ++ read)) t := by
  induction s generalizing read with
  | nil => rfl
  | cons c s ih =>
      rw [List.mem_cons, not_or] at h
      rw [List.cons_append, scan_inside, if_neg (Ne.symm h.1), ih h.2, List.reverse_cons,
        List.append_assoc, List.singleton_append]

/-- After the last placeholder there is none. -/
theorem scan_rest {rest : List Char} (h : Sound ⟨[], rest⟩) : Placeholder.scan none rest = [] := by
  have hend {s : List Char} : '\x7b' ∉ s → Placeholder.scan none s = [] := by
    intro hs
    rw [← List.append_nil s, scan_before hs]
    rfl
  by_cases hopen : '\x7b' ∈ rest
  · obtain ⟨s, t, rfl, hs⟩ := List.eq_append_cons_of_mem hopen
    have ht := h.rest s t rfl hs
    rw [scan_before hs, scan_outside, if_pos rfl, ← List.append_nil t, scan_inner ht]
    rfl
  · exact hend hopen

theorem scan_braced : '\x7d' ∉ inner → Placeholder.scan none (braced inner ++ t) =
    .ofInner inner :: Placeholder.scan none t := by
  intro hinner
  rw [braced, List.cons_append, scan_outside, if_pos rfl, List.append_assoc, scan_inner hinner,
    List.singleton_append, scan_inside, if_pos rfl, List.append_nil, List.reverse_reverse]

/-- The placeholders of a path are those of its cut. -/
theorem scan_filled (h : cut.Sound) :
    Placeholder.scan none (cut.filled braced) = cut.placeholders := by
  obtain ⟨places, rest⟩ := cut
  induction places with
  | nil =>
      rw [filled_nil]
      exact scan_rest h
  | cons place places ih =>
      have hfilled := filled_cons braced place ⟨places, rest⟩
      obtain ⟨hbefore, hinner, hsound⟩ := (sound_cons place ⟨places, rest⟩).mp h
      refine (congrArg _ hfilled).trans ?_
      rw [scan_before hbefore, scan_braced hinner, ih hsound]
      rfl

/-- Every path can be cut. -/
theorem exists_sound (s : List Char) : ∃ cut : PathCut, cut.Sound ∧ cut.filled braced = s := by
  -- After a place the rest is shorter by the place, and not only by one character.
  induction hn : s.length using Nat.strongRecOn generalizing s with
  | ind n ih =>
      by_cases hopen : '\x7b' ∈ s
      · obtain ⟨before, t, rfl, hbefore⟩ := List.eq_append_cons_of_mem hopen
        by_cases hclosed : '\x7d' ∈ t
        · obtain ⟨inner, u, rfl, hinner⟩ := List.eq_append_cons_of_mem hclosed
          have hlength : u.length < n := by
            simp only [List.length_append, List.length_cons] at hn
            omega
          obtain ⟨cut, hcut, hfilled⟩ := ih u.length hlength u rfl
          refine ⟨cut.cons (before, inner), (sound_cons _ _).mpr ⟨hbefore, hinner, hcut⟩, ?_⟩
          rw [filled_cons, hfilled, braced, List.cons_append, List.append_assoc,
            List.singleton_append]
        · refine ⟨⟨[], _⟩, ⟨nofun, nofun, fun s' t' hs' hbefore' => ?_⟩, filled_nil _⟩
          obtain ⟨-, rfl⟩ := split_unique hbefore hbefore' hs'
          exact hclosed
      · refine ⟨⟨[], s⟩, ⟨nofun, nofun, fun s' t' hs' _ => ?_⟩, filled_nil s⟩
        obtain rfl : s = s' ++ '\x7b' :: t' := hs'
        exact absurd (List.mem_append_right _ List.mem_cons_self) hopen

/-- A path has one cut, and its placeholders are those that are found in it. -/
theorem exists_unique (b : HttpBinding) : ∃ cut : PathCut,
    (∀ other : PathCut, other.Sound ∧ other.filled braced = b.path.toList ↔ other = cut) ∧
      cut.placeholders = b.placeholders := by
  obtain ⟨cut, hcut, hpath⟩ := exists_sound b.path.toList
  refine ⟨cut, fun other => ⟨?_, ?_⟩, ?_⟩
  · rintro ⟨hother, hfilled⟩
    exact hother.unique hcut (hfilled.trans hpath.symm)
  · rintro rfl
    exact ⟨hcut, hpath⟩
  · rw [← scan_filled hcut, hpath]
    rfl

end PathCut

end Clientwright.Request
