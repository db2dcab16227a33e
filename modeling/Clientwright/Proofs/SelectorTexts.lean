import Clientwright.Proofs.Outcomes
import Clientwright.Selector.Parser

/-!
# The texts that are selectors

What a selector may look like is said here without the reader: a name, then any
number of names behind points and of texts between brackets. The grammar grows at
its right end, since the reader goes from left to right and what it has behind it
is then either a path or a path with the beginning of a suffix.

`Refused` is the same for the texts that are no paths. Each of its rules says how
far the text is one and what stands there instead, so the error of a text is known
from the grammar alone.

The reader is matched with the two in both ways. What it has read it has read as
the grammar says, whatever follows, and this is an induction on the path. What it
answers is a path or a refusal, and this is an induction on the text in front of
it, where the invariant says what the text behind it is.
-/

namespace Clientwright.Selector

open Outcome

/-! ## The grammar -/

/-- Letters, digits and underscores, and at least one. -/
def IsName (s : List Char) : Prop := s ≠ [] ∧ ∀ c ∈ s, isNameChar c = true

/-- Decimal digits, and at least one. -/
def IsDigits (s : List Char) : Prop := s ≠ [] ∧ ∀ c ∈ s, c.isDigit = true

/-- The text is the number in decimal digits, with or without a sign. -/
inductive Decimal : List Char → Int → Prop where
  | plain {s : List Char} : IsDigits s → Decimal s (Nat.ofDigitChars 10 s 0)
  | plus {s : List Char} : IsDigits s → Decimal ('+' :: s) (Nat.ofDigitChars 10 s 0)
  | minus {s : List Char} : IsDigits s → Decimal ('-' :: s) (-(Nat.ofDigitChars 10 s 0))

/-- What a text between brackets means. -/
inductive Bracket (inner : List Char) : Step → Prop where
  | blank : Text.trim inner = [] → Bracket inner .project
  | star : Text.trim inner = ['*'] → Bracket inner .project
  | index {n : Int} : Decimal (Text.trim inner) n → fitsInt64 n = true → Bracket inner (.index n)

/-- The text is a name and suffixes, and these are its steps. What stands between
brackets is left to `B`. -/
inductive Path (B : List Char → Step → Prop) : List Char → List Step → Prop where
  | name {s : List Char} : IsName s → Path B s [.field (String.ofList s)]
  | field {s t : List Char} {steps : List Step} : Path B s steps → IsName t →
      Path B (s ++ '.' :: t) (steps ++ [.field (String.ofList t)])
  | bracket {s inner : List Char} {steps : List Step} {step : Step} : Path B s steps →
      ']' ∉ inner → B inner step → Path B (s ++ '[' :: (inner ++ [']'])) (steps ++ [step])

/-- The text is one alternative of a selector. -/
abbrev Alternative : List Char → List Step → Prop := Path Bracket

/-- Behind the text comes a name: it is empty, or a path and a point. -/
def Awaits (s : List Char) (steps : List Step) : Prop :=
  (s = [] ∧ steps = []) ∨ ∃ t, Alternative t steps ∧ s = t ++ ['.']

/-- Why a text is no alternative: how far it is one, and what comes then. -/
inductive Refused : List Char → SelectorError → Prop where
  | empty : Refused [] .empty
  | trailingDot {s : List Char} {steps : List Step} : Alternative s steps →
      Refused (s ++ ['.']) .trailingDot
  | unnamed {s rest : List Char} {steps : List Step} {c : Char} : Awaits s steps →
      c = '.' ∨ c = '[' → Refused (s ++ c :: rest) (.unexpected c s.length)
  | glued {s rest : List Char} {steps : List Step} {c : Char} : Alternative s steps →
      s.getLast? = some ']' → isNameChar c = true →
      Refused (s ++ c :: rest) (.unexpected c s.length)
  | foreignStart {s rest : List Char} {steps : List Step} {c : Char} : Awaits s steps →
      isNameChar c = false → c ≠ '.' → c ≠ '[' →
      Refused (s ++ c :: rest) (.unsupported (String.ofList (s ++ c :: rest)))
  | foreignSuffix {s rest : List Char} {steps : List Step} {c : Char} : Alternative s steps →
      isNameChar c = false → c ≠ '.' → c ≠ '[' →
      Refused (s ++ c :: rest) (.unsupported (String.ofList (s ++ c :: rest)))
  | unclosed {s rest : List Char} {steps : List Step} : Alternative s steps → ']' ∉ rest →
      Refused (s ++ '[' :: rest) (.unsupported (String.ofList (s ++ '[' :: rest)))
  | noIndex {s inner rest : List Char} {steps : List Step} : Alternative s steps → ']' ∉ inner →
      (∀ step, ¬ Bracket inner step) →
      Refused (s ++ '[' :: (inner ++ ']' :: rest))
        (.unsupported (String.ofList (s ++ '[' :: (inner ++ ']' :: rest))))

/-- The pieces of the text between double bars, which are taken from the left. -/
inductive Cut : List Char → List (List Char) → Prop where
  | last {s : List Char} : ¬ ['|', '|'] <:+: s → Cut s [s]
  | bars {piece rest : List Char} {pieces : List (List Char)} : ¬ ['|', '|'] <:+: piece ++ ['|'] →
      Cut rest pieces → Cut (piece ++ '|' :: '|' :: rest) (piece :: pieces)

/-! ## What stands between brackets -/

variable {s t rest inner whole read : List Char} {steps given more : List Step} {step : Step}
  {mode : Mode} {c : Char} {n : Nat}

theorem not_isDigits_cons (h : c.isDigit = false) : ¬ IsDigits (c :: s) := by
  rintro ⟨-, hall⟩
  rw [hall c List.mem_cons_self] at h
  cases h

theorem natOfDigits?_eq_some :
    natOfDigits? s = some n ↔ IsDigits s ∧ n = Nat.ofDigitChars 10 s 0 := by
  rw [natOfDigits?, IsDigits]
  split
  next h =>
    refine ⟨nofun, fun ⟨⟨hne, hall⟩, _⟩ => ?_⟩
    simp [hne] at h
    obtain ⟨c, hc, hdigit⟩ := h
    rw [hall c hc] at hdigit
    cases hdigit
  next h =>
    simp at h
    rw [Option.some.injEq, and_iff_right ⟨h.1, h.2⟩]
    exact eq_comm

theorem decimal_unsigned (hplus : c ≠ '+') (hminus : c ≠ '-') {i : Int} :
    Decimal (c :: s) i ↔ IsDigits (c :: s) ∧ i = Nat.ofDigitChars 10 (c :: s) 0 := by
  constructor
  · intro h
    cases h with
    | plain hs => exact ⟨hs, rfl⟩
    | plus hs => exact absurd rfl hplus
    | minus hs => exact absurd rfl hminus
  · rintro ⟨hs, rfl⟩
    exact .plain hs

theorem decimal_plus {i : Int} :
    Decimal ('+' :: s) i ↔ IsDigits s ∧ i = Nat.ofDigitChars 10 s 0 := by
  constructor
  · intro h
    cases h with
    | plain hs => exact absurd hs (not_isDigits_cons rfl)
    | plus hs => exact ⟨hs, rfl⟩
  · rintro ⟨hs, rfl⟩
    exact .plus hs

theorem decimal_minus {i : Int} :
    Decimal ('-' :: s) i ↔ IsDigits s ∧ i = -(Nat.ofDigitChars 10 s 0) := by
  constructor
  · intro h
    cases h with
    | plain hs => exact absurd hs (not_isDigits_cons rfl)
    | minus hs => exact ⟨hs, rfl⟩
  · rintro ⟨hs, rfl⟩
    exact .minus hs

theorem not_decimal_nil {i : Int} : ¬ Decimal [] i := by
  rintro ⟨h, -⟩
  exact h rfl

/-- The number that digits and a sign write, if a word holds it. -/
def signed? (sign : Int → Int) (digits : List Char) : Option Int :=
  (Option.map sign (natOfDigits? digits >>= fun m => pure (m : Int))).filter fitsInt64

theorem signed?_eq_some {sign : Int → Int} {i : Int} :
    signed? sign s = some i ↔
      (IsDigits s ∧ i = sign (Nat.ofDigitChars 10 s 0)) ∧ fitsInt64 i = true := by
  rw [signed?, Option.filter_eq_some_iff, Option.map_eq_some_iff]
  refine and_congr_left fun _ => ⟨?_, ?_⟩
  · rintro ⟨value, hvalue, rfl⟩
    obtain ⟨m, hm, hm'⟩ := Option.bind_eq_some_iff.mp hvalue
    obtain rfl := Option.some.inj hm'
    obtain ⟨hdigits, rfl⟩ := natOfDigits?_eq_some.mp hm
    exact ⟨hdigits, rfl⟩
  · rintro ⟨hdigits, rfl⟩
    exact ⟨_, Option.bind_eq_some_iff.mpr
      ⟨_, natOfDigits?_eq_some.mpr ⟨hdigits, rfl⟩, rfl⟩, rfl⟩

theorem indexOf?_minus : indexOf? ('-' :: s) = signed? (fun m => -m) s := rfl

theorem indexOf?_plus : indexOf? ('+' :: s) = signed? (fun m => m) s := rfl

theorem indexOf?_unsigned (hplus : c ≠ '+') (hminus : c ≠ '-') :
    indexOf? (c :: s) = signed? (fun m => m) (c :: s) := by
  unfold indexOf?
  split
  next heq => exact absurd (List.head_eq_of_cons_eq heq) hminus
  next heq => exact absurd (List.head_eq_of_cons_eq heq) hplus
  next => rfl

theorem indexOf?_eq_some {i : Int} :
    indexOf? s = some i ↔ Decimal s i ∧ fitsInt64 i = true := by
  cases s with
  | nil => exact ⟨nofun, fun h => absurd h.1 not_decimal_nil⟩
  | cons c s =>
      by_cases hminus : c = '-'
      · rw [hminus, indexOf?_minus, signed?_eq_some, decimal_minus]
      · by_cases hplus : c = '+'
        · rw [hplus, indexOf?_plus, signed?_eq_some, decimal_plus]
        · rw [indexOf?_unsigned hplus hminus, signed?_eq_some, decimal_unsigned hplus hminus]

theorem bracketStep?_eq_some : bracketStep? inner = some step ↔ Bracket inner step := by
  have hindex : (indexOf? (Text.trim inner)).map Step.index = some step ↔
      ∃ n, (Decimal (Text.trim inner) n ∧ fitsInt64 n = true) ∧ .index n = step := by
    rw [Option.map_eq_some_iff]
    exact exists_congr fun n => and_congr_left fun _ => indexOf?_eq_some
  rw [bracketStep?]
  split
  next hblank =>
    rw [Option.some.injEq]
    constructor
    · rintro rfl
      exact .blank hblank
    · rintro (_ | _ | ⟨hn, -⟩)
      · rfl
      · rfl
      · rw [hblank] at hn
        exact absurd hn not_decimal_nil
  next hstar =>
    rw [Option.some.injEq]
    constructor
    · rintro rfl
      exact .star hstar
    · rintro (_ | _ | ⟨hn, -⟩)
      · rfl
      · rfl
      · rw [hstar, decimal_unsigned (by decide) (by decide)] at hn
        exact absurd hn.1 (not_isDigits_cons rfl)
  next hblank hstar =>
    rw [hindex]
    constructor
    · rintro ⟨n, ⟨hn, hfits⟩, rfl⟩
      exact .index hn hfits
    · rintro (h | h | ⟨hn, hfits⟩)
      · exact absurd h hblank
      · exact absurd h hstar
      · exact ⟨_, ⟨hn, hfits⟩, rfl⟩

/-! ## What the reader has read -/

theorem isNameChar_point : isNameChar '.' = false := rfl

theorem isNameChar_opening : isNameChar '[' = false := rfl

theorem isNameChar_closing : isNameChar ']' = false := rfl

/-! The reader by what it has just seen. -/

theorem stepsFrom_field_cons : stepsFrom whole .field n (c :: rest) =
    if isNameChar c then stepsFrom whole (.name [c]) (n + 1) rest
    else if c = '.' ∨ c = '[' then .error (.unexpected c n)
    else .error (.unsupported (String.ofList whole)) := rfl

theorem stepsFrom_name_cons : stepsFrom whole (.name read) n (c :: rest) =
    if isNameChar c then stepsFrom whole (.name (c :: read)) (n + 1) rest
    else if c = '.' then (stepsFrom whole .field (n + 1) rest).map (fieldOf read :: ·)
    else if c = '[' then (stepsFrom whole (.bracket []) (n + 1) rest).map (fieldOf read :: ·)
    else .error (.unsupported (String.ofList whole)) := rfl

theorem stepsFrom_closed_cons : stepsFrom whole .closed n (c :: rest) =
    if isNameChar c then .error (.unexpected c n)
    else if c = '.' then stepsFrom whole .field (n + 1) rest
    else if c = '[' then stepsFrom whole (.bracket []) (n + 1) rest
    else .error (.unsupported (String.ofList whole)) := rfl

theorem stepsFrom_bracket_cons (h : c ≠ ']') : stepsFrom whole (.bracket read) n (c :: rest) =
    stepsFrom whole (.bracket (c :: read)) (n + 1) rest := if_neg h

theorem stepsFrom_closing : stepsFrom whole (.bracket read) n (']' :: rest) =
    match bracketStep? read.reverse with
    | some step => (stepsFrom whole .closed (n + 1) rest).map (step :: ·)
    | none => .error (.unsupported (String.ofList whole)) := rfl

theorem stepsFrom_name (h : ∀ c ∈ t, isNameChar c = true) :
    stepsFrom whole (.name read) n (t ++ rest) =
      stepsFrom whole (.name (t.reverse ++ read)) (n + t.length) rest := by
  induction t generalizing read n with
  | nil => rfl
  | cons c t ih =>
      obtain ⟨hc, ht⟩ := List.forall_mem_cons.mp h
      rw [List.cons_append, stepsFrom_name_cons, if_pos hc, ih ht, List.reverse_cons,
        List.append_assoc, List.singleton_append, List.length_cons, Nat.add_right_comm,
        Nat.add_assoc]

theorem stepsFrom_field (h : IsName t) :
    stepsFrom whole .field n (t ++ rest) =
      stepsFrom whole (.name t.reverse) (n + t.length) rest := by
  obtain ⟨hne, hall⟩ := h
  cases t with
  | nil => exact absurd rfl hne
  | cons c t =>
      obtain ⟨hc, ht⟩ := List.forall_mem_cons.mp hall
      rw [List.cons_append, stepsFrom_field_cons, if_pos hc, stepsFrom_name ht, List.reverse_cons,
        List.length_cons, Nat.add_right_comm, Nat.add_assoc]

theorem stepsFrom_bracket (h : ']' ∉ t) :
    stepsFrom whole (.bracket read) n (t ++ rest) =
      stepsFrom whole (.bracket (t.reverse ++ read)) (n + t.length) rest := by
  induction t generalizing read n with
  | nil => rfl
  | cons c t ih =>
      rw [List.mem_cons, not_or] at h
      obtain ⟨hc, ht⟩ := h
      rw [List.cons_append, stepsFrom_bracket_cons (Ne.symm hc), ih ht, List.reverse_cons,
        List.append_assoc, List.singleton_append, List.length_cons, Nat.add_right_comm,
        Nat.add_assoc]

/-- Whatever follows `s`, the reader is behind it in the mode and has given out the steps. -/
def Reads (whole s : List Char) (steps : List Step) (mode : Mode) : Prop :=
  ∀ rest, stepsFrom whole .field 0 (s ++ rest) =
    (stepsFrom whole mode s.length rest).map (steps ++ ·)

/-- The steps of a text that may end here. -/
def Mode.complete (given : List Step) : Mode → Option (List Step)
  | .name read => some (given ++ [fieldOf read])
  | .closed => some given
  | .field | .bracket _ => none

theorem reads_nil : Reads whole [] [] .field := by
  intro rest
  rw [List.nil_append, List.length_nil]
  exact (congrFun Except.map_id _).symm

/-- What the reader does from one place to the next. -/
theorem Reads.append {mode' : Mode} (h : Reads whole s given mode)
    (hnext : ∀ rest, stepsFrom whole mode s.length (t ++ rest) =
      (stepsFrom whole mode' (s ++ t).length rest).map (more ++ ·)) :
    Reads whole (s ++ t) (given ++ more) mode' := by
  intro rest
  rw [List.append_assoc, h, hnext]
  cases stepsFrom whole mode' (s ++ t).length rest with
  | ok steps => simp only [Except.map, List.append_assoc]
  | error x => rfl

theorem Reads.name (h : Reads whole s steps .field) (ht : IsName t) :
    Reads whole (s ++ t) steps (.name t.reverse) := by
  rw [← List.append_nil steps]
  refine h.append fun rest => ?_
  rw [stepsFrom_field ht, List.length_append]
  exact (congrFun Except.map_id _).symm

/-- A point after a path. -/
theorem Reads.point (h : Reads whole s given mode) (hsteps : mode.complete given = some steps) :
    Reads whole (s ++ ['.']) steps .field := by
  cases mode with
  | field => cases hsteps
  | bracket read => cases hsteps
  | name read =>
      obtain rfl := Option.some.inj hsteps
      refine h.append fun rest => ?_
      rw [List.singleton_append, stepsFrom_name_cons, isNameChar_point,
        if_neg Bool.false_ne_true, if_pos rfl, List.length_append]
      rfl
  | closed =>
      obtain rfl := Option.some.inj hsteps
      rw [← List.append_nil given]
      refine h.append fun rest => ?_
      rw [List.singleton_append, stepsFrom_closed_cons, isNameChar_point,
        if_neg Bool.false_ne_true, if_pos rfl, List.length_append]
      exact (congrFun Except.map_id _).symm

/-- An opening bracket after a path. -/
theorem Reads.opening (h : Reads whole s given mode) (hsteps : mode.complete given = some steps) :
    Reads whole (s ++ ['[']) steps (.bracket []) := by
  cases mode with
  | field => cases hsteps
  | bracket read => cases hsteps
  | name read =>
      obtain rfl := Option.some.inj hsteps
      refine h.append fun rest => ?_
      rw [List.singleton_append, stepsFrom_name_cons, isNameChar_opening,
        if_neg Bool.false_ne_true, if_neg (by decide), if_pos rfl, List.length_append]
      rfl
  | closed =>
      obtain rfl := Option.some.inj hsteps
      rw [← List.append_nil given]
      refine h.append fun rest => ?_
      rw [List.singleton_append, stepsFrom_closed_cons, isNameChar_opening,
        if_neg Bool.false_ne_true, if_neg (by decide), if_pos rfl, List.length_append]
      exact (congrFun Except.map_id _).symm

theorem Reads.between (h : Reads whole s steps (.bracket [])) (hinner : ']' ∉ inner) :
    Reads whole (s ++ inner) steps (.bracket inner.reverse) := by
  rw [← List.append_nil steps]
  refine h.append fun rest => ?_
  rw [stepsFrom_bracket hinner, List.append_nil, List.length_append]
  exact (congrFun Except.map_id _).symm

theorem Reads.closing (h : Reads whole s steps (.bracket inner.reverse))
    (hstep : Bracket inner step) : Reads whole (s ++ [']']) (steps ++ [step]) .closed := by
  refine h.append fun rest => ?_
  have hread : bracketStep? inner.reverse.reverse = some step := by
    rw [List.reverse_reverse]
    exact bracketStep?_eq_some.mpr hstep
  rw [List.singleton_append, stepsFrom_closing, hread, List.length_append]
  rfl

/-- A path is read to its end, and a bracket there is known to have been one. -/
theorem exists_reads (h : Alternative s steps) (whole : List Char) :
    ∃ mode given, Reads whole s given mode ∧ mode.complete given = some steps ∧
      (s.getLast? = some ']' → mode = .closed) := by
  induction h with
  | @name s hs =>
      refine ⟨.name s.reverse, [], reads_nil.name hs, ?_, fun hlast => ?_⟩
      · rw [Mode.complete, fieldOf, List.reverse_reverse]
        rfl
      · have hclosing := hs.2 _ (List.mem_of_getLast? hlast)
        rw [isNameChar_closing] at hclosing
        cases hclosing
  | @field s t steps _ ht ih =>
      obtain ⟨mode, given, hreads, hsteps, -⟩ := ih
      refine ⟨.name t.reverse, steps, ?_, ?_, fun hlast => ?_⟩
      · rw [← List.singleton_append, ← List.append_assoc]
        exact (hreads.point hsteps).name ht
      · rw [Mode.complete, fieldOf, List.reverse_reverse]
      · rw [List.getLast?_append, List.getLast?_cons, List.getLast?_eq_some_getLast ht.1] at hlast
        have hclosing := ht.2 ']' (Option.some.inj hlast ▸ List.getLast_mem ht.1)
        rw [isNameChar_closing] at hclosing
        cases hclosing
  | @bracket s inner steps step _ hinner hstep ih =>
      obtain ⟨mode, given, hreads, hsteps, -⟩ := ih
      refine ⟨.closed, steps ++ [step], ?_, rfl, fun _ => rfl⟩
      rw [← List.singleton_append, ← List.append_assoc, ← List.append_assoc]
      exact ((hreads.opening hsteps).between hinner).closing hstep

theorem Awaits.reads (h : Awaits s steps) : Reads whole s steps .field := by
  obtain ⟨rfl, rfl⟩ | ⟨t, ht, rfl⟩ := h
  · exact reads_nil
  · obtain ⟨mode, given, hreads, hsteps, -⟩ := exists_reads ht whole
    exact hreads.point hsteps

/-! ## What the reader has behind it -/

/-- The text behind the reader in each mode, with the steps that it has given out. -/
def Stands (s : List Char) (given : List Step) : Mode → Prop
  | .field => Awaits s given
  | .name read => ∃ t, Awaits t given ∧ IsName read.reverse ∧ s = t ++ read.reverse
  | .closed => Alternative s given ∧ s.getLast? = some ']'
  | .bracket read => ∃ t, Alternative t given ∧ ']' ∉ read ∧ s = t ++ '[' :: read.reverse

theorem Awaits.name (h : Awaits s given) (ht : IsName t) :
    Alternative (s ++ t) (given ++ [.field (String.ofList t)]) := by
  obtain ⟨rfl, rfl⟩ | ⟨u, hu, rfl⟩ := h
  · exact .name ht
  · rw [List.append_assoc, List.singleton_append]
    exact .field hu ht

theorem Stands.path_of_name (h : Stands s given (.name read)) :
    Alternative s (given ++ [fieldOf read]) := by
  obtain ⟨t, ht, hread, rfl⟩ := h
  exact ht.name hread

theorem Stands.name (h : Stands s given .field) (hc : isNameChar c = true) :
    Stands (s ++ [c]) given (.name [c]) :=
  ⟨s, h, ⟨List.cons_ne_nil _ _, List.forall_mem_singleton.mpr hc⟩, rfl⟩

theorem Stands.name_cons (h : Stands s given (.name read)) (hc : isNameChar c = true) :
    Stands (s ++ [c]) given (.name (c :: read)) := by
  obtain ⟨t, ht, ⟨-, hall⟩, rfl⟩ := h
  refine ⟨t, ht, ⟨?_, ?_⟩, ?_⟩
  · rw [List.reverse_cons]
    exact List.append_ne_nil_of_right_ne_nil _ (List.cons_ne_nil _ _)
  · rw [List.reverse_cons, List.forall_mem_append]
    exact ⟨hall, List.forall_mem_singleton.mpr hc⟩
  · rw [List.reverse_cons, List.append_assoc]

theorem stands_point (h : Alternative s given) : Stands (s ++ ['.']) given .field :=
  .inr ⟨s, h, rfl⟩

theorem stands_opening (h : Alternative s given) : Stands (s ++ ['[']) given (.bracket []) :=
  ⟨s, h, List.not_mem_nil, rfl⟩

theorem Stands.bracket_cons (h : Stands s given (.bracket read)) (hc : c ≠ ']') :
    Stands (s ++ [c]) given (.bracket (c :: read)) := by
  obtain ⟨t, ht, hread, rfl⟩ := h
  refine ⟨t, ht, ?_, ?_⟩
  · rw [List.mem_cons, not_or]
    exact ⟨hc.symm, hread⟩
  · rw [List.reverse_cons, List.append_assoc, List.cons_append]

theorem Stands.closing (h : Stands s given (.bracket read)) (hstep : Bracket read.reverse step) :
    Stands (s ++ [']']) (given ++ [step]) .closed := by
  obtain ⟨t, ht, hread, rfl⟩ := h
  refine ⟨?_, List.getLast?_concat⟩
  rw [List.append_assoc, List.cons_append]
  exact .bracket ht (fun hmem => hread (List.mem_reverse.mp hmem)) hstep

/-- What the reader answers about a text, from a place in it. -/
def Answers (whole : List Char) (given : List Step) : Except SelectorError (List Step) → Prop :=
  Meets (fun more => Alternative whole (given ++ more)) (Refused whole)

theorem answers_map_cons {answer : Except SelectorError (List Step)}
    (h : Answers whole (given ++ [step]) answer) :
    Answers whole given (answer.map (step :: ·)) := by
  refine meets_map h fun more hmore => ?_
  rw [List.append_assoc] at hmore
  exact hmore

/-- What comes after a path that is there in full. -/
theorem answers_foreign (h : Alternative s given) (hname : isNameChar c ≠ true)
    (hpoint : c ≠ '.') (hopening : c ≠ '[') :
    Refused (s ++ c :: rest) (.unsupported (String.ofList (s ++ c :: rest))) :=
  .foreignSuffix h (Bool.eq_false_iff.mpr hname) hpoint hopening

section Step

/-! One character, if the answers from the next place on are right. -/

variable (hwhole : whole = s ++ c :: rest)
  (hnext : ∀ {given mode}, Stands (s ++ [c]) given mode →
    Answers whole given (stepsFrom whole mode (s.length + 1) rest))

include hwhole hnext

theorem field_answers (h : Stands s given .field) :
    Answers whole given (stepsFrom whole .field s.length (c :: rest)) := by
  rw [stepsFrom_field_cons]
  split
  next hname => exact hnext (h.name hname)
  next hname =>
    split
    next hc => exact meets_error (hwhole ▸ .unnamed h hc)
    next hc =>
      rw [not_or] at hc
      exact meets_error (hwhole ▸ .foreignStart h (Bool.eq_false_iff.mpr hname) hc.1 hc.2)

theorem name_answers (h : Stands s given (.name read)) :
    Answers whole given (stepsFrom whole (.name read) s.length (c :: rest)) := by
  rw [stepsFrom_name_cons]
  split
  next hname => exact hnext (h.name_cons hname)
  next hname =>
    split
    next hc =>
      subst hc
      exact answers_map_cons (hnext (stands_point h.path_of_name))
    next hpoint =>
      split
      next hc =>
        subst hc
        exact answers_map_cons (hnext (stands_opening h.path_of_name))
      next hopening =>
        exact meets_error (hwhole ▸ answers_foreign h.path_of_name hname hpoint hopening)

theorem closed_answers (h : Stands s given .closed) :
    Answers whole given (stepsFrom whole .closed s.length (c :: rest)) := by
  obtain ⟨hpath, hlast⟩ := h
  rw [stepsFrom_closed_cons]
  split
  next hname => exact meets_error (hwhole ▸ .glued hpath hlast hname)
  next hname =>
    split
    next hc =>
      subst hc
      exact hnext (stands_point hpath)
    next hpoint =>
      split
      next hc =>
        subst hc
        exact hnext (stands_opening hpath)
      next hopening => exact meets_error (hwhole ▸ answers_foreign hpath hname hpoint hopening)

theorem bracket_answers (h : Stands s given (.bracket read)) :
    Answers whole given (stepsFrom whole (.bracket read) s.length (c :: rest)) := by
  by_cases hc : c = ']'
  · subst hc
    cases hstep : bracketStep? read.reverse with
    | some step =>
        rw [stepsFrom_closing, hstep]
        exact answers_map_cons (hnext (h.closing (bracketStep?_eq_some.mp hstep)))
    | none =>
        obtain ⟨t, ht, hread, rfl⟩ := h
        have hnone step (hinner : Bracket read.reverse step) : False := by
          rw [bracketStep?_eq_some.mpr hinner] at hstep
          cases hstep
        rw [stepsFrom_closing, hstep]
        rw [List.append_assoc, List.cons_append] at hwhole
        exact meets_error (hwhole ▸
          .noIndex ht (fun hmem => hread (List.mem_reverse.mp hmem)) hnone)
  · rw [stepsFrom_bracket_cons hc]
    exact hnext (h.bracket_cons hc)

end Step

/-- Wherever the reader stands, it gives out the steps of the text or refuses it. -/
theorem stepsFrom_answers (hne : whole ≠ []) (h : Stands s given mode)
    (hwhole : whole = s ++ rest) :
    Answers whole given (stepsFrom whole mode s.length rest) := by
  induction rest generalizing s given mode with
  | nil =>
      rw [List.append_nil] at hwhole
      subst hwhole
      cases mode with
      | field =>
          obtain ⟨rfl, -⟩ | ⟨t, ht, rfl⟩ := h
          · exact absurd rfl hne
          · exact meets_error (.trailingDot ht)
      | name read => exact meets_ok h.path_of_name
      | closed =>
          refine meets_ok ?_
          rw [List.append_nil]
          exact h.1
      | bracket read =>
          obtain ⟨t, ht, hread, rfl⟩ := h
          exact meets_error (.unclosed ht fun hmem => hread (List.mem_reverse.mp hmem))
  | cons c rest ih =>
      have hnext {given mode} (h : Stands (s ++ [c]) given mode) :
          Answers whole given (stepsFrom whole mode (s.length + 1) rest) := by
        have hanswers := ih h (by rw [hwhole, List.append_assoc, List.singleton_append])
        rw [List.length_append] at hanswers
        exact hanswers
      cases mode with
      | field => exact field_answers hwhole hnext h
      | name read => exact name_answers hwhole hnext h
      | closed => exact closed_answers hwhole hnext h
      | bracket read => exact bracket_answers hwhole hnext h

/-! ## The reader and the grammar -/

theorem parseAlternative_answers (s : List Char) :
    Meets (Alternative s) (Refused s) (parseAlternative s) := by
  rw [parseAlternative]
  split
  next hs =>
    rw [List.isEmpty_iff] at hs
    subst hs
    exact meets_error .empty
  next hs =>
    rw [List.isEmpty_iff] at hs
    have hstart : Stands [] [] .field := .inl ⟨rfl, rfl⟩
    exact stepsFrom_answers hs hstart rfl

variable {B : List Char → Step → Prop}

/-- The steps of a path begin with a field. -/
theorem Path.exists_field (h : Path B s steps) : ∃ name rest, steps = .field name :: rest := by
  induction h with
  | name _ => exact ⟨_, [], rfl⟩
  | field _ _ ih | bracket _ _ _ ih =>
      obtain ⟨name, rest, rfl⟩ := ih
      exact ⟨name, _, rfl⟩

theorem Path.steps_ne_nil (h : Path B s steps) : steps ≠ [] := by
  obtain ⟨name, rest, rfl⟩ := h.exists_field
  exact List.cons_ne_nil _ _

/-- An index in an alternative fits a word. -/
theorem fitsInt64_of_alternative {i : Int} (h : Alternative s steps) (hi : .index i ∈ steps) :
    fitsInt64 i = true := by
  induction h with
  | name _ => cases List.mem_singleton.mp hi
  | field _ _ ih =>
      rcases List.mem_append.mp hi with hi | hi
      · exact ih hi
      · cases List.mem_singleton.mp hi
  | bracket _ _ hstep ih =>
      rcases List.mem_append.mp hi with hi | hi
      · exact ih hi
      · obtain rfl := List.mem_singleton.mp hi
        cases hstep with
        | index _ hfits => exact hfits

theorem Path.ne_nil (h : Path B s steps) : s ≠ [] := by
  cases h with
  | name hs => exact hs.1
  | field => exact List.append_ne_nil_of_right_ne_nil _ (List.cons_ne_nil _ _)
  | bracket => exact List.append_ne_nil_of_right_ne_nil _ (List.cons_ne_nil _ _)

theorem parseAlternative_of_reads (h : Reads whole s given mode) (hwhole : whole = s ++ rest)
    (hne : whole ≠ []) :
    parseAlternative whole = (stepsFrom whole mode s.length rest).map (given ++ ·) := by
  rw [parseAlternative, if_neg (mt List.isEmpty_iff.mp hne)]
  exact (congrArg _ hwhole).trans (h rest)

theorem parseAlternative_of_alternative (h : Alternative s steps) :
    parseAlternative s = .ok steps := by
  obtain ⟨mode, given, hreads, hsteps, -⟩ := exists_reads h s
  rw [parseAlternative_of_reads hreads (List.append_nil s).symm h.ne_nil]
  cases mode with
  | field => cases hsteps
  | bracket read => cases hsteps
  | name read =>
      obtain rfl := Option.some.inj hsteps
      rfl
  | closed =>
      obtain rfl := Option.some.inj hsteps
      exact congrArg _ (List.append_nil given)

theorem parseAlternative_error {x : SelectorError} (h : Reads whole s given mode)
    (hwhole : whole = s ++ c :: rest) (hx : stepsFrom whole mode s.length (c :: rest) = .error x) :
    parseAlternative whole = .error x := by
  have hne : whole ≠ [] := hwhole ▸ List.append_ne_nil_of_right_ne_nil _ (List.cons_ne_nil _ _)
  rw [parseAlternative_of_reads h hwhole hne, hx]
  rfl

theorem parseAlternative_of_refused {x : SelectorError} (h : Refused s x) :
    parseAlternative s = .error x := by
  cases h with
  | empty => rfl
  | @trailingDot t steps ht =>
      obtain ⟨mode, given, hreads, hsteps, -⟩ := exists_reads ht (t ++ ['.'])
      rw [parseAlternative_of_reads (hreads.point hsteps) (List.append_nil _).symm
        (List.append_ne_nil_of_right_ne_nil _ (List.cons_ne_nil _ _))]
      rfl
  | unnamed ht hc =>
      refine parseAlternative_error ht.reads rfl ?_
      rw [stepsFrom_field_cons, if_neg, if_pos hc]
      rcases hc with rfl | rfl
      · rw [isNameChar_point]
        exact Bool.false_ne_true
      · rw [isNameChar_opening]
        exact Bool.false_ne_true
  | @glued t rest steps c ht hlast hc =>
      obtain ⟨mode, given, hreads, hsteps, hclosed⟩ := exists_reads ht (t ++ c :: rest)
      obtain rfl := hclosed hlast
      exact parseAlternative_error hreads rfl (if_pos hc)
  | foreignStart ht hname hpoint hopening =>
      refine parseAlternative_error ht.reads rfl ?_
      rw [stepsFrom_field_cons, hname, if_neg Bool.false_ne_true,
        if_neg (not_or.mpr ⟨hpoint, hopening⟩)]
  | @foreignSuffix t rest steps c ht hname hpoint hopening =>
      obtain ⟨mode, given, hreads, hsteps, -⟩ := exists_reads ht (t ++ c :: rest)
      refine parseAlternative_error hreads rfl ?_
      cases mode with
      | field => cases hsteps
      | bracket read => cases hsteps
      | name read =>
          rw [stepsFrom_name_cons, hname, if_neg Bool.false_ne_true, if_neg hpoint,
            if_neg hopening]
      | closed =>
          rw [stepsFrom_closed_cons, hname, if_neg Bool.false_ne_true, if_neg hpoint,
            if_neg hopening]
  | @unclosed t rest steps ht hrest =>
      obtain ⟨mode, given, hreads, hsteps, -⟩ := exists_reads ht (t ++ '[' :: rest)
      have hwhole : t ++ '[' :: rest = t ++ ['['] ++ rest ++ [] := by
        rw [List.append_nil, List.append_assoc, List.singleton_append]
      rw [parseAlternative_of_reads ((hreads.opening hsteps).between hrest) hwhole
        (List.append_ne_nil_of_right_ne_nil _ (List.cons_ne_nil _ _))]
      rfl
  | @noIndex t inner rest steps ht hinner hnone =>
      obtain ⟨mode, given, hreads, hsteps, -⟩ :=
        exists_reads ht (t ++ '[' :: (inner ++ ']' :: rest))
      have hwhole : t ++ '[' :: (inner ++ ']' :: rest) = t ++ ['['] ++ inner ++ ']' :: rest := by
        rw [List.append_assoc, List.append_assoc, List.singleton_append]
      have hstep : bracketStep? inner.reverse.reverse = none := by
        rw [List.reverse_reverse, Option.eq_none_iff_forall_ne_some]
        intro step hstep
        exact hnone step (bracketStep?_eq_some.mp hstep)
      refine parseAlternative_error ((hreads.opening hsteps).between hinner) hwhole ?_
      rw [stepsFrom_closing, hstep]

theorem parseAlternative_eq_ok : parseAlternative s = .ok steps ↔ Alternative s steps := by
  refine ⟨fun h => ?_, parseAlternative_of_alternative⟩
  have hanswers := parseAlternative_answers s
  rw [h] at hanswers
  exact hanswers

theorem parseAlternative_eq_error {x : SelectorError} :
    parseAlternative s = .error x ↔ Refused s x := by
  refine ⟨fun h => ?_, parseAlternative_of_refused⟩
  have hanswers := parseAlternative_answers s
  rw [h] at hanswers
  exact hanswers

theorem refused_empty : Refused s .empty ↔ s = [] := by
  constructor
  · rintro ⟨⟩
    rfl
  · rintro rfl
    exact .empty

theorem refused_trailingDot :
    Refused s .trailingDot ↔ ∃ t steps, Alternative t steps ∧ s = t ++ ['.'] := by
  constructor
  · rintro (_ | h)
    exact ⟨_, _, h, rfl⟩
  · rintro ⟨t, steps, h, rfl⟩
    exact .trailingDot h

/-- The position of a character that is reported holds that character. -/
theorem getElem?_of_refused (h : Refused s (.unexpected c n)) : s[n]? = some c := by
  have hposition {s rest : List Char} : (s ++ c :: rest)[s.length]? = some c := by
    rw [List.getElem?_append_right (Nat.le_refl _), Nat.sub_self]
    rfl
  cases h with
  | unnamed => exact hposition
  | glued => exact hposition

/-! ## Pieces -/

/-- Two bars are in a text if they begin it or are in the rest of it. -/
theorem bars_infix_cons : ['|', '|'] <:+: c :: s ↔ (c = '|' ∧ ['|'] <+: s) ∨ ['|', '|'] <:+: s := by
  rw [List.infix_cons_iff, List.cons_prefix_cons]
  exact or_congr_left (and_congr_left fun _ => eq_comm)

theorem bar_prefix_append : ['|'] <+: s ++ ['|'] ↔ ['|'] <+: s ++ '|' :: rest := by
  cases s with
  | nil => simp
  | cons c s => simp

theorem splitBars_cons {piece : List Char} {pieces : List (List Char)}
    (h : ¬ (c = '|' ∧ ['|'] <+: s)) (hs : splitBars s = piece :: pieces) :
    splitBars (c :: s) = (c :: piece) :: pieces := by
  unfold splitBars
  split
  next heq => cases heq
  next rest heq =>
    obtain ⟨rfl, rfl⟩ := List.cons.inj heq
    exact absurd ⟨rfl, rest, rfl⟩ h
  next c' s' _ heq =>
    obtain ⟨rfl, rfl⟩ := List.cons.inj heq
    rw [hs]

theorem splitBars_last (h : ¬ ['|', '|'] <:+: s) : splitBars s = [s] := by
  induction s with
  | nil => rfl
  | cons c s ih =>
      rw [bars_infix_cons, not_or] at h
      exact splitBars_cons h.1 (ih h.2)

theorem splitBars_bars (h : ¬ ['|', '|'] <:+: s ++ ['|']) :
    splitBars (s ++ '|' :: '|' :: rest) = s :: splitBars rest := by
  induction s with
  | nil => rfl
  | cons c s ih =>
      rw [List.cons_append, bars_infix_cons, not_or, bar_prefix_append] at h
      exact splitBars_cons h.1 (ih h.2)

theorem Cut.cons {piece : List Char} {pieces : List (List Char)} (h : Cut s (piece :: pieces))
    (hc : ¬ (c = '|' ∧ ['|'] <+: s)) : Cut (c :: s) ((c :: piece) :: pieces) := by
  cases h with
  | last hs => exact .last (by rw [bars_infix_cons, not_or]; exact ⟨hc, hs⟩)
  | @bars _ rest _ hs hrest =>
      rw [← List.cons_append]
      refine .bars ?_ hrest
      rw [List.cons_append, bars_infix_cons, not_or, bar_prefix_append]
      exact ⟨hc, hs⟩

theorem cut_splitBars (s : List Char) : Cut s (splitBars s) := by
  fun_induction splitBars s with
  | case1 => exact .last (by simp)
  | case2 rest ih =>
      have hnone : ¬ ['|', '|'] <:+: ([] : List Char) ++ ['|'] := by simp [bars_infix_cons]
      exact .bars hnone ih
  | case3 c rest hc piece pieces hrest ih =>
      rw [hrest] at ih
      refine ih.cons ?_
      rintro ⟨rfl, t, ht⟩
      exact hc t rfl ht.symm
  | case4 c rest hc hrest ih =>
      rw [hrest] at ih
      cases ih

/-- A text has one list of pieces. -/
theorem cut_iff {pieces : List (List Char)} : Cut s pieces ↔ pieces = splitBars s := by
  constructor
  · intro h
    induction h with
    | last hs => exact (splitBars_last hs).symm
    | bars hs _ ih => rw [splitBars_bars hs, ih]
  · rintro rfl
    exact cut_splitBars s

/-! ## Selectors -/

theorem parse_eq_ok {text : String} {e : Selector} :
    parse text = .ok e ↔
      List.Forall₂ (fun piece steps => Alternative (Text.trim piece) steps)
        (splitBars text.toList) e.alternatives := by
  have hpieces {alternatives : List (List Step)} :
      (splitBars text.toList).mapM (fun piece => parseAlternative (Text.trim piece)) =
          .ok alternatives ↔
        List.Forall₂ (fun piece steps => Alternative (Text.trim piece) steps)
          (splitBars text.toList) alternatives := by
    simp only [mapM_eq_ok, parseAlternative_eq_ok]
  rw [parse, map_eq_ok]
  constructor
  · rintro ⟨alternatives, h, rfl⟩
    exact hpieces.mp h
  · intro h
    exact ⟨e.alternatives, hpieces.mpr h, rfl⟩

theorem parse_eq_error {text : String} {x : SelectorError} :
    parse text = .error x ↔ ∃ before piece after, splitBars text.toList = before ++ piece :: after ∧
      (∀ other ∈ before, ∃ steps, Alternative (Text.trim other) steps) ∧
      Refused (Text.trim piece) x := by
  rw [parse, map_eq_error, mapM_eq_error]
  simp only [parseAlternative_eq_ok, parseAlternative_eq_error, Succeeds]

theorem Cut.ne_nil {pieces : List (List Char)} (h : Cut s pieces) : pieces ≠ [] := by
  cases h with
  | last => exact List.cons_ne_nil _ _
  | bars => exact List.cons_ne_nil _ _

/-- What was read has an alternative. -/
theorem alternatives_ne_nil {text : String} {e : Selector} (h : parse text = .ok e) :
    e.alternatives ≠ [] := by
  have hread := parse_eq_ok.mp h
  intro hnil
  rw [hnil, List.forall₂_nil_right_iff] at hread
  exact (cut_splitBars text.toList).ne_nil hread

theorem exists_alternative {text : String} {e : Selector} (h : parse text = .ok e)
    (hsteps : steps ∈ e.alternatives) : ∃ piece, Alternative piece steps := by
  obtain ⟨piece, -, hpath⟩ := exists_left_of_forall₂ (parse_eq_ok.mp h) hsteps
  exact ⟨_, hpath⟩

/-- An alternative that was read has a step. -/
theorem ne_nil_of_mem_alternatives {text : String} {e : Selector} (h : parse text = .ok e)
    (hsteps : steps ∈ e.alternatives) : steps ≠ [] := by
  obtain ⟨piece, hpath⟩ := exists_alternative h hsteps
  exact hpath.steps_ne_nil

/-- Which texts are selectors and which steps they have, and for each other text the
error: it is that of the first piece that is no alternative, it is emptiness only for the
empty piece and a last point only behind an alternative, and a character is reported
where it stands. -/
theorem parse_iff_grammar (text : String) :
    ∃ pieces, (∀ l, Cut text.toList l ↔ l = pieces) ∧
      (∀ e, parse text = .ok e ↔
        List.Forall₂ (fun piece steps => Alternative (Text.trim piece) steps) pieces
          e.alternatives) ∧
      (∀ x, parse text = .error x ↔
        ∃ before piece after, pieces = before ++ piece :: after ∧
          (∀ other ∈ before, ∃ steps, Alternative (Text.trim other) steps) ∧
          Refused (Text.trim piece) x) ∧
      ∀ piece,
        (Refused piece .empty ↔ piece = []) ∧
        (Refused piece .trailingDot ↔ ∃ s steps, Alternative s steps ∧ piece = s ++ ['.']) ∧
        ∀ c n, Refused piece (.unexpected c n) → piece[n]? = some c := by
  refine ⟨splitBars text.toList, fun l => cut_iff, fun e => parse_eq_ok, fun x => parse_eq_error,
    fun piece => ⟨refused_empty, refused_trailingDot, fun c n => getElem?_of_refused⟩⟩

end Clientwright.Selector
