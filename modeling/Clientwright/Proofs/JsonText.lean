import Clientwright.Json.Reader
import Clientwright.Json.Writer
import Mathlib.Tactic.Common

/-!
# Reading undoes writing

The text of a JSON value is read back as the value, whatever its strings hold.
This is said for values that can be stored (`Storable`): a number has to be an
integer of 64 bits, since any other is written as a double, and nothing is
garbled.

Reading is a fold over the characters, so a text is a function on the states of
the reader, and one text after another is one function after another (`feed`). A
value that has been read leaves the reader in one of several states, because a
number or a word does not end before something else begins. What they have in
common is what the next separator does in them, and `Settled` is that and no
more; with it the arrays and objects need not know what their items are.
-/

namespace Clientwright

/-- Items that a function gives back are given back by the traversal. -/
theorem mapM_map_eq_some {α β : Type} {f : β → Option α} {g : α → β} {l : List α}
    (h : ∀ a ∈ l, f (g a) = some a) : (l.map g).mapM f = some l := by
  induction l with
  | nil => rfl
  | cons a l ih =>
      rw [List.map_cons, List.mapM_cons, h a List.mem_cons_self,
        ih fun b hb => h b (List.mem_cons_of_mem a hb)]
      rfl

namespace JsonNumber

/-! ## Numbers -/

theorem valueOf_digitsOf (n : Nat) : valueOf (digitsOf n) = n := by
  have hfold : ∀ (l : List Char) (k : Nat),
      (l.map fun c => c.toNat - '0'.toNat).foldl (fun n d => 10 * n + d) k =
        Nat.ofDigitChars 10 l k := by
    intro l
    induction l with
    | nil => exact fun _ => rfl
    | cons c l ih => exact fun k => ih _
  rw [valueOf, digitsOf, hfold, Nat.ofDigitChars_ten_toDigits]

theorem toInt?_ofInt (i : Int) : (ofInt i).toInt? = some i := by
  have hinteger : (ofInt i).isInteger = true := by
    simp only [isInteger, ofInt, List.isEmpty_nil, Option.isNone_none, Bool.true_and,
      valueOf_digitsOf, Bool.not_eq_true', Bool.and_eq_false_iff, decide_eq_false_iff_not,
      beq_eq_false_iff_ne]
    omega
  rw [toInt?, if_pos hinteger, ofInt]
  simp only [valueOf_digitsOf, decide_eq_true_eq]
  split
  next h => rw [Int.ofNat_natAbs_of_nonpos (by omega), Int.neg_neg]
  next h => rw [Int.natAbs_of_nonneg (by omega)]

theorem text?_ofInt {i : Int} (h : fitsInteger i = true) :
    (ofInt i).text? = some (toString i) := by
  rw [text?, toInt?_ofInt]
  exact if_pos h

/-- A number starts with a zero only if it is zero. -/
theorem head?_toDigits {n : Nat} (h : n ≠ 0) : (Nat.toDigits 10 n).head? ≠ some '0' := by
  induction n using Nat.strongRecOn with
  | ind n ih =>
      rcases Nat.lt_or_ge n 10 with hlt | hge
      · have hdigit : ∀ d < 10, d ≠ 0 → d.digitChar ≠ '0' := by decide
        rw [Nat.toDigits_of_lt_base hlt, List.head?_cons]
        exact fun heq => hdigit n hlt h (Option.some.inj heq)
      · have hrest := ih (n / 10) (by omega) (by omega)
        rw [Nat.toDigits_of_base_le (by decide) hge, List.head?_append]
        cases hdigits : Nat.toDigits 10 (n / 10) with
        | nil => exact absurd hdigits Nat.toDigits_ne_nil
        | cons c l =>
            rw [hdigits] at hrest
            exact hrest

end JsonNumber

namespace Json

theorem takeDigits_of_digits {l : List Char} (h : ∀ c ∈ l, c.isDigit = true) :
    takeDigits l = (l.map fun c => c.toNat - '0'.toNat, []) := by
  induction l with
  | nil => rfl
  | cons c l ih =>
      rw [takeDigits, if_pos (h c List.mem_cons_self),
        ih fun d hd => h d (List.mem_cons_of_mem c hd)]
      rfl

theorem isDigit_of_mem_toDigits {n : Nat} : ∀ c ∈ Nat.toDigits 10 n, c.isDigit = true :=
  fun _ hc => Nat.isDigit_of_mem_toDigits (by decide) (by decide) hc

theorem takeWhole?_toDigits (n : Nat) :
    takeWhole? (Nat.toDigits 10 n) = some (JsonNumber.digitsOf n, []) := by
  rcases Nat.eq_zero_or_pos n with rfl | hpos
  · rfl
  · rw [takeWhole?, takeDigits_of_digits isDigit_of_mem_toDigits, JsonNumber.digitsOf]
    have hhead := JsonNumber.head?_toDigits (Nat.ne_of_gt hpos)
    cases hdigits : Nat.toDigits 10 n with
    | nil => exact absurd hdigits Nat.toDigits_ne_nil
    | cons c l =>
        rw [hdigits, List.head?_cons] at hhead
        have hc : c.isDigit = true :=
          isDigit_of_mem_toDigits c (by rw [hdigits]; exact List.mem_cons_self)
        have hzero : c.toNat - '0'.toNat ≠ 0 := by
          have hlow : '0'.toNat ≤ c.toNat := (Char.isDigit_iff_toNat.mp hc).1
          have hne : c.toNat ≠ '0'.toNat :=
            fun heq => hhead (congrArg some (Char.toNat_inj.mp heq))
          omega
        rw [List.map_cons]
        generalize c.toNat - '0'.toNat = d at hzero
        cases d with
        | zero => exact absurd rfl hzero
        | succ d => rfl

theorem toList_toString_ofNat (n : Nat) : (toString (Int.ofNat n)).toList = Nat.toDigits 10 n :=
  Nat.toList_repr

theorem toList_toString_negSucc (n : Nat) :
    (toString (Int.negSucc n)).toList = '-' :: Nat.toDigits 10 (n + 1) := by
  show ("-" ++ Nat.repr (n + 1)).toList = _
  rw [String.toList_append, Nat.toList_repr]
  rfl

/-- The text of an integer is read as the integer. -/
theorem numberOf?_toString (i : Int) :
    numberOf? (toString i).toList = some (JsonNumber.ofInt i) := by
  cases i with
  | ofNat n =>
      have hsign : ¬ Int.ofNat n < 0 := Int.not_lt.mpr (Int.natCast_nonneg n)
      have hminus : ∀ s, Nat.toDigits 10 n = '-' :: s → False := by
        intro s h
        have hdigit := isDigit_of_mem_toDigits (n := n) '-' (by rw [h]; exact List.mem_cons_self)
        cases hdigit
      rw [toList_toString_ofNat, JsonNumber.ofInt, decide_eq_false hsign, Int.natAbs_ofNat',
        numberOf?, takeWhole?_toDigits]
      · rfl
      · exact hminus
  | negSucc n =>
      rw [toList_toString_negSucc, JsonNumber.ofInt, decide_eq_true (Int.negSucc_lt_zero n),
        Int.natAbs_negSucc, numberOf?, takeWhole?_toDigits]
      rfl

/-! ## Texts as functions on the reader -/

/-- The reader after a text. -/
def feed (r : Reading) (s : List Char) : Option Reading := s.foldlM Reading.step r

theorem feed_cons (r : Reading) (c : Char) (s : List Char) :
    feed r (c :: s) = (r.step c).bind fun r => feed r s :=
  List.foldlM_cons

theorem feed_append (r : Reading) (s t : List Char) :
    feed r (s ++ t) = (feed r s).bind fun r => feed r t :=
  List.foldlM_append

/-- The characters that may stand behind a value in a larger text. -/
def separators : List Char := [',', ':', ']', '\x7d']

/-- Has the reader got to `b`, even if only a separator or the end will show it? -/
structure Settled (r : Reading) (b : Build) : Prop where
  flush : r.flush = some b
  step : ∀ c ∈ separators, r.step c = Reading.begin b c

theorem settled_between (b : Build) : Settled ⟨.between, b⟩ b :=
  ⟨rfl, fun _ _ => rfl⟩

/-- A number or a word that a separator ends. -/
theorem settled_of_flush {scan : Scan} {b b' : Build}
    (hflush : Reading.flush ⟨scan, b⟩ = some b')
    (hstep : ∀ c ∈ separators, Reading.step ⟨scan, b⟩ c =
      (Reading.flush ⟨scan, b⟩).bind fun b => Reading.begin b c) :
    Settled ⟨scan, b⟩ b' :=
  ⟨hflush, fun c hc => by rw [hstep c hc, hflush, Option.bind_some]⟩

theorem settled_number {text : List Char} {n : JsonNumber} {b b' : Build}
    (hn : numberOf? text.reverse = some n) (hb : b.accept (.scalar (.number n)) = some b') :
    Settled ⟨.number text, b⟩ b' := by
  refine settled_of_flush ?_ fun c hc => ?_
  · rw [Reading.flush]
    simp only [hn, Option.bind_eq_bind, Option.bind_some, hb]
  · have hchar : ∀ c ∈ separators, ¬ isNumberChar c = true := by
      simp [separators, isNumberChar]
    exact if_neg (hchar c hc)

theorem settled_word {text : List Char} {v : Json} {b b' : Build}
    (hv : wordOf? text.reverse = some v) (hb : b.accept (.scalar v) = some b') :
    Settled ⟨.word text, b⟩ b' := by
  refine settled_of_flush ?_ fun c hc => ?_
  · rw [Reading.flush]
    simp only [hv, Option.bind_eq_bind, Option.bind_some, hb]
  · have hchar : ∀ c ∈ separators, ¬ c.isAlpha = true := by simp [separators]
    exact if_neg (hchar c hc)

/-- Does the text take the reader, when it is between two tokens, from `b` to `b'`? -/
def Reads (b : Build) (s : List Char) (b' : Build) : Prop :=
  ∃ r, feed ⟨.between, b⟩ s = some r ∧ Settled r b'

namespace Reads

variable {b b₁ b₂ b₃ : Build} {c : Char} {s t : List Char}

theorem nil (b : Build) : Reads b [] b :=
  ⟨_, rfl, settled_between b⟩

/-- A token of one character, and a text behind it. -/
theorem cons (hc : Reading.begin b c = some ⟨.between, b₁⟩) (h : Reads b₁ s b₂) :
    Reads b (c :: s) b₂ := by
  obtain ⟨r, hfeed, hr⟩ := h
  refine ⟨r, ?_, hr⟩
  rw [feed_cons, show Reading.step ⟨.between, b⟩ c = some ⟨.between, b₁⟩ from hc]
  exact hfeed

/-- A text, a separator and another text. -/
theorem append (hs : Reads b s b₁) (hc : c ∈ separators)
    (hb : Reading.begin b₁ c = some ⟨.between, b₂⟩) (ht : Reads b₂ t b₃) :
    Reads b (s ++ c :: t) b₃ := by
  obtain ⟨r, hfeed, hr⟩ := hs
  obtain ⟨r', hfeed', hr'⟩ := ht
  refine ⟨r', ?_, hr'⟩
  rw [feed_append, hfeed, Option.bind_some, feed_cons, hr.step c hc, hb]
  exact hfeed'

end Reads

/-! ## Scalars -/

theorem hexValue?_hexDigit {n : Nat} (h : n < 16) : hexValue? (hexDigit n) = some n :=
  (show ∀ n < 16, hexValue? (hexDigit n) = some n by decide) n h

/-- A control character without a letter of its own is read from its four digits. -/
theorem feed_escapeControl (b : Build) (parts : List Unit16) {c : Char} (h : c.toNat < 0x20) :
    feed ⟨.string parts .plain, b⟩
        ['\\', 'u', '0', '0', hexDigit (c.toNat / 16), hexDigit (c.toNat % 16)] =
      some ⟨.string (.char c :: parts) .plain, b⟩ := by
  have hopen : feed ⟨.string parts .plain, b⟩ ['\\', 'u', '0', '0'] =
      some ⟨.string parts (.hex 2 0), b⟩ := rfl
  have hfirst : Reading.step ⟨.string parts (.hex 2 0), b⟩ (hexDigit (c.toNat / 16)) =
      some ⟨.string parts (.hex 3 (c.toNat / 16)), b⟩ := by
    rw [Reading.step]
    simp [Reading.inString, hexValue?_hexDigit (show c.toNat / 16 < 16 by omega)]
  have hsum : 16 * (c.toNat / 16) + c.toNat % 16 = c.toNat := Nat.div_add_mod _ _
  have hsecond : Reading.step ⟨.string parts (.hex 3 (c.toNat / 16)), b⟩
      (hexDigit (c.toNat % 16)) = some ⟨.string (.char c :: parts) .plain, b⟩ := by
    rw [Reading.step]
    simp [Reading.inString, hexValue?_hexDigit (show c.toNat % 16 < 16 by omega), hsum,
      show ¬ 0xD800 ≤ c.toNat by omega, Char.ofNat_toNat]
  have happend := feed_append ⟨.string parts .plain, b⟩ ['\\', 'u', '0', '0']
    [hexDigit (c.toNat / 16), hexDigit (c.toNat % 16)]
  rw [hopen, Option.bind_some, feed_cons, hfirst, Option.bind_some, feed_cons, hsecond] at happend
  exact happend

/-- A character that is escaped, or needs no escape, is read as itself. -/
theorem feed_escapeChar (b : Build) (parts : List Unit16) (c : Char) :
    feed ⟨.string parts .plain, b⟩ (escapeChar c) =
      some ⟨.string (.char c :: parts) .plain, b⟩ := by
  unfold escapeChar
  split
  case h_8 hquote hbackslash _ _ _ _ _ =>
    split
    next hcontrol => exact feed_escapeControl b parts hcontrol
    next hprintable =>
      rw [feed_cons, Reading.step]
      simp only [Reading.inString, if_neg hquote, if_neg hbackslash, if_neg hprintable]
      rfl
  all_goals rfl

/-- The characters of a text denote the text. -/
theorem textOf_char (s : List Char) : textOf (s.map .char) = some s := by
  induction s with
  | nil => rfl
  | cons c s ih => rw [List.map_cons, textOf, ih, Option.map_some]

theorem feed_escapeChars (b : Build) (parts : List Unit16) (s : List Char) :
    feed ⟨.string parts .plain, b⟩ (s.flatMap escapeChar) =
      some ⟨.string ((s.map .char).reverse ++ parts) .plain, b⟩ := by
  induction s generalizing parts with
  | nil => rfl
  | cons c s ih =>
      rw [List.flatMap_cons, feed_append, feed_escapeChar, Option.bind_some, ih, List.map_cons,
        List.reverse_cons, List.append_assoc]
      rfl

/-- A quoted text is taken in as the text. -/
theorem reads_quoted {b b' : Build} {s : String} (h : b.accept (.scalar (.string s)) = some b') :
    Reads b (quoted s) b' := by
  refine ⟨⟨.between, b'⟩, ?_, settled_between b'⟩
  have hopen : Reading.step ⟨.between, b⟩ '"' = some ⟨.string [] .plain, b⟩ := rfl
  have hclose : Reading.step ⟨.string (s.toList.map .char).reverse .plain, b⟩ '"' =
      Reading.take b (.scalar (.string s)) := by
    rw [Reading.step]
    simp only [Reading.inString, if_true, List.reverse_reverse, textOf_char, String.ofList_toList]
  rw [quoted, List.cons_append, feed_cons, hopen, Option.bind_some, feed_append, feed_escapeChars,
    List.append_nil, Option.bind_some, feed_cons, hclose, Reading.take, h]
  rfl

theorem begin_of_isDigit (b : Build) {c : Char} (h : c.isDigit = true) :
    Reading.begin b c = some ⟨.number [c], b⟩ := by
  have hne : ∀ d : Char, d.isDigit = false → c ≠ d := by
    rintro d hd rfl
    rw [h] at hd
    cases hd
  simp only [Reading.begin, hne ' ' rfl, hne '\t' rfl, hne '\n' rfl, hne '\r' rfl, hne '"' rfl,
    hne '[' rfl, hne ']' rfl, hne '\x7b' rfl, hne '\x7d' rfl, hne ',' rfl, hne ':' rfl, h, or_false,
    or_true, if_false, if_true]

theorem feed_digits (b : Build) (text : List Char) {s : List Char}
    (h : ∀ c ∈ s, c.isDigit = true) :
    feed ⟨.number text, b⟩ s = some ⟨.number (s.reverse ++ text), b⟩ := by
  induction s generalizing text with
  | nil => rfl
  | cons c s ih =>
      have hc : isNumberChar c = true := by
        rw [isNumberChar, h c List.mem_cons_self]
        rfl
      have hstep : Reading.step ⟨.number text, b⟩ c = some ⟨.number (c :: text), b⟩ := by
        rw [Reading.step]
        exact if_pos hc
      rw [feed_cons, hstep, Option.bind_some, ih _ fun d hd => h d (List.mem_cons_of_mem c hd),
        List.reverse_cons, List.append_assoc]
      rfl

/-- The text of an integer is scanned to its end. -/
theorem feed_toString (b : Build) (i : Int) :
    feed ⟨.between, b⟩ (toString i).toList =
      some ⟨.number (toString i).toList.reverse, b⟩ := by
  cases i with
  | ofNat n =>
      rw [toList_toString_ofNat]
      cases hdigits : Nat.toDigits 10 n with
      | nil => exact absurd hdigits Nat.toDigits_ne_nil
      | cons c s =>
          have hall : ∀ d ∈ c :: s, d.isDigit = true := hdigits ▸ isDigit_of_mem_toDigits
          have hbegin := begin_of_isDigit b (hall c List.mem_cons_self)
          rw [feed_cons, show Reading.step ⟨.between, b⟩ c = _ from hbegin, Option.bind_some,
            feed_digits b [c] fun d hd => hall d (List.mem_cons_of_mem c hd), List.reverse_cons]
  | negSucc n =>
      have hbegin : Reading.step ⟨.between, b⟩ '-' = some ⟨.number ['-'], b⟩ := rfl
      rw [toList_toString_negSucc, feed_cons, hbegin, Option.bind_some,
        feed_digits b ['-'] isDigit_of_mem_toDigits, List.reverse_cons]

theorem reads_integer {b b' : Build} {i : Int} (hi : JsonNumber.fitsInteger i = true)
    (h : b.accept (.scalar (.number (.ofInt i))) = some b') :
    Reads b (numberText (.ofInt i)) b' := by
  rw [numberText, JsonNumber.text?_ofInt hi, Option.getD_some]
  refine ⟨_, feed_toString b i, settled_number ?_ h⟩
  rw [List.reverse_reverse, numberOf?_toString]

/-! ## Values -/

/-- A value that its text gives back, nested no deeper than `depth`: its numbers are integers of 64
bits. -/
inductive Storable : Nat → Json → Prop where
  | null {depth : Nat} : Storable depth .null
  | bool {depth : Nat} (b : Bool) : Storable depth (.bool b)
  | integer {depth : Nat} (i : Int) (h : JsonNumber.fitsInteger i = true) :
      Storable depth (.number (.ofInt i))
  | string {depth : Nat} (s : String) : Storable depth (.string s)
  | array {depth : Nat} {items : List Json} (h : ∀ v ∈ items, Storable depth v) :
      Storable (depth + 1) (.array items)
  | object {depth : Nat} {members : List (String × Json)}
      (h : ∀ m ∈ members, Storable depth m.2) : Storable (depth + 1) (.object members)

/-- May a value come next? -/
def Expect.isValue : Expect → Bool
  | .value | .valueOrClose => true
  | _ => false

/-- May a name come next? -/
def Expect.isName : Expect → Bool
  | .name | .nameOrClose => true
  | _ => false

/-- Is the text of the value taken in as the value, wherever it stands? -/
def ReadsBack (v : Json) : Prop :=
  ∀ (frames : List Frame) (e : Expect), e.isValue = true →
    Reads ⟨frames, e⟩ (chars v) (.deliver frames v)

theorem accept_scalar (frames : List Frame) {e : Expect} (h : e.isValue = true) (v : Json) :
    Build.accept ⟨frames, e⟩ (.scalar v) = some (.deliver frames v) := by
  cases e with
  | value | valueOrClose => rfl
  | _ => cases h

theorem accept_name (members : List (Option String × Json)) (old : Option String)
    (frames : List Frame) {e : Expect} (h : e.isName = true) (name : String) :
    Build.accept ⟨.object members old :: frames, e⟩ (.scalar (.string name)) =
      some ⟨.object members (some name) :: frames, .colon⟩ := by
  cases e with
  | name | nameOrClose => rfl
  | _ => cases h

theorem begin_openArray (frames : List Frame) {e : Expect} (h : e.isValue = true) :
    Reading.begin ⟨frames, e⟩ '[' = some ⟨.between, .array [] :: frames, .valueOrClose⟩ := by
  cases e with
  | value | valueOrClose => rfl
  | _ => cases h

theorem begin_openObject (frames : List Frame) {e : Expect} (h : e.isValue = true) :
    Reading.begin ⟨frames, e⟩ '\x7b' =
      some ⟨.between, .object [] none :: frames, .nameOrClose⟩ := by
  cases e with
  | value | valueOrClose => rfl
  | _ => cases h

/-- The items of an array that are still to come, behind those that are done. -/
theorem reads_items (frames : List Frame) {items : List Json} (hne : items ≠ [])
    (h : ∀ v ∈ items, ReadsBack v) (done : List Json) {e : Expect} (he : e.isValue = true) :
    Reads ⟨.array done :: frames, e⟩ (charsOfItems items ++ [']'])
      (.deliver frames (.array (done.reverse ++ items))) := by
  induction items generalizing done e with
  | nil => exact absurd rfl hne
  | cons v rest ih =>
      have hv := h v List.mem_cons_self (.array done :: frames) e he
      cases rest with
      | nil =>
          have hclose : Reading.begin (.deliver (.array done :: frames) v) ']' =
              some ⟨.between, .deliver frames (.array (v :: done).reverse)⟩ := rfl
          rw [← List.reverse_cons]
          exact hv.append (by decide) hclose (.nil _)
      | cons w rest =>
          have hcomma : Reading.begin (.deliver (.array done :: frames) v) ',' =
              some ⟨.between, .array (v :: done) :: frames, .value⟩ := rfl
          have hrest := ih (List.cons_ne_nil w rest)
            (fun u hu => h u (List.mem_cons_of_mem v hu)) (v :: done) (e := .value) rfl
          rw [List.reverse_cons, List.append_assoc] at hrest
          have htext : charsOfItems (v :: w :: rest) ++ [']'] =
              chars v ++ ',' :: (charsOfItems (w :: rest) ++ [']']) := by
            rw [charsOfItems, List.append_assoc, List.cons_append]
            exact List.cons_ne_nil w rest
          rw [htext]
          exact hv.append (by decide) hcomma hrest

/-- Members under names that denote something. -/
def named (members : List (String × Json)) : List (Option String × Json) :=
  members.map fun m => (some m.1, m.2)

theorem objectOf_named (members : List (String × Json)) :
    objectOf (named members) = .object members := by
  rw [objectOf, named, mapM_map_eq_some]
  exact fun _ _ => rfl

theorem reverse_named_append (done : List (String × Json)) (name : String) (v : Json) :
    (named (done ++ [(name, v)])).reverse = (some name, v) :: (named done).reverse := by
  rw [named, List.map_append, List.reverse_append]
  rfl

/-- A member takes the reader from a name to the end of a value. -/
theorem reads_member (frames : List Frame) (members : List (Option String × Json))
    (old : Option String) {e : Expect} (he : e.isName = true) (name : String) {v : Json}
    (hv : ReadsBack v) :
    Reads ⟨.object members old :: frames, e⟩ (quoted name ++ ':' :: chars v)
      (.deliver (.object members (some name) :: frames) v) :=
  (reads_quoted (accept_name members old frames he name)).append (by decide) rfl
    (hv (.object members (some name) :: frames) .value rfl)

/-- The members of an object that are still to come, behind those that are done. -/
theorem reads_members (frames : List Frame) {members : List (String × Json)} (hne : members ≠ [])
    (h : ∀ m ∈ members, ReadsBack m.2) (done : List (String × Json)) {e : Expect}
    (he : e.isName = true) :
    Reads ⟨.object (named done).reverse none :: frames, e⟩ (charsOfMembers members ++ ['\x7d'])
      (.deliver frames (.object (done ++ members))) := by
  induction members generalizing done e with
  | nil => exact absurd rfl hne
  | cons m rest ih =>
      obtain ⟨name, v⟩ := m
      have hmember := reads_member frames (named done).reverse none he name
        (h (name, v) List.mem_cons_self)
      cases rest with
      | nil =>
          have hclose : Reading.begin
              (.deliver (.object (named done).reverse (some name) :: frames) v) '\x7d' =
                some ⟨.between, .deliver frames (.object (done ++ [(name, v)]))⟩ := by
            show some (Reading.mk .between (Build.deliver frames
              (objectOf ((some name, v) :: (named done).reverse).reverse))) = _
            rw [← reverse_named_append, List.reverse_reverse, objectOf_named]
          exact hmember.append (by decide) hclose (.nil _)
      | cons w rest =>
          have hcomma : Reading.begin
              (.deliver (.object (named done).reverse (some name) :: frames) v) ',' =
                some ⟨.between, .object (named (done ++ [(name, v)])).reverse none :: frames,
                  .name⟩ := by
            rw [reverse_named_append]
            rfl
          have hrest := ih (List.cons_ne_nil w rest)
            (fun u hu => h u (List.mem_cons_of_mem _ hu)) (done ++ [(name, v)]) (e := .name) rfl
          rw [List.append_assoc] at hrest
          have htext : charsOfMembers ((name, v) :: w :: rest) ++ ['\x7d'] =
              (quoted name ++ ':' :: chars v) ++
                ',' :: (charsOfMembers (w :: rest) ++ ['\x7d']) := by
            rw [charsOfMembers, List.append_assoc, List.cons_append]
            exact List.cons_ne_nil w rest
          rw [htext]
          exact hmember.append (by decide) hcomma hrest

/-- The text of a storable value is taken in as the value. -/
theorem Storable.readsBack {depth : Nat} {v : Json} (h : Storable depth v) : ReadsBack v := by
  induction h with
  | null =>
      exact fun frames e he => ⟨_, rfl, settled_word rfl (accept_scalar frames he .null)⟩
  | bool b =>
      intro frames e he
      have haccept := accept_scalar frames he (.bool b)
      cases b with
      | true => exact ⟨_, rfl, settled_word rfl haccept⟩
      | false => exact ⟨_, rfl, settled_word rfl haccept⟩
  | integer i hi => exact fun frames e he => reads_integer hi (accept_scalar frames he _)
  | string s => exact fun frames e he => reads_quoted (accept_scalar frames he _)
  | @array _ items _ ih =>
      intro frames e he
      refine .cons (begin_openArray frames he) ?_
      cases items with
      | nil =>
          have hclose : Reading.begin ⟨.array [] :: frames, .valueOrClose⟩ ']' =
              some ⟨.between, .deliver frames (.array [])⟩ := rfl
          exact .cons hclose (.nil _)
      | cons v rest => exact reads_items frames (List.cons_ne_nil v rest) ih [] rfl
  | @object _ members _ ih =>
      intro frames e he
      refine .cons (begin_openObject frames he) ?_
      cases members with
      | nil =>
          have hclose : Reading.begin ⟨.object [] none :: frames, .nameOrClose⟩ '\x7d' =
              some ⟨.between, .deliver frames (.object [])⟩ := rfl
          exact .cons hclose (.nil _)
      | cons m rest => exact reads_members frames (List.cons_ne_nil m rest) ih [] rfl

theorem areSoundItems_iff {items : List Json} :
    areSoundItems items = true ↔ ∀ v ∈ items, v.isSound = true := by
  induction items with
  | nil => simp [areSoundItems]
  | cons v rest ih => simp [areSoundItems, ih]

theorem areSoundMembers_iff {members : List (String × Json)} :
    areSoundMembers members = true ↔ ∀ m ∈ members, m.2.isSound = true := by
  induction members with
  | nil => simp [areSoundMembers]
  | cons m rest ih => simp [areSoundMembers, ih]

theorem Storable.isSound {depth : Nat} {v : Json} (h : Storable depth v) : v.isSound = true := by
  induction h with
  | null | bool | string => rfl
  | integer i hi => rw [Json.isSound, JsonNumber.text?_ofInt hi, Option.isSome_some]
  | array _ ih => rw [Json.isSound, areSoundItems_iff]; exact ih
  | object _ ih => rw [Json.isSound, areSoundMembers_iff]; exact ih

theorem depthOfItems_le {items : List Json} {n : Nat} (h : ∀ v ∈ items, v.depth ≤ n) :
    depthOfItems items ≤ n := by
  induction items with
  | nil => exact Nat.zero_le n
  | cons v rest ih =>
      rw [depthOfItems]
      exact Nat.max_le.mpr
        ⟨h v List.mem_cons_self, ih fun w hw => h w (List.mem_cons_of_mem v hw)⟩

theorem depthOfMembers_le {members : List (String × Json)} {n : Nat}
    (h : ∀ m ∈ members, m.2.depth ≤ n) : depthOfMembers members ≤ n := by
  induction members with
  | nil => exact Nat.zero_le n
  | cons m rest ih =>
      rw [depthOfMembers]
      exact Nat.max_le.mpr
        ⟨h m List.mem_cons_self, ih fun w hw => h w (List.mem_cons_of_mem m hw)⟩

theorem Storable.depth_le {depth : Nat} {v : Json} (h : Storable depth v) : v.depth ≤ depth := by
  induction h with
  | null | bool | integer | string => exact Nat.zero_le _
  | array _ ih => exact Nat.succ_le_succ (depthOfItems_le ih)
  | object _ ih => exact Nat.succ_le_succ (depthOfMembers_le ih)

/-- Reading the text of a storable value gives the value. -/
theorem ofText?_text {depth : Nat} {v : Json} (h : Storable depth v) : ofText? v.text = some v := by
  obtain ⟨r, hfeed, hr⟩ := h.readsBack [] .value rfl
  rw [ofText?, text, String.toList_ofList, read?]
  rw [feed] at hfeed
  simp only [Reading.start, hfeed, hr.flush, Option.bind_eq_bind, Option.bind_some]
  rfl

end Json

end Clientwright
