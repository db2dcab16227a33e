import Clientwright.Proofs.CommentLines
import Clientwright.Proofs.Flows

/-!
# Building code line by line

A line builder knows nothing of blocks. It writes one line after the other at an indentation
that it keeps, and a line that opens or closes a block moves what comes after it or the line
itself. Closing stops at no indentation at all, so a block that is closed once too often would
not be seen there.

Which lines open and which close is read off their texts: a line that ends with an opening
bracket opens a block, and a line of nothing but closing brackets closes one. Code is printed
from a tree, and what is to be seen is that its texts, read in this way, say the same as the
tree: that a builder writes the same lines, comes back to where it was, and has the brackets in
order on the way (`Code.Balanced`).

The brackets that are still to be closed make a stack, and where the texts are in order the
builder is indented by its height. So the order of the brackets is all that needs an induction
over the code, along with the lines themselves, and the rules at the end bring that down to
what single lines begin and end with (`Code.Framed`).
-/

namespace Clientwright

open Comment

/-! ## Lines -/

/-- What a line does to blocks; a bracket is known by the one that closes it. -/
inductive Effect where
  | line
  | opens (closer : Char)
  | closes (closer : Char)
  deriving DecidableEq, Repr

namespace Effect

/-- Does it open a block? -/
def isOpening : Effect → Bool
  | opens _ => true
  | line | closes _ => false

/-- Does it close one? -/
def isClosing : Effect → Bool
  | closes _ => true
  | line | opens _ => false

/-- The brackets that are to be closed afterwards, the innermost first, unless the wrong one is
closed. -/
def nest : Effect → List Char → Option (List Char)
  | line, pending => some pending
  | opens closer, pending => some (closer :: pending)
  | closes closer, innermost :: pending => if closer = innermost then some pending else none
  | closes _, [] => none

/-- What a line can do to the brackets that are to be closed. -/
theorem nest_cases {effect : Effect} {pending pending' : List Char}
    (h : effect.nest pending = some pending') : (effect = line ∧ pending' = pending) ∨
      (∃ closer, effect = opens closer ∧ pending' = closer :: pending) ∨
      ∃ closer, effect = closes closer ∧ pending = closer :: pending' := by
  cases effect with
  | line => exact .inl ⟨rfl, (Option.some.inj h).symm⟩
  | opens closer => exact .inr (.inl ⟨closer, rfl, (Option.some.inj h).symm⟩)
  | closes closer =>
      cases pending with
      | nil => cases h
      | cons innermost pending =>
          rw [nest, Option.ite_none_right_eq_some] at h
          obtain ⟨rfl, h⟩ := h
          exact .inr (.inr ⟨closer, rfl, congrArg _ (Option.some.inj h)⟩)

end Effect

/-- What closes a bracket that opens a block. -/
def closerOf? : Char → Option Char
  | '\x7b' => some '\x7d'
  | '[' => some ']'
  | '(' => some ')'
  | _ => none

/-- May the character stand in a line that closes a block? -/
def isClosingMark (c : Char) : Bool := c ∈ ['\x7d', ']', ')', ';']

/-- Is the line a comment? -/
def isComment (s : String) : Bool := ['/', '/'].isPrefixOf s.toList

/-- What a line does, by its text. Comments say what they like. -/
def effectOf (s : String) : Effect :=
  if isComment s then .line
  else
    match s.toList.head?.filter fun _ => s.toList.all isClosingMark with
    | some closer => .closes closer
    | none =>
      match s.toList.getLast?.bind closerOf? with
      | some closer => .opens closer
      | none => .line

/-- The brackets that are to be closed after some lines, unless a wrong one was closed. -/
def nesting (texts : List String) (pending : List Char) : Option (List Char) :=
  texts.foldlM (fun pending text => (effectOf text).nest pending) pending

section

variable {texts before after : List String} {text : String} {pending pending' : List Char}

theorem nesting_cons : nesting (text :: texts) pending =
    ((effectOf text).nest pending).bind (nesting texts) := rfl

theorem nesting_append : nesting (before ++ after) pending =
    (nesting before pending).bind (nesting after) := List.foldlM_append

/-- What is opened is closed, or is still to be closed. -/
theorem countP_of_nesting (h : nesting texts pending = some pending') :
    texts.countP (fun text => (effectOf text).isOpening) + pending.length =
      texts.countP (fun text => (effectOf text).isClosing) + pending'.length := by
  induction texts generalizing pending with
  | nil =>
      obtain rfl := Option.some.inj h
      rfl
  | cons text texts ih =>
      rw [nesting_cons] at h
      obtain ⟨between, htext, htexts⟩ := Option.bind_eq_some_iff.mp h
      have hrest := ih htexts
      rw [List.countP_cons, List.countP_cons]
      obtain ⟨heffect, rfl⟩ | ⟨closer, heffect, rfl⟩ | ⟨closer, heffect, rfl⟩ :=
        Effect.nest_cases htext
      · simpa [heffect, Effect.isOpening, Effect.isClosing] using hrest
      all_goals
        simp [heffect, Effect.isOpening, Effect.isClosing] at hrest ⊢
        omega

/-- Where a bracket is closed, one is to be closed. -/
theorem pending_ne_nil {closer : Char} (heffect : effectOf text = .closes closer)
    (h : nesting (text :: texts) pending = some pending') : pending ≠ [] := by
  rintro rfl
  rw [nesting_cons, heffect] at h
  cases h

end

/-! ## Builders -/

/-- A line builder: the lines so far, and the indentation of the next one. -/
structure Builder where
  lines : List String
  indent : Nat
  deriving DecidableEq, Repr

namespace Builder

/-- Writes a line. -/
def line (b : Builder) (text : String) : Builder :=
  { b with lines := b.lines ++ [Code.indented b.indent text] }

/-- Writes a line and indents what comes after it. -/
def opens (b : Builder) (text : String) : Builder :=
  { b.line text with indent := b.indent + 1 }

/-- Takes indentation back, if there is any, and writes a line. -/
def closes (b : Builder) (text : String) : Builder :=
  { b with indent := b.indent - 1 }.line text

/-- Writes a line as its text tells. -/
def add (b : Builder) (text : String) : Builder :=
  match effectOf text with
  | .line => b.line text
  | .opens _ => b.opens text
  | .closes _ => b.closes text

/-- Writes lines one after the other. -/
def addAll (b : Builder) (texts : List String) : Builder := texts.foldl add b

variable {b : Builder} {text : String} {texts : List String} {pending pending' : List Char}
  {base : Nat}

theorem addAll_append {texts' : List String} :
    b.addAll (texts ++ texts') = (b.addAll texts).addAll texts' := List.foldl_append

/-- A line keeps the indentation at the height of what is to be closed. -/
theorem indent_add (h : (effectOf text).nest pending = some pending')
    (hindent : b.indent = base + pending.length) :
    (b.add text).indent = base + pending'.length := by
  obtain ⟨heffect, rfl⟩ | ⟨closer, heffect, rfl⟩ | ⟨closer, heffect, rfl⟩ := Effect.nest_cases h
  · rw [add, heffect]
    exact hindent
  · rw [add, heffect, List.length_cons, ← Nat.add_assoc, ← hindent]
    rfl
  · rw [add, heffect]
    show b.indent - 1 = base + pending'.length
    rw [hindent, List.length_cons]
    omega

/-- And so do any number of them. -/
theorem indent_addAll (h : nesting texts pending = some pending')
    (hindent : b.indent = base + pending.length) :
    (b.addAll texts).indent = base + pending'.length := by
  induction texts generalizing b pending with
  | nil =>
      obtain rfl := Option.some.inj h
      exact hindent
  | cons text texts ih =>
      rw [nesting_cons] at h
      obtain ⟨between, htext, htexts⟩ := Option.bind_eq_some_iff.mp h
      exact ih htexts (indent_add htext hindent)

end Builder

/-! ## Code -/

namespace Code

/-- The texts of the lines of code, without their indentation. -/
def entries : Code → List String
  | empty => []
  | seq a b => a.entries ++ b.entries
  | line e => [e.text]
  | bind name value => ["let " ++ name ++ " = " ++ value.text ++ ";"]
  | block head _ body close => head.text :: (body.entries ++ [close])
  | branch condition first second =>
    ("if " ++ condition.text ++ " \x7b") :: (first.entries ++
      "\x7d else \x7b" :: (second.entries ++ ["\x7d"]))

/-- A builder that is given the texts of the code writes the code, and blocks are opened and
closed in order. -/
structure Balanced (c : Code) : Prop where
  /-- The lines are those of the code, and the indentation is what it was. -/
  written : ∀ b : Builder, b.addAll c.entries = ⟨b.lines ++ c.lines b.indent, b.indent⟩
  /-- Where a block is closed, the indentation is deeper than it was at first. -/
  above : ∀ (b : Builder) (before after : List String) (text : String) (closer : Char),
    c.entries = before ++ text :: after → effectOf text = .closes closer →
      b.indent < (b.addAll before).indent
  /-- As many lines close blocks as open them. -/
  paired : c.entries.countP (fun text => (effectOf text).isOpening) =
    c.entries.countP (fun text => (effectOf text).isClosing)
  /-- Each of them closes the block that was opened last. -/
  nested : ∀ pending, nesting c.entries pending = some pending

/-- The lines of code are no more than lines, and its blocks begin and end with a pair of
brackets. One line between two blocks is both an end and a beginning, and is none here. -/
def Framed : Code → Prop
  | empty => True
  | seq a b => a.Framed ∧ b.Framed
  | line e => effectOf e.text = .line
  | bind name value => effectOf ("let " ++ name ++ " = " ++ value.text ++ ";") = .line
  | block head _ body close =>
    (∃ closer, effectOf head.text = .opens closer ∧ effectOf close = .closes closer) ∧ body.Framed
  | branch _ _ _ => False

variable {a b c body : Code} {e head : Expr} {s : String} {pending : List Char}

theorem nesting_entries (h : c.Framed) : nesting c.entries pending = some pending := by
  induction c generalizing pending with
  | empty => rfl
  | seq a b iha ihb =>
      rw [entries, nesting_append, iha h.1]
      exact ihb h.2
  | line e =>
      rw [Framed] at h
      simp [entries, nesting, h, Effect.nest]
  | bind name value =>
      rw [Framed] at h
      simp [entries, nesting, h, Effect.nest]
  | block head binds body close ih =>
      obtain ⟨⟨closer, hhead, hclose⟩, hbody⟩ := h
      have hrest : nesting (body.entries ++ [close]) (closer :: pending) = some pending := by
        rw [nesting_append, ih hbody]
        simp [nesting, hclose, Effect.nest]
      rw [entries, nesting, List.foldlM_cons, hhead]
      exact hrest
  | branch condition first second => cases h

theorem addAll_entries (h : c.Framed) (b : Builder) :
    b.addAll c.entries = ⟨b.lines ++ c.lines b.indent, b.indent⟩ := by
  induction c generalizing b with
  | empty =>
      rw [lines, List.append_nil]
      rfl
  | seq a' b' iha ihb =>
      rw [entries, Builder.addAll_append, iha h.1, ihb h.2, lines, List.append_assoc]
  | line e =>
      rw [Framed] at h
      simp [entries, Builder.addAll, Builder.add, h, Builder.line, lines]
  | bind name value =>
      rw [Framed] at h
      simp [entries, Builder.addAll, Builder.add, h, Builder.line, lines]
  | block head binds body close ih =>
      obtain ⟨⟨closer, hhead, hclose⟩, hbody⟩ := h
      have hopened : b.add head.text = b.opens head.text := by rw [Builder.add, hhead]
      have hclosed : ∀ b' : Builder, b'.addAll [close] = b'.closes close := by
        intro b'
        show b'.add close = b'.closes close
        rw [Builder.add, hclose]
      have hrest : b.addAll (head.text :: (body.entries ++ [close])) =
          ((b.opens head.text).addAll body.entries).closes close := by
        rw [← hclosed, ← Builder.addAll_append, ← hopened]
        rfl
      rw [entries, hrest, ih hbody]
      simp [Builder.opens, Builder.closes, Builder.line, lines]
  | branch condition first second => cases h

/-- What is framed is balanced. Only the lines and the brackets follow the code; the rest comes
from the brackets. -/
theorem Framed.balanced (h : c.Framed) : c.Balanced where
  written := addAll_entries h
  above := by
    intro b before after text closer heq heffect
    have hnesting : nesting (before ++ text :: after) [] = some [] := heq ▸ nesting_entries h
    rw [nesting_append] at hnesting
    obtain ⟨between, hbefore, hafter⟩ := Option.bind_eq_some_iff.mp hnesting
    -- The indentation is as deep as the brackets before this line are nested, and one of them is
    -- closed here.
    have hindent : (b.addAll before).indent = b.indent + between.length :=
      Builder.indent_addAll hbefore rfl
    have hpending := List.length_pos_iff.mpr (pending_ne_nil heffect hafter)
    omega
  paired := by
    have hnesting : nesting c.entries [] = some [] := nesting_entries h
    exact countP_of_nesting hnesting
  nested := fun _ => nesting_entries h

end Code

/-! ## Texts of lines -/

/-- Is there something in the text that stands in no closing line? -/
def hasContent (s : String) : Bool := s.toList.any fun c => !isClosingMark c

/-- Does the text end with something that opens no block? -/
def settles (s : String) : Bool := s.toList.getLast?.any fun c => (closerOf? c).isNone

section

variable {s t : String}

@[simp]
theorem hasContent_append : hasContent (s ++ t) = (hasContent s || hasContent t) := by
  rw [hasContent, String.toList_append, List.any_append, hasContent, hasContent]

@[simp]
theorem settles_append (h : settles t = true) : settles (s ++ t) = true := by
  rw [settles] at h ⊢
  cases hlast : t.toList.getLast? with
  | none => rw [hlast] at h; cases h
  | some c =>
      rw [hlast] at h
      rw [String.toList_append, List.getLast?_append, hlast]
      exact h

@[simp]
theorem isComment_append (h : isComment s = true) : isComment (s ++ t) = true := by
  rw [isComment, List.isPrefixOf_iff_prefix] at h ⊢
  rw [String.toList_append]
  exact h.trans (List.prefix_append _ _)

@[simp]
theorem effectOf_of_isComment (h : isComment s = true) : effectOf s = .line := by
  rw [effectOf, if_pos h]

theorem filter_closing (h : hasContent s = true) :
    (s.toList.head?.filter fun _ => s.toList.all isClosingMark) = none := by
  have hall : s.toList.all isClosingMark = false := by
    rw [hasContent, List.any_eq_not_all_not] at h
    simpa using h
  rw [hall, Option.filter_eq_none_iff]
  exact fun _ _ => Bool.false_ne_true

/-- Most lines neither open a block nor close one. -/
@[simp]
theorem effectOf_of_settles (hcontent : hasContent s = true) (hsettles : settles s = true) :
    effectOf s = .line := by
  have hlast : s.toList.getLast?.bind closerOf? = none := by
    rw [settles] at hsettles
    cases hlast : s.toList.getLast? with
    | none => rfl
    | some c =>
        rw [hlast, Option.any_some, Option.isNone_iff_eq_none] at hsettles
        exact hsettles
  rw [effectOf, filter_closing hcontent, hlast, ite_self]

/-- A line of code that ends with an opening bracket opens a block. -/
theorem effectOf_of_opener {opener closer : Char} (hstart : startsCode s = true)
    (hlast : s.toList.getLast? = some opener) (hcloser : closerOf? opener = some closer) :
    effectOf s = .opens closer := by
  have hcomment : isComment s = false := by
    obtain ⟨c, rest, hs, hc⟩ := exists_of_startsCode hstart
    rw [isComment, hs]
    have hne : '/' ≠ c := by
      rintro rfl
      exact absurd hc (by decide)
    simp [List.isPrefixOf, hne]
  have hcontent : hasContent s = true := by
    refine List.any_eq_true.mpr ⟨opener, List.mem_of_getLast? hlast, ?_⟩
    unfold closerOf? at hcloser
    split at hcloser
    · rfl
    · rfl
    · rfl
    · cases hcloser
  rw [effectOf, hcomment, filter_closing hcontent, hlast, Option.bind_some, hcloser]
  rfl

end

/-! ## Rules -/

namespace Expr

variable {e e' : Expr} {rest : List Expr} {s : String}

/-- There is something in the expression that stands in no closing line. -/
def HasContent (e : Expr) : Prop := hasContent e.text = true

/-- The last of the pieces ends with something that opens no block. -/
def Settled : List Expr → Prop
  | [] => False
  | [e] => settles e.text = true
  | _ :: e :: rest => Settled (e :: rest)

@[simp]
theorem hasContent_plain : (plain s).HasContent ↔ hasContent s = true := .rfl

@[simp]
theorem hasContent_of_cons :
    (Expr.of (e :: rest)).HasContent ↔ e.HasContent ∨ (Expr.of rest).HasContent := by
  show hasContent (e.text ++ (Expr.of rest).text) = true ↔ _
  rw [hasContent_append, Bool.or_eq_true_iff]
  rfl

@[simp]
theorem settled_singleton : Settled [plain s] ↔ settles s = true := .rfl

@[simp]
theorem settled_cons_cons : Settled (e :: e' :: rest) ↔ Settled (e' :: rest) := .rfl

theorem settles_text {pieces : List Expr} (h : Settled pieces) :
    settles (Expr.of pieces).text = true := by
  fun_induction Settled pieces with
  | case1 => cases h
  | case2 e =>
      show settles (e.text ++ "") = true
      rwa [String.append_empty]
  | case3 e e' rest ih => exact settles_append (ih h)

end Expr

namespace Code

variable {a b c body : Code} {e head : Expr} {s : String} {binds : List String} {close : String}

@[simp]
theorem framed_empty : empty.Framed := trivial

@[simp]
theorem framed_seq : (seq a b).Framed ↔ a.Framed ∧ b.Framed := .rfl

@[simp]
theorem framed_append : (a ++ b).Framed ↔ a.Framed ∧ b.Framed := .rfl

@[simp]
theorem framed_text : (text s).Framed ↔ effectOf s = .line := .rfl

@[simp]
theorem framed_blank : blank.Framed := framed_text.mpr (by decide)

@[simp]
theorem framed_line {pieces : List Expr} (hcontent : (Expr.of pieces).HasContent)
    (hsettled : Expr.Settled pieces) : (line (.of pieces)).Framed :=
  effectOf_of_settles hcontent (Expr.settles_text hsettled)

@[simp]
theorem framed_bind {name : String} {value : Expr} : (bind name value).Framed := by
  refine effectOf_of_settles ?_ (settles_append (by decide))
  simp +decide

/-- A block in brackets is framed if what is in it is. -/
theorem framed_block {c closer : Char} (hhead : head.Leads)
    (hlast : head.text.toList.getLast? = some c) (hcloser : closerOf? c = some closer)
    (hclose : effectOf close = .closes closer) :
    (block head binds body close).Framed ↔ body.Framed :=
  and_iff_right ⟨closer, effectOf_of_opener hhead hlast hcloser, hclose⟩

/-- What is in front of the bracket does not matter, unless it is a comment. -/
theorem framed_block_append {opener : String} {c closer : Char} (hhead : head.Leads)
    (hlast : opener.toList.getLast? = some c) (hcloser : closerOf? c = some closer)
    (hclose : effectOf close = .closes closer) :
    (block (head ++ Expr.plain opener) binds body close).Framed ↔ body.Framed := by
  refine framed_block (Expr.leads_append hhead) (c := c) ?_ hcloser hclose
  show (head.text ++ opener).toList.getLast? = some c
  rw [String.toList_append, List.getLast?_append, hlast]
  rfl

theorem framed_block_of {pieces : List Expr} {opener : String} {c closer : Char}
    (hhead : (Expr.of pieces).Leads) (hopener : pieces.getLast? = some (.plain opener))
    (hlast : opener.toList.getLast? = some c) (hcloser : closerOf? c = some closer)
    (hclose : effectOf close = .closes closer) :
    (block (.of pieces) binds body close).Framed ↔ body.Framed := by
  obtain ⟨before, rfl⟩ := List.getLast?_eq_some_iff.mp hopener
  refine framed_block hhead (c := c) ?_ hcloser hclose
  rw [Expr.text_of_concat, String.toList_append, List.getLast?_append, hlast]
  rfl

@[simp]
theorem framed_braces (h : head.Leads) : (braces head body).Framed ↔ body.Framed :=
  framed_block_append h (c := '\x7b') rfl rfl (by decide)

@[simp]
theorem framed_forEach {pattern : Pattern} {subject : Expr} :
    (forEach pattern subject body).Framed ↔ body.Framed :=
  framed_block_of (Expr.leads_of_plain (by decide)) (c := '\x7b') rfl rfl rfl (by decide)

@[simp]
theorem framed_ifSet {name receiver ident : String} :
    (ifSet name receiver ident body).Framed ↔ body.Framed :=
  framed_block_of (Expr.leads_of_plain (by decide)) (c := '\x7b') rfl rfl rfl (by decide)

@[simp]
theorem framed_all_nil : (all []).Framed := framed_empty

@[simp]
theorem framed_all_cons {pieces : List Code} :
    (all (c :: pieces)).Framed ↔ c.Framed ∧ (all pieces).Framed := framed_seq

theorem framed_all {pieces : List Code} : (all pieces).Framed ↔ ∀ c ∈ pieces, c.Framed := by
  induction pieces with
  | nil => simp
  | cons c pieces ih => rw [framed_all_cons, ih, List.forall_mem_cons]

@[simp]
theorem framed_all_map {α : Type} {l : List α} {f : α → Code} :
    (all (l.map f)).Framed ↔ ∀ a ∈ l, (f a).Framed := by
  rw [framed_all, List.forall_mem_map]

@[simp]
theorem framed_texts {l : List String} : (texts l).Framed ↔ ∀ s ∈ l, effectOf s = .line := by
  simp only [texts, framed_all_map, framed_text]

@[simp]
theorem framed_when {condition : Bool} :
    (when condition c).Framed ↔ (condition = true → c.Framed) := by
  cases condition with
  | false => simp [when]
  | true => simp [when]

@[simp]
theorem framed_getD {c : Option Code} :
    (c.getD .empty).Framed ↔ ∀ code, c = some code → code.Framed := by
  cases c with
  | none => simp
  | some c => simp

theorem framed_spaced {pieces : List Code} :
    (spaced pieces).Framed ↔ ∀ c ∈ pieces, c.Framed := by
  induction pieces with
  | nil => simp [spaced]
  | cons c pieces ih =>
      cases pieces with
      | nil => simp [spaced]
      | cons c' pieces =>
          rw [spaced, framed_seq, framed_seq, and_iff_right framed_blank, ih]
          · exact List.forall_mem_cons.symm
          · simp

end Code

end Clientwright
