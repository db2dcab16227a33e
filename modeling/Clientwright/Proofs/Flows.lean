import Clientwright.Proofs.ItemFiles
import Clientwright.Text.Pieces

/-!
# Where the value of a field goes

A method that builds a request takes a field of its input, gives the value a name,
and puts what is under the name into the request, at once or by way of a variable
that collects the body. This file follows one field through such a method.

What is followed are the names that hold the value or some of it. A binding that
takes the field holds it, and so does one that mentions a held name. A loop hands it
on to the last name of its pattern, since counters and keys come before. A name that
is bound anew is no longer held, and what a block binds is not held after it. A
statement that fills a collecting variable from a held name makes this variable
held, also after the block that the statement stands in. The value is sent where a
statement on the request mentions a held name, and which statement it is tells the
part of the request.

A statement is known by how it begins and ends as it is written. The variables in
it are known from its pieces, so that nothing in a string literal is taken for one.

The rules after the definitions say what code does from any names, as long as some
given ones are held before: `Carries` that a name is held afterwards, `Sends` that
the value is sent. An emitter has one such statement about what it yields. The other
way round, nothing is sent of a field that is not taken (`Code.not_transmits`).
-/

namespace Clientwright

open Outcome

/-- The parts of a request. -/
inductive Channel where
  | path
  | header
  | query
  | body
  deriving DecidableEq, Repr

/-- How the statements begin that put something into this part. -/
def Channel.statements : Channel → List String
  | path => ["let request = runtime::Request::new(", "let mut request = runtime::Request::new("]
  | header => ["request.header("]
  | query => ["request.query_param("]
  | body => ["request.body = "]

/-- What a body is collected in: the object of JSON, the parameters of a form, or the
text of XML. -/
inductive Collector where
  | object
  | parameters
  | text
  deriving DecidableEq, Repr

namespace Collector

/-- Every one of them. -/
def all : List Collector := [object, parameters, text]

/-- The variable. -/
def name : Collector → String
  | object => "object"
  | parameters => "params"
  | text => "body"

/-- How the statements begin that fill it. Text is filled under a second name. -/
def starts : Collector → List String
  | object => ["object.insert("]
  | parameters => ["params.push("]
  | text => ["runtime::xml_element(out, ", "runtime::xml_attribute(out, "]

/-- How those end that have something fill it. -/
def endings : Collector → List String
  | object => []
  | parameters => [", params)?;"]
  | text => [", out)?;", ", &mut body)?;"]

theorem mem_all (k : Collector) : k ∈ all := by cases k <;> decide

end Collector

/-- The variables in plain code. What stands behind a dot belongs to what is before
it, and is no variable. -/
def plainVariables (s : String) : List String :=
  (Text.splitAt (fun c => !(c.isAlphanum || c = '_' || c = '.')) s.toList).map fun word =>
    String.ofList (word.takeWhile (· ≠ '.'))

namespace Expr

/-- Does the expression begin with the text as it is written? -/
def begins (start : String) (e : Expr) : Bool := start.toList.isPrefixOf e.text.toList

/-- Does it end with the text? -/
def ends (ending : String) (e : Expr) : Bool := ending.toList.isSuffixOf e.text.toList

/-- The variables that the expression reads and does not bind itself. -/
def reads : Expr → List String
  | var name => [name]
  | plain s => plainVariables s
  | seq a b => a.reads ++ b.reads
  | closure params body => body.reads.filter fun x => !params.names.contains x
  | empty | quoted _ | field _ | item _ _ | convert _ _ | timestamp _ => []

/-- Does the expression read one of the names? -/
def mentions (names : List String) (e : Expr) : Bool := e.reads.any names.contains

/-- Does the expression take the field itself? It is taken by reference, or where it
is set. -/
def takes (ident : String) (e : Expr) : Bool :=
  e.begins ("self." ++ ident ++ ".") || e.ends (" = &self." ++ ident ++ " \x7b")

/-- Does the statement fill the collecting variable? -/
def fills (k : Collector) (e : Expr) : Bool := k.starts.any e.begins || k.endings.any e.ends

/-- The collecting variables that the statement fills. -/
def filled (e : Expr) : List String := (Collector.all.filter e.fills).map (·.name)

/-- The names that are held in a block with this head. -/
def inside (ident : String) (head : Expr) (binds names : List String) : List String :=
  let outer := names.filter fun x => !binds.contains x
  if head.takes ident || head.mentions names then binds.getLast?.toList ++ outer else outer

end Expr

namespace Code

/-- Those of the names that are held after a block. -/
def outlasting (names : List String) : List String :=
  names.filter (Collector.all.map (·.name)).contains

/-- The names that hold the field after the code, given those that do before. -/
def held (ident : String) : Code → List String → List String
  | empty, names => names
  | seq a b, names => b.held ident (a.held ident names)
  | line e, names => if e.mentions names then e.filled ++ names else names
  | bind name value, names =>
    if value.takes ident || value.mentions names then name :: names
    else names.filter (· ≠ name)
  | block head binds body _, names =>
    names ++ outlasting (body.held ident (head.inside ident binds names))
  | branch _ first second, names =>
    names ++ outlasting (first.held ident names ++ second.held ident names)

/-- Is the field put into the part of the request, given the names that hold it? -/
def sends (ident : String) (channel : Channel) : Code → List String → Bool
  | empty, _ | bind _ _, _ => false
  | seq a b, names =>
    a.sends ident channel names || b.sends ident channel (a.held ident names)
  | line e, names => channel.statements.any e.begins && e.mentions names
  | block head binds body _, names =>
    body.sends ident channel (head.inside ident binds names)
  | branch _ first second, names =>
    first.sends ident channel names || second.sends ident channel names

/-- Is the field taken anywhere in the code? -/
def takes (ident : String) : Code → Bool
  | empty | line _ => false
  | seq a b => a.takes ident || b.takes ident
  | bind _ value => value.takes ident
  | block head _ body _ => head.takes ident || body.takes ident
  | branch _ first second => first.takes ident || second.takes ident

/-- The head of the method that builds a request. -/
def requestHead : String := "pub fn request(&self) -> Result<runtime::Request, runtime::Error> \x7b"

/-- Does the request method of the type put the field into the part of the
request? -/
def transmits (type : String) (channel : Channel) (ident : String) (c : Code) : Bool :=
  c.blocks.any fun b => b.1.text == "impl " ++ type ++ " \x7b" &&
    b.2.blocks.any fun f => f.1.text == requestHead && f.2.sends ident channel []

end Code

/-! ## Rules for expressions -/

namespace Expr

variable {x s start ending : String} {e : Expr} {names : List String} {pieces : List Expr}
  {k : Collector} {channel : Channel}

theorem mentions_of_mem (hx : x ∈ e.reads) (hnames : x ∈ names) :
    e.mentions names = true :=
  List.any_eq_true.mpr ⟨x, hx, List.contains_iff_mem.mpr hnames⟩

theorem mem_reads_of (h : e ∈ pieces) (hx : x ∈ e.reads) : x ∈ (Expr.of pieces).reads := by
  induction pieces with
  | nil => cases h
  | cons e' pieces ih =>
      rcases List.mem_cons.mp h with rfl | h
      · exact List.mem_append_left _ hx
      · exact List.mem_append_right _ (ih h)

theorem mem_reads_of_var (h : .var x ∈ pieces) : x ∈ (Expr.of pieces).reads :=
  mem_reads_of h (List.mem_singleton_self x)

theorem mem_reads_separated {separator : String} (he : e ∈ pieces) (hx : x ∈ e.reads) :
    x ∈ (separated separator pieces).reads := by
  induction pieces with
  | nil => cases he
  | cons e' pieces ih =>
      cases pieces with
      | nil => exact List.mem_singleton.mp he ▸ hx
      | cons e'' pieces =>
          show x ∈ e'.reads ++ (plainVariables separator ++
            (separated separator (e'' :: pieces)).reads)
          rcases List.mem_cons.mp he with rfl | he
          · exact List.mem_append_left _ hx
          · exact List.mem_append_right _ (List.mem_append_right _ (ih he))

theorem begins_of_cons (h : start.toList <+: s.toList) :
    (Expr.of (.plain s :: pieces)).begins start = true := by
  rw [begins, List.isPrefixOf_iff_prefix]
  show start.toList <+: (s ++ (Expr.of pieces).text).toList
  rw [String.toList_append]
  exact h.trans (List.prefix_append _ _)

theorem begins_of_cons_cons {s' : String} (h : start.toList <+: (s ++ s').toList) :
    (Expr.of (.plain s :: .plain s' :: pieces)).begins start = true := by
  rw [begins, List.isPrefixOf_iff_prefix]
  show start.toList <+: (s ++ (s' ++ (Expr.of pieces).text)).toList
  rw [← String.append_assoc, String.toList_append]
  exact h.trans (List.prefix_append _ _)

theorem text_of_concat {last : String} :
    (Expr.of (pieces ++ [.plain last])).text = (Expr.of pieces).text ++ last := by
  induction pieces with
  | nil => exact String.append_empty.trans String.empty_append.symm
  | cons e pieces ih =>
      have htail := congrArg (e.text ++ ·) ih
      exact htail.trans String.append_assoc.symm

theorem ends_of_getLast? (h : pieces.getLast? = some (.plain ending)) :
    (Expr.of pieces).ends ending = true := by
  obtain ⟨before, rfl⟩ := List.getLast?_eq_some_iff.mp h
  rw [ends, text_of_concat, List.isSuffixOf_iff_suffix, String.toList_append]
  exact List.suffix_append _ _

theorem mem_filled (h : e.fills k = true) : k.name ∈ e.filled :=
  List.mem_map_of_mem (List.mem_filter.mpr ⟨k.mem_all, h⟩)

theorem mem_filled_of_start (hstart : start ∈ k.starts) (h : start.toList <+: s.toList) :
    k.name ∈ (Expr.of (.plain s :: pieces)).filled :=
  mem_filled (Bool.or_eq_true_iff.mpr (.inl
    (List.any_eq_true.mpr ⟨start, hstart, begins_of_cons h⟩)))

theorem mem_filled_of_ending (hending : ending ∈ k.endings)
    (h : pieces.getLast? = some (.plain ending)) : k.name ∈ (Expr.of pieces).filled :=
  mem_filled (Bool.or_eq_true_iff.mpr (.inr
    (List.any_eq_true.mpr ⟨ending, hending, ends_of_getLast? h⟩)))

theorem states_of_begins (hstart : start ∈ channel.statements)
    (h : e.begins start = true) : channel.statements.any e.begins = true :=
  List.any_eq_true.mpr ⟨start, hstart, h⟩

theorem states_of_start (hstart : start ∈ channel.statements)
    (h : start.toList <+: s.toList) :
    channel.statements.any (Expr.of (.plain s :: pieces)).begins = true :=
  states_of_begins hstart (begins_of_cons h)

end Expr

/-! ## Rules for code -/

namespace Code

/-- The name is held after the code wherever the given ones are held before. -/
def Carries (ident : String) (given : List String) (y : String) (c : Code) : Prop :=
  ∀ names, given ⊆ names → y ∈ c.held ident names

/-- The name is held after the code if it is before, whatever it holds. -/
def Keeps (y : String) (c : Code) : Prop := ∀ ident, c.Carries ident [y] y

/-- The value is sent in this part wherever the given names are held before. -/
def Sends (ident : String) (channel : Channel) (given : List String) (c : Code) : Prop :=
  ∀ names, given ⊆ names → c.sends ident channel names = true

variable {ident name x y z : String} {channel : Channel} {given : List String}
  {k : Collector} {a b c body : Code} {pieces : List Code} {e head : Expr} {pattern : Pattern}

theorem mem_of_given {names : List String} (h : [x] ⊆ names) : x ∈ names :=
  h List.mem_cons_self

theorem given_of_mem {names : List String} (h : x ∈ names) : [x] ⊆ names :=
  List.cons_subset.mpr ⟨h, List.nil_subset names⟩

/-! ### What is held already -/

theorem keeps_empty : empty.Keeps y := fun _ _ => mem_of_given

theorem keeps_line : (line e).Keeps y := by
  intro ident names h
  rw [held]
  split
  · exact List.mem_append_right _ (mem_of_given h)
  · exact mem_of_given h

theorem keeps_block {binds : List String} {close : String} :
    (block head binds body close).Keeps y :=
  fun _ _ h => List.mem_append_left _ (mem_of_given h)

theorem keeps_bind (h : y ≠ name) : (bind name e).Keeps y := by
  intro ident names hy
  rw [held]
  split
  · exact List.mem_cons_of_mem _ (mem_of_given hy)
  · exact List.mem_filter.mpr ⟨mem_of_given hy, decide_eq_true h⟩

theorem keeps_seq (ha : a.Keeps y) (hb : b.Keeps y) : (seq a b).Keeps y :=
  fun ident names h => hb ident _ (given_of_mem (ha ident names h))

theorem keeps_all (h : ∀ c ∈ pieces, c.Keeps y) : (all pieces).Keeps y := by
  induction pieces with
  | nil => exact keeps_empty
  | cons c pieces ih =>
      rw [List.forall_mem_cons] at h
      exact keeps_seq h.1 (ih h.2)

theorem keeps_when {condition : Bool} (h : c.Keeps y) : (when condition c).Keeps y := by
  cases condition with
  | false => exact keeps_empty
  | true => exact h

/-! ### What comes to be held -/

theorem carries_line (hx : x ∈ e.reads) (hy : y ∈ e.filled) :
    (line e).Carries ident [x] y := by
  intro names h
  rw [held, if_pos (Expr.mentions_of_mem hx (mem_of_given h))]
  exact List.mem_append_left _ hy

theorem carries_bind (h : e.takes ident = true) :
    (bind name e).Carries ident given name := by
  intro names _
  rw [held, h, Bool.true_or, if_pos rfl]
  exact List.mem_cons_self

/-- The name that a block is handed. -/
theorem mem_inside {binds names : List String} (hz : binds.getLast? = some z)
    (h : head.takes ident = true ∨ head.mentions names = true) :
    z ∈ head.inside ident binds names := by
  rw [Expr.inside, if_pos (Bool.or_eq_true_iff.mpr h), hz]
  exact List.mem_cons_self

theorem mem_held_block {binds names : List String} {close : String}
    (hz : binds.getLast? = some z)
    (h : head.takes ident = true ∨ head.mentions names = true)
    (hbody : body.Carries ident [z] k.name) :
    k.name ∈ (block head binds body close).held ident names :=
  List.mem_append_right _ (List.mem_filter.mpr ⟨hbody _ (given_of_mem (mem_inside hz h)),
    List.contains_iff_mem.mpr (List.mem_map_of_mem k.mem_all)⟩)

/-- The head of code for when a field is set takes the field. -/
theorem takes_ifSet :
    (Expr.of ["if let Some(", .var name, ") = &", "self", ".", .field ident,
      " \x7b"]).takes ident = true := by
  refine Bool.or_eq_true_iff.mpr (.inr ?_)
  rw [Expr.ends, List.isSuffixOf_iff_suffix]
  refine ⟨("if let Some(" ++ name ++ ")").toList, ?_⟩
  show _ = ("if let Some(" ++ (name ++ (") = &" ++ ("self" ++ ("." ++ (ident ++ (" \x7b" ++ "")))))
    )).toList
  simp only [String.toList_append, List.append_assoc]
  rfl

/-- So does a reference into the field. -/
theorem takes_reference {rest : String} {pieces : List Expr} (h : ['.'] <+: rest.toList) :
    (Expr.of ("self." :: .field ident :: .plain rest :: pieces)).takes ident = true := by
  refine Bool.or_eq_true_iff.mpr (.inl ?_)
  rw [Expr.begins, List.isPrefixOf_iff_prefix]
  show _ <+: ("self." ++ (ident ++ (rest ++ (Expr.of pieces).text))).toList
  simp only [String.toList_append, List.append_assoc, List.prefix_append_right_inj]
  exact h.trans (List.prefix_append _ _)

theorem mentions_forEach {names : List String} {subject : Expr} (hx : x ∈ subject.reads)
    (h : x ∈ names) :
    (Expr.of ["for ", pattern.text, " in ", subject, " \x7b"]).mentions names = true :=
  Expr.mentions_of_mem (Expr.mem_reads_of (by simp) hx) h

theorem carries_ifSet (h : body.Carries ident [name] k.name) :
    (ifSet name "self" ident body).Carries ident given k.name :=
  fun _ _ => mem_held_block rfl (.inl takes_ifSet) h

theorem carries_forEach {subject : Expr} (hx : x ∈ subject.reads)
    (hz : pattern.names.getLast? = some z) (h : body.Carries ident [z] k.name) :
    (forEach pattern subject body).Carries ident [x] k.name :=
  fun _ hnames => mem_held_block hz (.inr (mentions_forEach hx (mem_of_given hnames))) h

theorem carries_seq (ha : a.Carries ident given x) (hb : b.Carries ident [x] y) :
    (seq a b).Carries ident given y :=
  fun names h => hb _ (given_of_mem (ha names h))

theorem carries_seq_right (h : b.Carries ident [] y) : (seq a b).Carries ident given y :=
  fun _ _ => h _ (List.nil_subset _)

theorem carries_all_of_mem (hc : c ∈ pieces) (h : c.Carries ident [] y)
    (hkeeps : ∀ c ∈ pieces, c.Keeps y) : (all pieces).Carries ident [] y := by
  induction pieces with
  | nil => cases hc
  | cons c' pieces ih =>
      rw [List.forall_mem_cons] at hkeeps
      rcases List.mem_cons.mp hc with rfl | hc
      · exact carries_seq h (keeps_all hkeeps.2 ident)
      · exact carries_seq_right (ih hc hkeeps.2)

/-! ### What is sent -/

theorem sends_line (hstatement : channel.statements.any e.begins = true)
    (hx : x ∈ e.reads) : (line e).Sends ident channel [x] := by
  intro names h
  rw [sends, hstatement, Expr.mentions_of_mem hx (mem_of_given h)]
  rfl

theorem sends_ifSet (h : body.Sends ident channel [name]) :
    (ifSet name "self" ident body).Sends ident channel given :=
  fun _ _ => h _ (given_of_mem (mem_inside rfl (.inl takes_ifSet)))

theorem sends_forEach {subject : Expr} (hx : x ∈ subject.reads)
    (hz : pattern.names.getLast? = some z) (h : body.Sends ident channel [z]) :
    (forEach pattern subject body).Sends ident channel [x] := by
  intro names hnames
  refine h _ (given_of_mem (mem_inside hz (.inr ?_)))
  exact mentions_forEach hx (mem_of_given hnames)

theorem sends_seq_left (h : a.Sends ident channel given) :
    (seq a b).Sends ident channel given :=
  fun names hnames => Bool.or_eq_true_iff.mpr (.inl (h names hnames))

theorem sends_seq (ha : a.Carries ident given x) (hb : b.Sends ident channel [x]) :
    (seq a b).Sends ident channel given :=
  fun names h => Bool.or_eq_true_iff.mpr (.inr (hb _ (given_of_mem (ha names h))))

theorem sends_seq_right (h : b.Sends ident channel []) :
    (seq a b).Sends ident channel given :=
  fun _ _ => Bool.or_eq_true_iff.mpr (.inr (h _ (List.nil_subset _)))

theorem sends_all_of_mem (hc : c ∈ pieces) (h : c.Sends ident channel []) :
    (all pieces).Sends ident channel [] := by
  induction pieces with
  | nil => cases hc
  | cons c' pieces ih =>
      rcases List.mem_cons.mp hc with rfl | hc
      · exact sends_seq_left h
      · exact sends_seq_right (ih hc)

/-! ### What is not taken -/

theorem not_mentions_nil : e.mentions [] = false :=
  List.any_eq_false.mpr fun x _ => by simp

theorem inside_nil {binds : List String} (h : head.takes ident = false) :
    head.inside ident binds [] = [] := by
  rw [Expr.inside, h, not_mentions_nil]
  rfl

theorem held_nil (h : c.takes ident = false) : c.held ident [] = [] := by
  induction c with
  | empty => rfl
  | seq a b iha ihb =>
      obtain ⟨ha, hb⟩ := Bool.or_eq_false_iff.mp h
      rw [held, iha ha, ihb hb]
  | line e =>
      rw [held, not_mentions_nil]
      rfl
  | bind name value =>
      have hvalue : value.takes ident = false := h
      rw [held, hvalue, not_mentions_nil]
      rfl
  | block head binds body close ih =>
      obtain ⟨hhead, hbody⟩ := Bool.or_eq_false_iff.mp h
      rw [held, inside_nil hhead, ih hbody]
      rfl
  | branch condition first second ih₁ ih₂ =>
      obtain ⟨h₁, h₂⟩ := Bool.or_eq_false_iff.mp h
      rw [held, ih₁ h₁, ih₂ h₂]
      rfl

/-- A field that is not taken is not sent. -/
theorem sends_nil (h : c.takes ident = false) : c.sends ident channel [] = false := by
  induction c with
  | empty | bind name value => rfl
  | seq a b iha ihb =>
      obtain ⟨ha, hb⟩ := Bool.or_eq_false_iff.mp h
      rw [sends, held_nil ha, iha ha, ihb hb]
      rfl
  | line e => rw [sends, not_mentions_nil, Bool.and_false]
  | block head binds body close ih =>
      obtain ⟨hhead, hbody⟩ := Bool.or_eq_false_iff.mp h
      rw [sends, inside_nil hhead, ih hbody]
  | branch condition first second ih₁ ih₂ =>
      obtain ⟨h₁, h₂⟩ := Bool.or_eq_false_iff.mp h
      rw [sends, ih₁ h₁, ih₂ h₂]
      rfl

theorem not_takes_of_mem_blocks {f : Expr × Code} (h : c.takes ident = false)
    (hf : f ∈ c.blocks) : f.2.takes ident = false := by
  induction c with
  | seq a b iha ihb =>
      obtain ⟨ha, hb⟩ := Bool.or_eq_false_iff.mp h
      rcases List.mem_append.mp hf with hf | hf
      · exact iha ha hf
      · exact ihb hb hf
  | block head binds body close =>
      obtain rfl := List.mem_singleton.mp hf
      exact (Bool.or_eq_false_iff.mp h).2
  | empty | line e | bind name value | branch condition first second => cases hf

theorem not_transmits {type : String} (h : c.takes ident = false) :
    c.transmits type channel ident = false := by
  refine List.any_eq_false.mpr fun block hblock => ?_
  have hbody := not_takes_of_mem_blocks h hblock
  have hnone : (block.2.blocks.any fun f =>
      f.1.text == requestHead && f.2.sends ident channel []) = false := by
    refine List.any_eq_false.mpr fun f hf => ?_
    rw [sends_nil (not_takes_of_mem_blocks hbody hf), Bool.and_false]
    exact Bool.false_ne_true
  rw [hnone, Bool.and_false]
  exact Bool.false_ne_true

/-! ### Pieces that are made one by one -/

section

variable {ε α : Type} {f : α → Except ε Code} {l : List α} {i : α}

theorem carries_mapM (hi : i ∈ l) (h : Yields (Carries ident [] y) (f i))
    (hkeeps : ∀ i ∈ l, Yields (Keeps y) (f i)) :
    Yields (fun r => (all r).Carries ident [] y) (l.mapM f) := by
  cases hr : l.mapM f with
  | error e => exact meets_error trivial
  | ok r =>
      have hall := mapM_eq_ok.mp hr
      obtain ⟨c, hc, hcode⟩ := exists_right_of_forall₂ hall hi
      refine meets_ok (carries_all_of_mem hc (h.value hcode) fun d hd => ?_)
      obtain ⟨j, hj, hcode⟩ := exists_left_of_forall₂ hall hd
      exact (hkeeps j hj).value hcode

theorem sends_mapM (hi : i ∈ l) (h : Yields (Sends ident channel []) (f i)) :
    Yields (fun r => (all r).Sends ident channel []) (l.mapM f) := by
  cases hr : l.mapM f with
  | error e => exact meets_error trivial
  | ok r =>
      obtain ⟨c, hc, hcode⟩ := exists_right_of_forall₂ (mapM_eq_ok.mp hr) hi
      exact meets_ok (sends_all_of_mem hc (h.value hcode))

end

end Code

end Clientwright
