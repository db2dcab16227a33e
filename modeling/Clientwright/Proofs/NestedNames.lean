import Clientwright.Proofs.TextPieces
import Clientwright.Proofs.Transmissions
import Clientwright.Response.XmlBody

/-!
# Names in nested code

Code for lists and maps binds names on each level, in loops, bindings and closures, and what is
bound on the way down is in scope where a value is written or read. The way down to each place
is a `Trail`: the names bound on it, and what is written there. A trail is sound if no name was
bound twice on it, and if it uses no name of a nested level that was not bound on it, be it as a
variable or in plain text.

The names of a level have its depth in them. So all that an emitter has to know of the names
around it is that none of them is as deep as its own level (`Enclosing`); its own names are new
then, and the next level finds itself enclosed again (`Enclosing.push`). The key of a form
parameter is put together on one level and written on the next, where the names that it was made
of are still in scope. The induction is on the value, and it carries the names that are around.
-/

namespace Clientwright

open Outcome

/-- What the names of nested levels are for. -/
def nestedRoles : List String := ["item", "key", "index", "prefix", "entry", "items", "entries"]

/-- The name is one of a nested level. -/
def IsNested (name : String) : Prop := ∃ role ∈ nestedRoles, ∃ depth, name = localName role depth

/-- The way to a place in code: the names that are bound on it, the innermost first, what is
written there, and the names that are bound by it for what is further in. -/
structure Trail where
  bound : List String
  place : Expr
  introduced : List String := []

/-- No name was bound twice, and no name of a nested level is used without being bound. The text
of a pattern may say what it binds. -/
structure Trail.Sound (t : Trail) : Prop where
  distinct : t.bound.Nodup
  closed : ∀ name ∈ t.place.reads, IsNested name →
    name ∈ t.bound ∨ name ∈ t.introduced ∧ ∃ s, t.place = .plain s

/-- The ways to the places in an expression, from a place where some names are bound. -/
def Expr.trails (bound introduced : List String) : Expr → List Trail
  | .seq a b => a.trails bound introduced ++ b.trails bound introduced
  | .closure params body => body.trails (params.names ++ bound) introduced
  | e => [⟨bound, e, introduced⟩]

/-- The names that code binds for what comes after it in the same block. -/
def Code.binds : Code → List String
  | bind name _ => [name]
  | seq a b => b.binds ++ a.binds
  | empty | line _ | block _ _ _ _ | branch _ _ _ => []

/-- The ways to the places in code. -/
def Code.trails (bound : List String) : Code → List Trail
  | empty => []
  | seq a b => a.trails bound ++ b.trails (a.binds ++ bound)
  | line e => e.trails bound []
  | bind _ value => value.trails bound []
  | block head binds body _ => head.trails bound binds ++ body.trails (binds ++ bound)
  | branch condition first second =>
    condition.trails bound [] ++ first.trails bound ++ second.trails bound

/-- Every way in the expression is sound, where it introduces these names. -/
def Expr.Introduces (bound introduced : List String) (e : Expr) : Prop :=
  ∀ t ∈ e.trails bound introduced, t.Sound

/-- Every way in the expression is sound. -/
abbrev Expr.Nests (bound : List String) (e : Expr) : Prop := e.Introduces bound []

/-- Every way in the code is sound. -/
def Code.Nests (bound : List String) (c : Code) : Prop := ∀ t ∈ c.trails bound, t.Sound

variable {b : Blueprint} {v : ValueShape} {m : Member} {bound introduced : List String}
  {name : String} {format : TimestampFormat} {depth : Nat}

/-! ## Names -/

theorem isNested_localName {role : String} (h : role ∈ nestedRoles) :
    IsNested (localName role depth) :=
  ⟨role, h, depth, rfl⟩

/-- Roles are letters. -/
theorem letter_of_mem_role {role : String} {c : Char} (hrole : role ∈ nestedRoles)
    (hc : c ∈ role.toList) : c.isAlphanum = true ∧ c.isDigit = false := by
  have hroles : nestedRoles.all (fun role => role.toList.all fun c =>
      c.isAlphanum && !c.isDigit) = true := by decide
  have hletter := List.all_eq_true.mp (List.all_eq_true.mp hroles role hrole) c hc
  simpa using hletter

theorem toList_localName (role : String) (depth : Nat) :
    (localName role depth).toList = role.toList ++ (toString depth).toList :=
  String.toList_append

theorem getLast?_localName (role : String) (depth : Nat) :
    (localName role depth).toList.getLast?.any Char.isDigit = true := by
  have hne := Naming.toList_toString_ne_nil depth
  rw [toList_localName, List.getLast?_append_of_ne_nil _ hne, List.getLast?_eq_some_getLast hne,
    Option.any_some]
  exact Naming.isDigit_of_mem_toString (List.getLast_mem hne)

/-- Names of nested levels are equal only if they have one role and one depth. -/
theorem localName_nested_inj {role role' : String} {depth depth' : Nat}
    (hrole : role ∈ nestedRoles) (hrole' : role' ∈ nestedRoles) :
    localName role depth = localName role' depth' ↔ role = role' ∧ depth = depth' := by
  have hletters : ∀ role ∈ nestedRoles, ∀ depth,
      (localName role depth).toList.takeWhile (fun c => !c.isDigit) = role.toList := by
    intro role hrole depth
    have hdigits : (toString depth).toList.takeWhile (fun c => !c.isDigit) = [] := by
      refine List.takeWhile_eq_nil_iff.mpr fun hlength => ?_
      rw [Naming.isDigit_of_mem_toString (List.get_mem _ ⟨0, hlength⟩)]
      decide
    have hrole : ∀ c ∈ role.toList, (!c.isDigit) = true := by
      intro c hc
      rw [(letter_of_mem_role hrole hc).2]
      rfl
    rw [toList_localName, List.takeWhile_append_of_pos hrole, hdigits, List.append_nil]
  refine ⟨fun h => ?_, fun ⟨hr, hd⟩ => by rw [hr, hd]⟩
  obtain rfl : role = role' := by
    rw [← String.toList_inj, ← hletters role hrole depth, h, hletters role' hrole' depth']
  exact ⟨rfl, Request.localName_inj.mp h⟩

/-- Can the word be a name of a nested level, by its first letters and its last? -/
def looksNested (word : String) : Bool :=
  word.toList.getLast?.any Char.isDigit &&
    nestedRoles.any fun role => role.toList.isPrefixOf word.toList

theorem IsNested.looks (h : IsNested name) : looksNested name = true := by
  obtain ⟨role, hrole, depth, rfl⟩ := h
  refine Bool.and_eq_true_iff.mpr ⟨getLast?_localName role depth, ?_⟩
  refine List.any_eq_true.mpr ⟨role, hrole, ?_⟩
  rw [toList_localName]
  exact List.isPrefixOf_iff_prefix.mpr (List.prefix_append _ _)

theorem not_isNested (h : looksNested name = false) : ¬ IsNested name :=
  fun hnested => Bool.false_ne_true (h.symm.trans hnested.looks)

/-- A name of a nested level is one word. -/
theorem IsNested.plainVariables (h : IsNested name) : plainVariables name = [name] := by
  obtain ⟨role, hrole, depth, rfl⟩ := h
  have hchars : ∀ c ∈ (localName role depth).toList, c.isAlphanum = true := by
    intro c hc
    rw [toList_localName] at hc
    rcases List.mem_append.mp hc with hc | hc
    · exact (letter_of_mem_role hrole hc).1
    · rw [Char.isAlphanum, Naming.isDigit_of_mem_toString hc, Bool.or_true]
  have hpoint : ∀ c ∈ (localName role depth).toList, decide (c ≠ '.') = true := by
    intro c hc
    refine decide_eq_true ?_
    rintro rfl
    exact absurd (hchars _ hc) (by decide)
  rw [Clientwright.plainVariables, Text.splitAt_of_uncut fun c hc => by rw [hchars c hc]; rfl,
    List.map_singleton, List.takeWhile_eq_self_iff.mpr hpoint, String.ofList_toList]

/-! ## Scopes -/

/-- The names around a level are distinct, and those of nested levels among them are from
further out. -/
structure Enclosing (depth : Nat) (bound : List String) : Prop where
  distinct : bound.Nodup
  outer : ∀ name ∈ bound,
    name = "value" ∨ ∃ role ∈ nestedRoles, ∃ further < depth, name = localName role further

/-- No name of the level is around it. -/
theorem Enclosing.fresh (h : Enclosing depth bound) {role : String} (hrole : role ∈ nestedRoles) :
    localName role depth ∉ bound := by
  intro hmem
  rcases h.outer _ hmem with hvalue | ⟨role', hrole', further, hfurther, heq⟩
  · have hdigit := getLast?_localName role depth
    rw [hvalue] at hdigit
    exact absurd hdigit (by decide)
  · obtain ⟨-, rfl⟩ := (localName_nested_inj hrole hrole').mp heq
    exact Nat.lt_irrefl _ hfurther

theorem enclosing_nil : Enclosing 0 [] := ⟨List.nodup_nil, nofun⟩

theorem enclosing_singleton_iff : Enclosing depth [name] ↔
    name = "value" ∨ ∃ role ∈ nestedRoles, ∃ further < depth, name = localName role further :=
  ⟨fun h => h.outer name (List.mem_singleton_self name),
    fun h => ⟨List.nodup_singleton name, List.forall_mem_singleton.mpr h⟩⟩

theorem Enclosing.parsed (h : Enclosing depth bound) : "parsed" ∉ bound := by
  intro hmem
  rcases h.outer _ hmem with hvalue | ⟨role, -, further, -, heq⟩
  · exact absurd hvalue (by decide)
  · have hdigit := getLast?_localName role further
    rw [← heq] at hdigit
    exact absurd hdigit (by decide)

/-- What is around the next level: distinct names of this one, and all that is around it. -/
theorem Enclosing.push (h : Enclosing depth bound) (roles : List String)
    (hroles : roles ⊆ nestedRoles) (hdistinct : roles.Nodup) :
    Enclosing (depth + 1) (roles.map (localName · depth) ++ bound) := by
  refine ⟨List.nodup_append'.mpr ⟨?_, h.distinct, ?_⟩, ?_⟩
  · refine hdistinct.map_on fun role hrole role' hrole' heq => ?_
    exact ((localName_nested_inj (hroles hrole) (hroles hrole')).mp heq).1
  · intro name hname
    obtain ⟨role, hrole, rfl⟩ := List.mem_map.mp hname
    exact h.fresh (hroles hrole)
  · intro name hname
    rcases List.mem_append.mp hname with hname | hname
    · obtain ⟨role, hrole, rfl⟩ := List.mem_map.mp hname
      exact .inr ⟨role, hroles hrole, depth, Nat.lt_succ_self depth, rfl⟩
    · refine (h.outer name hname).imp_right fun ⟨role, hrole, further, hfurther, heq⟩ => ?_
      exact ⟨role, hrole, further, Nat.lt_succ_of_lt hfurther, heq⟩

/-- Most lists bind a name for an item, and most maps one for a key and one for an item. -/
theorem Enclosing.push_item (h : Enclosing depth bound) :
    Enclosing (depth + 1) (localName "item" depth :: bound) :=
  h.push ["item"] (by decide) (by decide)

theorem Enclosing.push_entry (h : Enclosing depth bound) :
    Enclosing (depth + 1) (localName "key" depth :: localName "item" depth :: bound) :=
  h.push ["key", "item"] (by decide) (by decide)

/-- An entry that is read is an element, which has a name too. -/
theorem Enclosing.push_element (h : Enclosing depth bound) : Enclosing (depth + 1)
    (localName "key" depth :: localName "item" depth :: localName "entry" depth :: bound) :=
  h.push ["key", "item", "entry"] (by decide) (by decide)

/-! ## Rules -/

/-- Does the text use no name of a nested level? Most texts have no digits at all. -/
def isOuter (s : String) : Bool :=
  (s.toList.all fun c => !c.isDigit) || (plainVariables s).all fun word => !looksNested word

theorem not_isNested_of_isOuter {s : String} (h : isOuter s = true) :
    ∀ name ∈ plainVariables s, ¬ IsNested name := by
  intro name hname hnested
  rcases Bool.or_eq_true_iff.mp h with hdigits | hwords
  · obtain ⟨word, hword, rfl⟩ := List.mem_map.mp hname
    obtain ⟨role, -, depth, heq⟩ := hnested
    have hlast := getLast?_localName role depth
    rw [← heq, String.toList_ofList] at hlast
    obtain ⟨c, hc, hdigit⟩ := (Option.any_eq_true _ _).mp hlast
    have hmem := List.takeWhile_subset _ (List.mem_of_getLast? hc)
    have hnot := List.all_eq_true.mp hdigits c (Text.mem_of_mem_splitAt hword hmem)
    rw [hdigit] at hnot
    cases hnot
  · have hnot := List.all_eq_true.mp hwords name hname
    rw [hnested.looks] at hnot
    cases hnot

namespace Expr

variable {e a b : Expr} {rest : List Expr} {s : String}

theorem introduces_silent (htrails : e.trails bound introduced = [⟨bound, e, introduced⟩])
    (h : ∀ name ∈ e.reads, ¬ IsNested name) :
    e.Introduces bound introduced ↔ bound.Nodup := by
  rw [Introduces, htrails, List.forall_mem_singleton]
  refine ⟨fun hsound => hsound.distinct, fun hbound => ⟨hbound, fun name hname hnested => ?_⟩⟩
  exact absurd hnested (h name hname)

@[simp]
theorem introduces_empty : empty.Introduces bound introduced ↔ bound.Nodup :=
  introduces_silent rfl nofun

@[simp]
theorem introduces_plain (h : isOuter s = true) :
    (plain s).Introduces bound introduced ↔ bound.Nodup :=
  introduces_silent rfl (not_isNested_of_isOuter h)

@[simp]
theorem introduces_quoted : (quoted s).Introduces bound introduced ↔ bound.Nodup :=
  introduces_silent rfl nofun

@[simp]
theorem introduces_field : (field s).Introduces bound introduced ↔ bound.Nodup :=
  introduces_silent rfl nofun

@[simp]
theorem introduces_item {area : Area} :
    (item area s).Introduces bound introduced ↔ bound.Nodup :=
  introduces_silent rfl nofun

@[simp]
theorem introduces_convert {conversion : Conversion} :
    (convert conversion s).Introduces bound introduced ↔ bound.Nodup :=
  introduces_silent rfl nofun

@[simp]
theorem introduces_timestamp :
    (timestamp format).Introduces bound introduced ↔ bound.Nodup :=
  introduces_silent rfl nofun

@[simp]
theorem introduces_var : (var name).Introduces bound introduced ↔
    bound.Nodup ∧ (IsNested name → name ∈ bound) := by
  refine List.forall_mem_singleton.trans ⟨fun h => ⟨h.distinct, fun hnested => ?_⟩, fun h => ?_⟩
  · refine (h.closed name (List.mem_singleton_self name) hnested).resolve_right ?_
    rintro ⟨-, s, hs⟩
    cases hs
  · refine ⟨h.1, fun other hother hnested => .inl ?_⟩
    obtain rfl := List.mem_singleton.mp hother
    exact h.2 hnested

@[simp]
theorem introduces_seq : (seq a b).Introduces bound introduced ↔
    a.Introduces bound introduced ∧ b.Introduces bound introduced :=
  List.forall_mem_append

@[simp]
theorem introduces_append : (a ++ b).Introduces bound introduced ↔
    a.Introduces bound introduced ∧ b.Introduces bound introduced :=
  introduces_seq

@[simp]
theorem introduces_closure {params : Pattern} : (closure params e).Introduces bound introduced ↔
    e.Introduces (params.names ++ bound) introduced := .rfl

@[simp]
theorem introduces_of_nil : (Expr.of []).Introduces bound introduced ↔ bound.Nodup :=
  introduces_empty

@[simp]
theorem introduces_of_cons : (Expr.of (e :: rest)).Introduces bound introduced ↔
    e.Introduces bound introduced ∧ (Expr.of rest).Introduces bound introduced :=
  introduces_seq

/-- What introduces nothing may stand where something is introduced. -/
theorem Nests.introduces (h : e.Nests bound) : e.Introduces bound introduced := by
  induction e generalizing bound with
  | seq a b iha ihb => exact introduces_seq.mpr ((introduces_seq.mp h).imp iha ihb)
  | closure params body ih => exact ih (introduces_closure.mp h)
  | empty | plain _ | quoted _ | var _ | field _ | item _ _ | convert _ _ | timestamp _ =>
      refine List.forall_mem_singleton.mpr ?_
      obtain ⟨hdistinct, hclosed⟩ := List.forall_mem_singleton.mp h
      refine ⟨hdistinct, fun name hname hnested => ?_⟩
      exact (hclosed name hname hnested).imp_right fun h => absurd h.1 List.not_mem_nil

/-- Every place is on a way, so the names around it are distinct. -/
theorem Introduces.nodup (h : e.Introduces bound introduced) : bound.Nodup := by
  induction e generalizing bound with
  | seq a b iha ihb => exact iha (introduces_seq.mp h).1
  | closure params body ih => exact (List.nodup_append.mp (ih (introduces_closure.mp h))).2.1
  | empty | plain _ | quoted _ | var _ | field _ | item _ _ | convert _ _ | timestamp _ =>
      exact (List.forall_mem_singleton.mp h).distinct

end Expr

/-! ## Patterns -/

namespace Pattern

/-- The words of a pair are those of its parts. -/
theorem plainVariables_pair (a b : Pattern) : plainVariables (pair a b).text =
    "" :: (plainVariables a.text ++ "" :: (plainVariables b.text ++ [""])) := by
  have htext : (pair a b).text.toList =
      [] ++ '(' :: (a.text.toList ++ ',' :: ([] ++ ' ' :: (b.text.toList ++ ')' :: []))) := by
    simp [text]
  rw [plainVariables, htext, Text.splitAt_append_cut (by decide),
    Text.splitAt_append_cut (by decide), Text.splitAt_append_cut (by decide),
    Text.splitAt_append_cut (by decide)]
  simp [plainVariables, Text.splitAt]

/-- The names of a nested level that stand in a pattern are bound by it. -/
theorem mem_names_of_word (p : Pattern) (hp : ∀ name ∈ p.names, IsNested name) :
    ∀ word ∈ plainVariables p.text, IsNested word → word ∈ p.names := by
  intro word hword hnested
  induction p with
  | var name =>
      rw [text, (hp name (List.mem_singleton_self name)).plainVariables] at hword
      exact hword
  | any =>
      obtain rfl : word = "_" := List.mem_singleton.mp hword
      exact absurd hnested (not_isNested (by decide))
  | pair a b iha ihb =>
      obtain ⟨ha, hb⟩ := List.forall_mem_append.mp hp
      have hne : word ≠ "" := by
        rintro rfl
        exact not_isNested (by decide) hnested
      rw [plainVariables_pair] at hword
      simp only [List.mem_cons, List.mem_append, hne, List.not_mem_nil, false_or,
        or_false] at hword
      rcases hword with hword | hword
      · exact List.mem_append_left _ (iha ha hword)
      · exact List.mem_append_right _ (ihb hb hword)

/-- A pattern may be written where it binds its names. -/
theorem introduces_text {p : Pattern} (hp : ∀ name ∈ p.names, IsNested name)
    (hbound : bound.Nodup) : (Expr.plain p.text).Introduces bound p.names := by
  refine List.forall_mem_singleton.mpr ⟨hbound, fun name hname hnested => .inr ⟨?_, p.text, rfl⟩⟩
  exact p.mem_names_of_word hp name hname hnested

end Pattern

/-! ## Code -/

namespace Code

variable {a b c body : Code} {e head : Expr} {binds : List String} {close : String}

@[simp]
theorem nests_empty : empty.Nests bound := nofun

@[simp]
theorem nests_seq : (seq a b).Nests bound ↔ a.Nests bound ∧ b.Nests (a.binds ++ bound) :=
  List.forall_mem_append

@[simp]
theorem nests_append : (a ++ b).Nests bound ↔ a.Nests bound ∧ b.Nests (a.binds ++ bound) :=
  nests_seq

@[simp]
theorem nests_line : (line e).Nests bound ↔ e.Nests bound := .rfl

@[simp]
theorem nests_bind : (bind name e).Nests bound ↔ e.Nests bound := .rfl

@[simp]
theorem nests_block : (block head binds body close).Nests bound ↔
    head.Introduces bound binds ∧ body.Nests (binds ++ bound) :=
  List.forall_mem_append

@[simp]
theorem nests_all_nil : (all []).Nests bound := nests_empty

@[simp]
theorem nests_all_cons {rest : List Code} : (all (c :: rest)).Nests bound ↔
    c.Nests bound ∧ (all rest).Nests (c.binds ++ bound) :=
  nests_seq

theorem nests_when {condition : Bool} (h : c.Nests bound) : (when condition c).Nests bound := by
  cases condition with
  | false => exact nests_empty
  | true => exact h

theorem binds_when_braces {condition : Bool} : (when condition (braces head body)).binds = [] := by
  cases condition <;> rfl

theorem nests_braces (hhead : head.Nests bound) (hbody : body.Nests bound) :
    (braces head body).Nests bound := by
  rw [braces, nests_block, Expr.introduces_append, Expr.introduces_plain (by decide)]
  exact ⟨⟨hhead, hhead.nodup⟩, hbody⟩

theorem nests_forEach {pattern : Pattern} {subject : Expr}
    (hpattern : ∀ name ∈ pattern.names, IsNested name) (hsubject : subject.Nests bound)
    (hbody : body.Nests (pattern.names ++ bound)) :
    (forEach pattern subject body).Nests bound := by
  have hbound := hsubject.nodup
  rw [forEach, nests_block]
  refine ⟨?_, hbody⟩
  simp +decide [hbound, hsubject.introduces, Pattern.introduces_text hpattern hbound]

end Code

/-! ## Emitters -/

namespace Request

theorem nests_textOf (h : Enclosing depth bound) (hname : name ∈ bound) :
    Yields (Expr.Nests bound) (textOf v name format) := by
  unfold textOf
  split
  next k s =>
    have hdistinct := h.distinct
    refine meets_ok ?_
    unfold scalarText
    split <;> simp +decide [hdistinct, hname]
  all_goals exact meets_error trivial

theorem JsonBody.nests_value (h : Enclosing depth bound) (hname : name ∈ bound) :
    Yields (Expr.Nests bound) (JsonBody.value b v name format depth) := by
  induction v generalizing name format depth bound with
  | «structure» k s =>
      have hdistinct := h.distinct
      exact meets_ok (by simp +decide [hdistinct, hname])
  | scalar k s =>
      have hdistinct := h.distinct
      refine meets_ok ?_
      unfold scalar
      split
      · simp +decide [hdistinct, hname]
      · split <;> simp +decide [hdistinct, hname]
  | list k l item ih =>
      have hnext := h.push_item
      have hdistinct := And.intro h.distinct hnext.distinct
      rw [JsonBody.value]
      refine meets_bind (ih hnext List.mem_cons_self) fun inner hinner => meets_pure ?_
      simp +decide [-List.nodup_cons, Pattern.names, hname, hdistinct, hinner]
  | map k m keys values _ ih =>
      have hnext := h.push_entry
      have hdistinct := And.intro h.distinct hnext.distinct
      rw [JsonBody.value]
      refine meets_bind (ih hnext (by simp)) fun inner hinner => meets_pure ?_
      simp +decide [-List.nodup_cons, Pattern.names, hname, hdistinct, hinner]
  | unknown k | endless k => exact meets_error trivial

theorem QueryBody.nests_value {key : Expr} {flattened : Bool} (h : Enclosing depth bound)
    (hname : name ∈ bound) (hkey : key.Nests bound) :
    Yields (Code.Nests bound) (QueryBody.value b v name key flattened format depth) := by
  induction v generalizing name key flattened format depth bound with
  | «structure» k s =>
      have hdistinct := h.distinct
      exact meets_ok (by simp +decide [hdistinct, hname, hkey])
  | scalar k s =>
      have hdistinct := h.distinct
      rw [QueryBody.value]
      refine meets_bind (nests_textOf h hname) fun text htext => meets_pure ?_
      simp +decide [hdistinct, hkey, htext]
  | list k l item ih =>
      have haround : (localName "prefix" depth :: bound).Nodup :=
        List.nodup_cons.mpr ⟨h.fresh (by decide), h.distinct⟩
      have hnext : Enclosing (depth + 1)
          (localName "index" depth :: localName "item" depth ::
            localName "prefix" depth :: bound) :=
        h.push ["index", "item", "prefix"] (by decide) (by decide)
      have hdistinct := And.intro haround hnext.distinct
      have hpattern : ∀ x ∈ (Pattern.pair (localName "index" depth) (localName "item" depth)).names,
          IsNested x := by simp +decide [Pattern.names, isNested_localName]
      rw [QueryBody.value]
      -- The key of an item is made of names of this level, and it is written where the next
      -- level wants it.
      refine meets_bind (ih hnext (by simp) ?_) fun inner hinner => meets_pure ?_
      · simp +decide [-List.nodup_cons, numberedKey, hdistinct]
      rw [Code.nests_all_cons, Code.nests_all_cons, Code.binds_when_braces, Code.nests_all_cons]
      refine ⟨hkey, Code.nests_when (Code.nests_braces ?_ ?_), ?_, Code.nests_all_nil⟩
      · simp +decide [-List.nodup_cons, Code.binds, hname, hdistinct]
      · simp +decide [-List.nodup_cons, Code.binds, hdistinct]
      · refine Code.nests_forEach hpattern ?_ hinner
        simp +decide [-List.nodup_cons, Code.binds, hname, hdistinct]
  | map k m keys values _ ih =>
      have haround : (localName "prefix" depth :: bound).Nodup :=
        List.nodup_cons.mpr ⟨h.fresh (by decide), h.distinct⟩
      have hpattern : ∀ x ∈ (Pattern.pair (localName "index" depth)
            (.pair (localName "key" depth) (localName "item" depth))).names, IsNested x := by
        simp +decide [Pattern.names, isNested_localName]
      have hnext : Enclosing (depth + 1)
          (localName "entry" depth :: localName "index" depth :: localName "key" depth ::
            localName "item" depth :: localName "prefix" depth :: bound) :=
        h.push ["entry", "index", "key", "item", "prefix"] (by decide) (by decide)
      have hloop := hnext.distinct.of_cons
      have hdistinct := And.intro haround (And.intro hloop hnext.distinct)
      rw [QueryBody.value]
      refine meets_bind (ih hnext (by simp) ?_) fun inner hinner => meets_pure ?_
      · simp +decide [-List.nodup_cons, namedKey, hdistinct]
      rw [Code.nests_all_cons, Code.nests_all_cons]
      refine ⟨hkey, Code.nests_forEach hpattern ?_ ?_, Code.nests_all_nil⟩
      · simp +decide [-List.nodup_cons, Code.binds, hname, hdistinct]
      rw [Code.nests_all_cons, Code.nests_all_cons, Code.nests_all_cons]
      refine ⟨?_, ?_, hinner, Code.nests_all_nil⟩
      · simp +decide [-List.nodup_cons, Code.binds, Pattern.names, numberedKey, hdistinct]
      · simp +decide [-List.nodup_cons, Code.binds, Pattern.names, namedKey, hdistinct]
  | unknown k | endless k => exact meets_error trivial

/-- The key of a member is made outside, before any level. -/
theorem QueryBody.nests_member {around : String} (haround : isOuter around = true) :
    Yields (Code.Nests []) (QueryBody.member b around m) := by
  have hvalue : Enclosing 0 ["value"] := enclosing_singleton_iff.mpr (.inl rfl)
  refine yields_bind fun key => meets_bind (nests_value hvalue (List.mem_singleton_self _) ?_) ?_
  · simp +decide [namedKey, haround]
  · intro inner hinner
    refine meets_pure (Code.nests_block.mpr ⟨?_, hinner⟩)
    simp +decide [not_isNested]

theorem XmlBody.nests_push {text : String} : (push text).Nests bound ↔ bound.Nodup := by
  simp +decide [push]

theorem XmlBody.nests_tagged {tag : String} {c : Code} (hdistinct : bound.Nodup)
    (hc : c.binds = [] ∧ c.Nests bound) :
    (tagged tag c).binds = [] ∧ (tagged tag c).Nests bound := by
  obtain ⟨hbinds, hc⟩ := hc
  constructor
  · simp [tagged, Code.all, Code.binds, push, hbinds]
  · simp only [tagged, Code.nests_all_cons, nests_push, Code.nests_all_nil, and_true, hbinds]
    exact ⟨hdistinct, hc, hdistinct⟩

/-- It binds nothing for what comes after it, so what follows is in the same scope. -/
theorem XmlBody.nests_value {element : Element} (h : Enclosing depth bound)
    (hname : name ∈ bound) : Yields (fun c => c.binds = [] ∧ c.Nests bound)
      (XmlBody.value b v name element format depth) := by
  induction v generalizing name element format depth bound with
  | «structure» k s =>
      have hdistinct := h.distinct
      refine meets_ok ⟨rfl, ?_⟩
      unfold namespaceArgument
      split <;> simp +decide [hdistinct, hname]
  | scalar k s =>
      have hdistinct := h.distinct
      rw [XmlBody.value]
      refine meets_bind (nests_textOf h hname) fun text htext => meets_pure ⟨rfl, ?_⟩
      simp +decide [hdistinct, htext]
  | list k l item ih =>
      have hnext := h.push_item
      have hdistinct := h.distinct
      rw [XmlBody.value]
      refine meets_bind (ih hnext List.mem_cons_self) fun inner hinner => meets_pure ?_
      have hloop : (Code.forEach (localName "item" depth) (.of [.var name, ".iter()"])
          inner).Nests bound := by
        refine Code.nests_forEach ?_ (by simp +decide [hdistinct, hname]) hinner.2
        simp +decide [Pattern.names, isNested_localName]
      split
      · exact ⟨rfl, hloop⟩
      · exact nests_tagged hdistinct ⟨rfl, hloop⟩
  | map k m keys values _ ih =>
      have hnext := h.push_entry
      have hdistinct := And.intro h.distinct hnext.distinct
      rw [XmlBody.value]
      refine meets_bind (ih hnext (by simp)) fun inner hinner => meets_pure ?_
      have hloop : ∀ tag keyTag, (Code.forEach (.pair (localName "key" depth)
          (localName "item" depth)) (.of [.var name, ".iter()"]) (tagged tag
            (.line (.of ["runtime::xml_element(out, ", .quoted keyTag, ", ",
              .var (localName "key" depth), ");"]) ++ inner))).Nests bound := by
        intro tag keyTag
        refine Code.nests_forEach ?_ (by simp +decide [hdistinct, hname])
          (nests_tagged hdistinct.2 ⟨?_, ?_⟩).2
        · simp +decide [Pattern.names, isNested_localName]
        · exact (List.append_nil _).trans hinner.1
        · refine Code.nests_append.mpr ⟨?_, hinner.2⟩
          simp +decide [-List.nodup_cons, hdistinct]
      split
      · exact ⟨rfl, hloop _ _⟩
      · exact nests_tagged hdistinct.1 ⟨rfl, hloop _ _⟩
  | unknown k | endless k => exact meets_error trivial

end Request

namespace Response

theorem JsonBody.nests_value (h : Enclosing depth bound) (hname : name ∈ bound) :
    Yields (Expr.Nests bound) (JsonBody.value b v name format depth) := by
  induction v generalizing name format depth bound with
  | «structure» k s =>
      have hdistinct := h.distinct
      exact meets_ok (by simp +decide [Blueprint.typeItem, hdistinct, hname])
  | scalar k s =>
      have hdistinct := h.distinct
      refine meets_ok ?_
      unfold scalar
      split
      · simp +decide [fromText, Blueprint.typeItem, hdistinct, hname]
      · split <;> simp +decide [hdistinct, hname]
  | list k l item ih =>
      have hnext : Enclosing (depth + 1)
          (localName "item" depth :: localName "items" depth :: bound) :=
        h.push ["item", "items"] (by decide) (by decide)
      have hitems := hnext.distinct.of_cons
      have hdistinct := And.intro h.distinct (And.intro hitems hnext.distinct)
      rw [JsonBody.value]
      refine meets_bind (ih hnext List.mem_cons_self) fun inner hinner => meets_pure ?_
      simp +decide [-List.nodup_cons, Pattern.names, hname, hdistinct, hinner]
  | map k m keys values _ ih =>
      have hnext : Enclosing (depth + 1) (localName "key" depth :: localName "item" depth ::
          localName "entries" depth :: bound) :=
        h.push ["key", "item", "entries"] (by decide) (by decide)
      have hparsed := List.nodup_cons.mpr ⟨hnext.parsed, hnext.distinct⟩
      have hitem := hnext.distinct.of_cons
      have hentries := hitem.of_cons
      have hdistinct := And.intro h.distinct (And.intro hentries (And.intro hitem
        (And.intro hnext.distinct hparsed)))
      rw [JsonBody.value]
      refine meets_bind (ih hnext (by simp)) fun inner hinner => meets_pure ?_
      simp +decide [-List.nodup_cons, Pattern.names, hname, hdistinct, hinner]
  | unknown k | endless k => exact meets_error trivial

/-- The names of a map are bound around what reads an entry of it. -/
theorem XmlBody.nests_entry {t : MapShape} {inner : Expr} (h : Enclosing depth bound)
    (hinner : inner.Nests (localName "key" depth :: localName "item" depth ::
      localName "entry" depth :: bound)) :
    (entry t (localName "entry" depth) (localName "key" depth) (localName "item" depth)
      inner).Nests (localName "entry" depth :: bound) := by
  have hnext := h.push_element
  have hparsed := List.nodup_cons.mpr ⟨hnext.parsed, hnext.distinct⟩
  have hentry := hnext.distinct.of_cons.of_cons
  have hdistinct := And.intro hentry (And.intro hnext.distinct hparsed)
  simp +decide [-List.nodup_cons, entry, Pattern.names, hdistinct, hinner]

theorem XmlBody.nests_value (h : Enclosing depth bound) (hname : name ∈ bound) :
    Yields (Expr.Nests bound) (XmlBody.value b v name format depth) := by
  induction v generalizing name format depth bound with
  | «structure» k s =>
      have hdistinct := h.distinct
      exact meets_ok (by simp +decide [Blueprint.typeItem, hdistinct, hname])
  | scalar k s =>
      have hdistinct := h.distinct
      refine meets_ok ?_
      unfold scalar
      split
      · simp +decide [fromText, Blueprint.typeItem, hdistinct, hname]
      · split <;> simp +decide [hdistinct, hname]
  | list k l item ih =>
      have hnext := h.push_item
      have hdistinct := And.intro h.distinct hnext.distinct
      rw [XmlBody.value]
      refine meets_bind (ih hnext List.mem_cons_self) fun inner hinner => meets_pure ?_
      simp +decide [-List.nodup_cons, Pattern.names, hname, hdistinct, hinner]
  | map k m keys values _ ih =>
      have hnext := h.push_element
      have hdistinct := h.distinct
      rw [XmlBody.value]
      refine meets_bind (ih hnext (by simp)) fun inner hinner => meets_pure ?_
      have hentry := nests_entry (t := m) h hinner
      simp +decide [-List.nodup_cons, Pattern.names, hname, hdistinct, hentry]
  | unknown k | endless k => exact meets_error trivial

theorem nests_boxing {owner : StructureShape} :
    (boxing b owner m).Nests bound ↔ bound.Nodup := by
  unfold boxing
  split <;> simp +decide

theorem nests_textOf (h : Enclosing depth bound) (hname : name ∈ bound) :
    Yields (Expr.Nests bound) (textOf b v name format) := by
  unfold textOf
  split
  next k s =>
    have hdistinct := h.distinct
    refine meets_ok ?_
    unfold scalarFromText
    split
    · simp +decide [fromText, Blueprint.typeItem, hdistinct, hname]
    · split <;> simp +decide [hdistinct, hname]
  all_goals exact meets_error trivial

/-- A flattened list or map is on the outermost level itself, and what it holds is on the next. -/
theorem XmlBody.nests_member {owner : StructureShape} {node : String} (hnode : ¬ IsNested node) :
    Yields (Expr.Nests []) (XmlBody.member b owner m node) := by
  have hvalue : Enclosing 0 ["value"] := enclosing_singleton_iff.mpr (.inl rfl)
  have hnested : Yields (Expr.Nests []) (do
      let inner ← value b (b.value m.shape) "value" (b.memberFormat m) 0
      return .of ["runtime::xml::child(", .var node, ", ", .quoted m.wireName, ").map(",
        .closure "value" (.of [inner, boxing b owner m]), ").transpose()?"]) := by
    refine meets_bind (nests_value hvalue (List.mem_singleton_self _)) fun inner hinner => ?_
    refine meets_pure ?_
    simp +decide [Pattern.names, nests_boxing, hnode, hinner]
  rw [member]
  split
  · refine meets_bind (nests_textOf hvalue (List.mem_singleton_self _)) fun inner hinner => ?_
    refine meets_pure ?_
    simp +decide [Pattern.names, hnode, hinner]
  · split
    next k l item _ =>
      split
      · have hnext := enclosing_nil.push_item
        refine meets_bind (nests_value hnext List.mem_cons_self) fun inner hinner => meets_pure ?_
        simp +decide [Pattern.names, hnode, hinner]
      · exact hnested
    next k t keys values _ =>
      split
      · have hnext := enclosing_nil.push_element
        refine meets_bind (nests_value hnext (by decide)) fun inner hinner => meets_pure ?_
        have hentry := nests_entry (t := t) enclosing_nil hinner
        simp +decide [Pattern.names, hnode, hentry]
      · exact hnested
    next => exact hnested

end Response

/-! ## All of them -/

/-- What the emitters write for a value on some level is sound, be it a value that is written or
one that is read. -/
structure NestsOn (b : Blueprint) (v : ValueShape) (name : String) (format : TimestampFormat)
    (depth : Nat) (bound : List String) : Prop where
  toJson : Yields (Expr.Nests bound) (Request.JsonBody.value b v name format depth)
  toQuery : ∀ key flattened, key.Nests bound →
    Yields (Code.Nests bound) (Request.QueryBody.value b v name key flattened format depth)
  toXml : ∀ element,
    Yields (Code.Nests bound) (Request.XmlBody.value b v name element format depth)
  ofJson : Yields (Expr.Nests bound) (Response.JsonBody.value b v name format depth)
  ofXml : Yields (Expr.Nests bound) (Response.XmlBody.value b v name format depth)

/-- Code for nested values binds no name twice on a way down, and uses no name of a nested level
that is not bound on the way. A value may be on any level, under a name that is around it. A
member is outside all levels, also where the list or map in it is flattened. -/
theorem nested_names_bound_once (b : Blueprint) (v : ValueShape) (format : TimestampFormat)
    (m : Member) (h : Enclosing depth bound) (hname : name ∈ bound) :
    NestsOn b v name format depth bound ∧
    (∀ around, isOuter around = true →
      Yields (Code.Nests []) (Request.QueryBody.member b around m)) ∧
    ∀ owner node, ¬ IsNested node →
      Yields (Expr.Nests []) (Response.XmlBody.member b owner m node) where
  left :=
    { toJson := Request.JsonBody.nests_value h hname
      toQuery := fun _ _ hkey => Request.QueryBody.nests_value h hname hkey
      toXml := fun _ => meets_mono (Request.XmlBody.nests_value h hname) fun _ hc => hc.2
      ofJson := Response.JsonBody.nests_value h hname
      ofXml := Response.XmlBody.nests_value h hname }
  right := ⟨fun _ haround => Request.QueryBody.nests_member haround,
    fun _ _ hnode => Response.XmlBody.nests_member hnode⟩

/-! Maps of lists of lists, on the second level. -/

/-- The service of an attic. -/
def attic : Blueprint where
  service := {
    name := "attic"
    metadata := ⟨"2020-02-29", "attic", "Attic", "Attic", .query, none, none, none, none, none⟩
    documentation := none
    operations := .empty
    shapes := .empty
    paginators := .empty
    waiters := .empty }
  usage := ⟨[], [], [], []⟩
  names := []
  boxed := []

/-- What lies in the attic. -/
def atticItem : ValueShape := .scalar "Text" ⟨"Text", .string, [], none, false, false, none⟩

/-- The boxes of the attic by their marks, row by row. -/
def atticBoxes : ValueShape :=
  .map "Boxes" ⟨"Boxes", ⟨"Text", none⟩, ⟨"Rows", none⟩, false, none⟩ atticItem <|
    .list "Rows" ⟨"Rows", ⟨"Row", none⟩, false, none⟩ <|
      .list "Row" ⟨"Row", ⟨"Text", none⟩, false, none⟩ atticItem

/-- Whose boxes they are. -/
def atticMember : Member :=
  ⟨"Boxes", "Boxes", false, .body, none, none, false, false, true, false, none, none, none, false⟩

theorem attic_names_bound_once :
    Enclosing 1 ["item0", "value"] ∧ "item0" ∈ ["item0", "value"] ∧
    NestsOn attic atticBoxes "item0" .iso8601 1 ["item0", "value"] ∧
    (∃ c, Request.QueryBody.value attic atticBoxes "item0" "prefix" false .iso8601 1 = .ok c ∧
      c.Nests ["item0", "value"]) ∧
    Yields (Code.Nests []) (Request.QueryBody.member attic "prefix" atticMember) ∧
    ∀ owner, Yields (Expr.Nests []) (Response.XmlBody.member attic owner atticMember "node") := by
  have hbound : Enclosing 1 ["item0", "value"] := by
    refine ⟨by decide, List.forall_mem_cons.mpr ⟨.inr ?_, List.forall_mem_singleton.mpr (.inl rfl)⟩⟩
    exact ⟨"item", List.mem_cons_self, 0, Nat.one_pos, rfl⟩
  have hname : "item0" ∈ ["item0", "value"] := List.mem_cons_self
  obtain ⟨hall, hquery, hxml⟩ :=
    nested_names_bound_once attic atticBoxes .iso8601 atticMember hbound hname
  have hkey : Expr.Nests ["item0", "value"] "prefix" :=
    (Expr.introduces_plain (by decide)).mpr hbound.distinct
  obtain ⟨c, hc⟩ : Succeeds (Request.QueryBody.value attic atticBoxes "item0" "prefix" false
    .iso8601 1) := ⟨_, rfl⟩
  exact ⟨hbound, hname, hall, ⟨c, hc, (hall.toQuery _ _ hkey).value hc⟩,
    hquery "prefix" (by decide), fun owner => hxml owner "node" (not_isNested (by decide))⟩

end Clientwright
