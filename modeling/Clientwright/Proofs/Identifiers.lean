import Clientwright.Crate.Pages
import Clientwright.Proofs.DistinctNames
import Clientwright.Proofs.Linked
import Clientwright.Proofs.SnakeCase

/-!
# Identifiers

A name of a definition may be empty, begin with a digit or be a keyword, and what is
made of it has to be an identifier all the same. Which texts are identifiers is said
here without the tables that the names are made with: a word is a letter or an
underscore with letters, digits and underscores behind it, and an identifier is a
word that the language does not keep for itself, or a raw word where it allows one.

There are two shapes of names and each of them is a word for a reason of its own. A
name in lower case begins with a letter or a digit, because no underscore stands at
its start; a digit gets a letter in front. A name of a type begins with a capital,
and so the only keyword it could be is `Self`. What is added behind a name, be it a
suffix or a number, leaves it a word, and none of it makes up a keyword.
-/

namespace Clientwright

open Text

variable {s t : List Char} {c : Char} {name base : String}

/-! ## Words and keywords -/

/-- The keywords that the language has, and those that it keeps for later. -/
def languageKeywords : List String :=
  ["abstract", "as", "async", "await", "become", "box", "break", "const", "continue", "crate", "do",
   "dyn", "else", "enum", "extern", "false", "final", "fn", "for", "gen", "if", "impl", "in", "let",
   "loop", "macro", "match", "mod", "move", "mut", "override", "priv", "pub", "ref", "return",
   "Self", "self", "static", "struct", "super", "trait", "true", "try", "type", "typeof", "unsafe",
   "unsized", "use", "virtual", "where", "while", "yield"]

/-- The keywords that lead somewhere in a path, which no mark makes an identifier. -/
def pathKeywords : List String := ["crate", "Self", "self", "super"]

/-- May the character begin a word? -/
def isWordStart (c : Char) : Bool := c.isAlpha || c = '_'

/-- May the character stand in a word? -/
def isWordPart (c : Char) : Bool := c.isAlphanum || c = '_'

/-- Is the text a word? An underscore alone is none. -/
def isWord (s : List Char) : Bool :=
  s.head?.any isWordStart && s.all isWordPart && decide (s ≠ ['_'])

/-- The text is an identifier as it is. -/
structure IsIdentifier (name : String) : Prop where
  word : isWord name.toList = true
  free : name ∉ languageKeywords

/-- The text is an identifier by its mark. -/
def IsRawIdentifier (name : String) : Prop :=
  ∃ word, name = "r#" ++ word ∧ isWord word.toList = true ∧ word ∉ pathKeywords

instance (name : String) : Decidable (IsIdentifier name) :=
  decidable_of_iff (isWord name.toList = true ∧ name ∉ languageKeywords)
    ⟨fun h => ⟨h.1, h.2⟩, fun h => ⟨h.word, h.free⟩⟩

theorem isWord_iff :
    isWord s = true ↔ s.head?.any isWordStart = true ∧ s.all isWordPart = true ∧ s ≠ ['_'] := by
  rw [isWord, Bool.and_eq_true, Bool.and_eq_true, decide_eq_true_eq, and_assoc]

/-- What is added behind a word leaves it a word. -/
theorem isWord_append (hs : isWord s = true) (ht : t.all isWordPart = true) :
    isWord (s ++ t) = true := by
  obtain ⟨hhead, hall, hne⟩ := isWord_iff.mp hs
  cases s with
  | nil => cases hhead
  | cons c s =>
      refine isWord_iff.mpr ⟨hhead, ?_, ?_⟩
      · rw [List.all_append, hall, ht, Bool.and_self]
      · intro heq
        obtain ⟨rfl, hrest⟩ := List.cons.inj heq
        rw [(List.append_eq_nil_iff.mp hrest).1] at hne
        exact hne rfl

/-- No keyword ends in a digit, so none is made up by a number. -/
theorem candidate_free (h : base ∉ languageKeywords) (n : Nat) :
    Naming.candidate base n ∉ languageKeywords :=
  Naming.candidate_not_mem (by decide) h n

theorem all_isWordPart_toString (n : Nat) : (toString n).toList.all isWordPart = true := by
  refine List.all_eq_true.mpr fun c hc => ?_
  rw [isWordPart, Char.isAlphanum, Naming.isDigit_of_mem_toString hc, Bool.or_true, Bool.true_or]

theorem IsIdentifier.candidate (h : IsIdentifier base) (n : Nat) :
    IsIdentifier (Naming.candidate base n) := by
  refine ⟨?_, candidate_free h.free n⟩
  cases n with
  | zero => exact h.word
  | succ n =>
      rw [Naming.candidate, String.toList_append]
      exact isWord_append h.word (all_isWordPart_toString _)

namespace Naming

/-! ## Names in lower case -/

theorem isWordPart_of_isSnake (h : isSnake c = true) : isWordPart c = true := by
  have hall : isSnake c = true → isWordPart c = true :=
    ascii_cases (lt_of_isSnake h) (by decide)
  exact hall h

theorem all_isWordPart_snake (h : IsAscii name.toList) :
    (snake name).toList.all isWordPart = true :=
  List.all_eq_true.mpr fun _ hc => isWordPart_of_isSnake (isSnake_of_mem_snake h hc)

/-- A name in lower case begins with the first letter or digit of the name. -/
theorem head?_snake (h : IsAscii name.toList) :
    (snake name).toList.head? = (name.toList.find? Char.isAlphanum).map Char.toLower := by
  rw [← List.head?_filter, ← List.head?_map, ← filter_snake h]
  cases hlist : (snake name).toList with
  | nil => rfl
  | cons c rest =>
      have hc : c ≠ '_' := by
        rintro rfl
        exact (underscores_snake name).1 (by rw [hlist]; rfl)
      rw [List.filter_cons, if_pos (decide_eq_true hc)]
      rfl

/-- It is a word unless it begins with a digit or there is nothing of it. -/
theorem isWord_snake (h : IsAscii name.toList)
    (hstart : (snake name).toList.head?.any isWordStart = true) :
    isWord (snake name).toList = true := by
  refine isWord_iff.mpr ⟨hstart, all_isWordPart_snake h, fun heq => ?_⟩
  exact (underscores_snake name).1 (by rw [heq]; rfl)

/-! ## Fields and methods -/

/-- The words of a name with a letter in front. -/
def lettered (words : String) : String :=
  if words.isEmpty then "value" else if startsWithDigit words then "v" ++ words else words

theorem fieldIdent_eq (name : String) : fieldIdent name =
    if reserved.contains (lettered (snake name)) then lettered (snake name) ++ "_value"
    else if keywords.contains (lettered (snake name)) then "r#" ++ lettered (snake name)
    else lettered (snake name) := rfl

theorem isWordStart_of_isSnake (h : isSnake c = true) (hdigit : c.isDigit = false) :
    isWordStart c = true := by
  have hall : isSnake c = true → c.isDigit = false → isWordStart c = true :=
    ascii_cases (lt_of_isSnake h) (by decide)
  exact hall h hdigit

theorem isWord_lettered (h : IsAscii name.toList) :
    isWord (lettered (snake name)).toList = true := by
  rw [lettered]
  split
  next => decide
  next hempty =>
    split
    next =>
      rw [String.toList_append]
      exact isWord_append (by decide) (all_isWordPart_snake h)
    next hdigit =>
      refine isWord_snake h ?_
      rw [startsWithDigit] at hdigit
      cases hlist : (snake name).toList with
      | nil =>
          rw [String.toList_eq_nil_iff] at hlist
          exact absurd (hlist ▸ rfl) hempty
      | cons c rest =>
          rw [hlist, List.head?_cons, Option.any_some, Bool.not_eq_true] at hdigit
          exact isWordStart_of_isSnake (isSnake_of_mem_snake h (hlist ▸ List.mem_cons_self)) hdigit

/-- Every keyword is escaped in one way or the other. -/
theorem mem_tables : ∀ word ∈ languageKeywords, word ∈ reserved ∨ word ∈ keywords := by decide

/-- The identifier of a field is raw where it would be a keyword, and where a raw one is not
allowed, it is no keyword any more. -/
theorem identifier_fieldIdent (h : IsAscii name.toList) :
    IsIdentifier (fieldIdent name) ∨ IsRawIdentifier (fieldIdent name) := by
  have hword := isWord_lettered h
  have hlengthened : ∀ word ∈ reserved, word ++ "_value" ∉ languageKeywords := by decide
  have hpath : ∀ word ∈ pathKeywords, word ∈ reserved := by decide
  rw [fieldIdent_eq]
  generalize lettered (snake name) = words at hword ⊢
  simp only [List.contains_iff_mem]
  split
  next hreserved =>
    refine .inl ⟨?_, hlengthened words hreserved⟩
    rw [String.toList_append]
    exact isWord_append hword (by decide)
  next hreserved =>
    split
    next => exact .inr ⟨words, rfl, hword, fun hmem => hreserved (hpath words hmem)⟩
    next hkeyword =>
      exact .inl ⟨hword, fun hmem => (mem_tables words hmem).elim hreserved hkeyword⟩

theorem identifier_setter (h : IsAscii name.toList) : IsIdentifier ("with_" ++ snake name) := by
  have hstart : ∀ keyword ∈ languageKeywords,
      keyword.toList.take "with_".toList.length ≠ "with_".toList := by decide
  refine ⟨?_, fun hmem => ne_append (hstart _ hmem) (snake name) rfl⟩
  rw [String.toList_append]
  exact isWord_append (by decide) (all_isWordPart_snake h)

theorem identifier_methodName {o : Operation} (h : IsAscii o.name.toList) :
    IsIdentifier (Crate.methodName o) ∨ IsRawIdentifier (Crate.methodName o) := by
  have hlengthened : ∀ name ∈ Crate.clientMethods, IsIdentifier (name ++ "_operation") := by
    decide
  dsimp only [Crate.methodName]
  split
  next hclient => exact .inl (hlengthened _ (List.contains_iff_mem.mp hclient))
  next => exact identifier_fieldIdent h

end Naming

/-! ## Names of types -/

/-- Is the text a capital with letters and digits behind it? -/
def isCapitalized (s : List Char) : Bool := s.head?.any Char.isUpper && s.all Char.isAlphanum

theorem isCapitalized_iff :
    isCapitalized s = true ↔ s.head?.any Char.isUpper = true ∧ s.all Char.isAlphanum = true := by
  rw [isCapitalized, Bool.and_eq_true]

theorem isCapitalized_append (hs : isCapitalized s = true) (ht : t.all Char.isAlphanum = true) :
    isCapitalized (s ++ t) = true := by
  obtain ⟨hhead, hall⟩ := isCapitalized_iff.mp hs
  cases s with
  | nil => cases hhead
  | cons c s =>
      refine isCapitalized_iff.mpr ⟨hhead, ?_⟩
      rw [List.all_append, hall, ht, Bool.and_self]

theorem isWord_of_isCapitalized (h : isCapitalized s = true) : isWord s = true := by
  obtain ⟨hhead, hall⟩ := isCapitalized_iff.mp h
  refine isWord_iff.mpr ⟨?_, ?_, ?_⟩
  · cases s with
    | nil => cases hhead
    | cons c s =>
        rw [List.head?_cons, Option.any_some] at hhead ⊢
        rw [isWordStart, Char.isAlpha, hhead, Bool.true_or, Bool.true_or]
  · refine List.all_eq_true.mpr fun c hc => ?_
    rw [isWordPart, List.all_eq_true.mp hall c hc, Bool.true_or]
  · rintro rfl
    cases hhead

/-- The only keyword with a capital is `Self`. -/
theorem identifier_of_isCapitalized (h : isCapitalized name.toList = true)
    (hself : name ≠ "Self") : IsIdentifier name := by
  have hcapital : ∀ keyword ∈ languageKeywords,
      keyword.toList.head?.any Char.isUpper = true → keyword = "Self" := by decide
  exact ⟨isWord_of_isCapitalized h,
    fun hmem => hself (hcapital name hmem (isCapitalized_iff.mp h).1)⟩

/-- A suffix that is longer than the keyword keeps away from it. -/
theorem identifier_append {suffix : String} (h : isCapitalized name.toList = true)
    (hsuffix : suffix.toList.all Char.isAlphanum = true) (hlength : 4 < suffix.length) :
    IsIdentifier (name ++ suffix) := by
  refine identifier_of_isCapitalized ?_ fun hself => ?_
  · rw [String.toList_append]
    exact isCapitalized_append h hsuffix
  · have hself := congrArg String.length hself
    rw [String.length_append, show "Self".length = 4 from rfl] at hself
    omega

namespace Text

theorem upperChar_of_ascii (h : c.toNat < 0x80) : upperChar c = [c.toUpper] := by
  rw [upperChar, if_pos h]

theorem isCapitalized_capitalize (h : IsAscii s) (hne : s ≠ [])
    (hall : s.all Char.isAlphanum = true)
    (hdigit : s.head?.any Char.isDigit = false) : isCapitalized (capitalize s) = true := by
  cases s with
  | nil => exact absurd rfl hne
  | cons c s =>
      obtain ⟨hc, hs⟩ := isAscii_cons.mp h
      have hupper : c.isAlphanum = true → c.isDigit = false →
          c.toUpper.isUpper = true ∧ c.toUpper.isAlphanum = true :=
        ascii_cases hc (by decide)
      rw [List.all_cons, Bool.and_eq_true] at hall
      obtain ⟨hcapital, hpart⟩ := hupper hall.1 hdigit
      rw [capitalize, upperChar_of_ascii hc, List.singleton_append]
      exact isCapitalized_iff.mpr ⟨hcapital, by rw [List.all_cons, hpart, hall.2, Bool.and_self]⟩

end Text

theorem Naming.isCapitalized_typeIdent (h : IsAscii name.toList) :
    isCapitalized (typeIdent name).toList = true := by
  have hascii : IsAscii (name.toList.filter isAlphanumeric) :=
    fun c hc => h c (List.mem_of_mem_filter hc)
  have hall : (name.toList.filter isAlphanumeric).all Char.isAlphanum = true := by
    refine List.all_eq_true.mpr fun c hc => ?_
    rw [← isAlphanumeric_of_ascii (hascii c hc)]
    exact (List.mem_filter.mp hc).2
  dsimp only [typeIdent]
  generalize name.toList.filter isAlphanumeric = letters at hascii hall ⊢
  split
  next =>
    rw [List.isEmpty_cons, if_neg Bool.false_ne_true, String.toList_ofList]
    refine isCapitalized_capitalize (isAscii_cons.mpr ⟨by decide, hascii⟩)
      (List.cons_ne_nil _ _) ?_ rfl
    rw [List.all_cons, hall]
    rfl
  next hdigit =>
    split
    next => decide
    next hne =>
      rw [String.toList_ofList]
      refine isCapitalized_capitalize hascii (fun hnil => hne (hnil ▸ rfl)) hall ?_
      rwa [Bool.not_eq_true] at hdigit

namespace TypeNames

theorem identifier_wantedTypeName (h : IsAscii name.toList) :
    IsIdentifier (wantedTypeName name) := by
  have hcapital := Naming.isCapitalized_typeIdent h
  dsimp only [wantedTypeName]
  split
  next => exact identifier_append hcapital (by decide) (by decide)
  next hprelude =>
    refine identifier_of_isCapitalized hcapital fun hself => hprelude ?_
    rw [hself]
    decide

theorem identifier_typeName {service : Service} {t : TypeNames}
    (hmem : (name, t) ∈ assign service) (h : IsAscii name.toList) : IsIdentifier t.typeName := by
  obtain ⟨⟨k, hk⟩, -⟩ := exists_candidates hmem
  rw [hk]
  exact (identifier_wantedTypeName h).candidate k

end TypeNames

/-! ## All names -/

/-- What becomes of a name on the client and in a structure is an identifier. -/
structure Naming.Usable (name : String) : Prop where
  field : IsIdentifier (fieldIdent name) ∨ IsRawIdentifier (fieldIdent name)
  method : ∀ o : Operation, o.name = name →
    IsIdentifier (Crate.methodName o) ∨ IsRawIdentifier (Crate.methodName o)
  setter : IsIdentifier ("with_" ++ snake name)
  /-- and these are the names that a field of a structure has -/
  member : ∀ b owner m f, m.name = name → Crate.Field.ofMember b owner m = .ok f →
    f.ident = fieldIdent name ∧ f.setter = "with_" ++ snake name

/-- The names of the types that are generated for a service are identifiers. -/
structure Service.TypesUsable (s : Service) : Prop where
  types : ∀ n t, (n, t) ∈ TypeNames.assign s → IsIdentifier t.typeName
  /-- and no structure and no enumerated text is without such a name -/
  named : ∀ n shape, s.shape? n = some shape → TypeNames.isGenerated shape = true →
    ∀ b : Blueprint, b.service = s → b.names = TypeNames.assign s → IsIdentifier (b.typeName n)
  inputs : ∀ o ∈ s.operations.values, IsIdentifier (Crate.inputType o)
  outputs : ∀ o ∈ s.operations.values, IsIdentifier (Crate.outputType o)
  pages : ∀ p : Crate.Pages, p.operation ∈ s.operations.values → IsIdentifier p.type

theorem Naming.usable_of_isAscii (h : IsAscii name.toList) : Usable name where
  field := identifier_fieldIdent h
  method _ ho := identifier_methodName (ho ▸ h)
  setter := identifier_setter h
  member b owner m f hm hf := by
    obtain ⟨valueType, -, hf⟩ := Outcome.bind_eq_ok.mp hf
    obtain rfl := Outcome.pure_eq_ok.mp hf
    subst hm
    constructor
    · with_reducible rfl
    · with_reducible rfl

theorem Service.typesUsable_of_isAscii {s : Service}
    (hshapes : ∀ n ∈ s.shapes.keys, IsAscii n.toList)
    (hoperations : ∀ o ∈ s.operations.values, IsAscii o.name.toList) : s.TypesUsable := by
  have htypes : ∀ n t, (n, t) ∈ TypeNames.assign s → IsIdentifier t.typeName := by
    intro n t hmem
    refine TypeNames.identifier_typeName hmem (hshapes n ?_)
    have hn : n ∈ TypeNames.generatedShapes s :=
      TypeNames.keys_assign s ▸ List.mem_map_of_mem (f := (·.1)) hmem
    exact (List.filter_sublist.map _).subset hn
  have hoperation : ∀ o ∈ s.operations.values,
      isCapitalized (Naming.typeIdent o.name).toList = true :=
    fun o ho => Naming.isCapitalized_typeIdent (hoperations o ho)
  refine ⟨htypes, fun n shape hshape hgenerated b hb hnames => ?_, fun o ho => ?_, fun o ho => ?_,
    fun p hp => ?_⟩
  · obtain ⟨t, hlookup, hmem⟩ :=
      TypeNames.exists_lookup_assign ((TypeNames.mem_generatedShapes_iff hshape).mpr hgenerated)
    rw [Blueprint.typeName, hnames, hlookup]
    exact htypes n t hmem
  · exact identifier_append (hoperation o ho) (by decide) (by decide)
  · exact identifier_append (hoperation o ho) (by decide) (by decide)
  · exact identifier_append (hoperation _ hp) (by decide) (by decide)

/-- Whatever the names of a definition are, as long as they are of ASCII: what is made of them
are identifiers. -/
theorem names_usable :
    (∀ name, IsAscii name.toList → Naming.Usable name) ∧
      ∀ s : Service, (∀ n ∈ s.shapes.keys, IsAscii n.toList) →
        (∀ o ∈ s.operations.values, IsAscii o.name.toList) → s.TypesUsable :=
  ⟨fun _ => Naming.usable_of_isAscii, fun _ => Service.typesUsable_of_isAscii⟩

/-- A grove with structures, all of them named as badly as can be. -/
def Definition.thicket (operations structures : List String) : Definition :=
  { Definition.grove operations with
    shapes := structures.map fun n => (n, ShapeEntry.bare "structure") }

/-- Two of the structures want the same name, and it is a keyword. -/
theorem names_usable_thicket :
    (∀ name ∈ ["", "***", "3DSecure", "Self", "Type"],
      IsAscii name.toList ∧ Naming.Usable name) ∧
    ∃ s, (Definition.thicket ["2FA", "Send"] ["Self", "self", "3D", "--"]).toService
        "thicket" = .ok s ∧
      (∀ n ∈ s.shapes.keys, IsAscii n.toList) ∧
      (∀ o ∈ s.operations.values, IsAscii o.name.toList) ∧
      (TypeNames.assign s).map (·.2.typeName) = ["Value", "V3D", "SelfValue", "SelfValue2"] ∧
      s.TypesUsable := by
  have hascii : ∀ name ∈ ["", "***", "3DSecure", "Self", "Type"], IsAscii name.toList := by decide
  have hservice : ((Definition.thicket ["2FA", "Send"] ["Self", "self", "3D", "--"]).toService
      "thicket").map (fun s => (decide (∀ n ∈ s.shapes.keys, IsAscii n.toList),
        decide (∀ o ∈ s.operations.values, IsAscii o.name.toList),
        (TypeNames.assign s).map (·.2.typeName))) =
      .ok (true, true, ["Value", "V3D", "SelfValue", "SelfValue2"]) := rfl
  obtain ⟨s, hs, hfacts⟩ := Outcome.map_eq_ok.mp hservice
  obtain ⟨hshapes, hoperations, htypes⟩ := Prod.mk.inj hfacts |>.imp_right Prod.mk.inj
  have hshapes := of_decide_eq_true hshapes
  have hoperations := of_decide_eq_true hoperations
  exact ⟨fun name h => ⟨hascii name h, names_usable.1 name (hascii name h)⟩,
    s, hs, hshapes, hoperations, htypes, names_usable.2 s hshapes hoperations⟩

end Clientwright
