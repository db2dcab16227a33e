import Clientwright.Crate.Enums
import Clientwright.Proofs.ItemFiles
import Clientwright.Proofs.NameSearches
import Clientwright.Proofs.PollRuns

/-!
# Enumerated texts lose nothing

A generated enumeration is made from a text by one match and turned into a text by
another, and both are written out arm by arm. A text that is known becomes its
variant and comes back as it was; a text that is not known is kept as it is.

Each match takes the first arm that fits, and the two are not about the same thing.
Of two equal values the first one counts when a text is read, and then it is the
variant of this one that is written again. Of two equal variants the first one would
count when a variant is written, and this one may stand for another text. So values
may be repeated as they please, and what everything hangs on is that the variants
are distinct, and that none of them is the one for texts that are not known.

The arms are read off the code of the file. What they mean is said of the arms alone.
-/

namespace Clientwright

/-- A value of an enumerated type. -/
inductive EnumValue where
  | known (variant : String)
  /-- a text for which there is no variant -/
  | unknown (text : String)
  deriving DecidableEq, Repr

/-! ## Reading arms -/

namespace Expr

/-- The text that an arm fits, and the variant that it leads to. -/
def textToVariant? (type : String) (e : Expr) : Option (String × String) :=
  match e.pieces with
  | [.quoted value, .plain " => ", .plain owner, .plain "::", .plain variant, .plain ","] =>
    if owner = type then some (value, variant) else none
  | _ => none

/-- The variant that an arm fits, and the text that it leads to. -/
def variantToText? (type : String) (e : Expr) : Option (String × String) :=
  match e.pieces with
  | [.plain owner, .plain "::", .plain variant, .plain " => ", .quoted value, .plain ","] =>
    if owner = type then some (variant, value) else none
  | _ => none

/-- The arm that fits every text and keeps it. -/
def keepsText (type : String) : Expr :=
  .plain ("other => " ++ type ++ "::Unknown(other.to_string()),")

/-- The arm that fits a text that was kept, and gives it back. -/
def givesText (type : String) : Expr := .plain (type ++ "::Unknown(value) => value.as_str(),")

/-- What the first arm that fits makes of a text; an arm of another form means nothing. -/
def valueOfArms? (type s : String) : List Expr → Option EnumValue
  | [] => none
  | arm :: rest =>
    if arm = keepsText type then some (.unknown s)
    else do
      let (value, variant) ← arm.textToVariant? type
      if value = s then return .known variant else valueOfArms? type s rest

/-- What the first arm that fits makes of a value. -/
def textOfArms? (type : String) (v : EnumValue) : List Expr → Option String
  | [] => none
  | arm :: rest =>
    if arm = givesText type then
      match v with
      | .unknown s => some s
      | .known _ => textOfArms? type v rest
    else do
      let (variant, value) ← arm.variantToText? type
      if v = .known variant then return value else textOfArms? type v rest

end Expr

namespace Code

/-- The lines of code that has nothing but lines. -/
def lineExprs? : Code → Option (List Expr)
  | empty => some []
  | seq a b => do return (← a.lineExprs?) ++ (← b.lineExprs?)
  | line e => some [e]
  | bind _ _ | block _ _ _ _ | branch _ _ _ => none

/-- The value of an enumerated type that its code makes of a text. -/
def valueOfText? (c : Code) (type s : String) : Option EnumValue := do
  let implementation ← c.bodyOf? ("impl From<&str> for " ++ type ++ " \x7b")
  let function ← implementation.bodyOf? "fn from(value: &str) -> Self \x7b"
  let arms ← (← function.bodyOf? "match value \x7b").lineExprs?
  Expr.valueOfArms? type s arms

/-- The text that the code of an enumerated type makes of a value. -/
def textOfValue? (c : Code) (type : String) (v : EnumValue) : Option String := do
  let implementation ← c.bodyOf? ("impl " ++ type ++ " \x7b")
  let function ← implementation.bodyOf? "pub fn as_str(&self) -> &str \x7b"
  let arms ← (← function.bodyOf? "match self \x7b").lineExprs?
  Expr.textOfArms? type v arms

theorem lineExprs?_all_map {α : Type} {f : α → Expr} {l : List α} :
    (all (l.map fun a => .line (f a))).lineExprs? = some (l.map f) := by
  induction l with
  | nil => rfl
  | cons a l ih =>
      show (do return [f a] ++ (← (all (l.map fun a => .line (f a))).lineExprs?)) = _
      rw [ih]
      rfl

end Code

namespace Crate

variable {type s : String} {values : List String} {all : List Variant}

/-! ## The arms of an enumeration -/

/-- The arm for the value of a variant. -/
def Variant.fromArm (type : String) (v : Variant) : Expr :=
  .of [.quoted v.value, " => ", type, "::", v.name, ","]

/-- The arm for the variant of a value. -/
def Variant.textArm (type : String) (v : Variant) : Expr :=
  .of [type, "::", v.name, " => ", .quoted v.value, ","]

/-- A text becomes the first variant that has it as its value. -/
theorem valueOfArms?_eq :
    Expr.valueOfArms? type s (all.map (Variant.fromArm type) ++ [Expr.keepsText type]) =
      some (((all.find? fun v => v.value == s).map fun v => .known v.name).getD (.unknown s)) := by
  induction all with
  | nil => simp [Expr.valueOfArms?]
  | cons v all ih =>
      have harm : (v.fromArm type).textToVariant? type = some (v.value, v.name) := by
        simp [Expr.textToVariant?, Variant.fromArm]
      rw [List.map_cons, List.cons_append, Expr.valueOfArms?, if_neg nofun, harm, ih,
        List.find?_cons]
      by_cases h : v.value = s
      · simp [h]
      · simp [h, beq_false_of_ne h]

/-- A variant becomes the value of the first one of its name. -/
theorem textOfArms?_known {name : String} :
    Expr.textOfArms? type (.known name) (all.map (Variant.textArm type) ++ [Expr.givesText type]) =
      (all.find? fun v => v.name == name).map (·.value) := by
  induction all with
  | nil => simp [Expr.textOfArms?]
  | cons v all ih =>
      have harm : (v.textArm type).variantToText? type = some (v.name, v.value) := by
        simp [Expr.variantToText?, Variant.textArm]
      rw [List.map_cons, List.cons_append, Expr.textOfArms?, if_neg nofun, harm, ih,
        List.find?_cons]
      by_cases h : v.name = name
      · simp [h]
      · simp [Ne.symm h, beq_false_of_ne h]

/-- A text that was kept is given back. -/
theorem textOfArms?_unknown :
    Expr.textOfArms? type (.unknown s) (all.map (Variant.textArm type) ++ [Expr.givesText type]) =
      some s := by
  induction all with
  | nil => simp [Expr.textOfArms?]
  | cons v all ih =>
      have harm : (v.textArm type).variantToText? type = some (v.name, v.value) := by
        simp [Expr.variantToText?, Variant.textArm]
      rw [List.map_cons, List.cons_append, Expr.textOfArms?, if_neg nofun, harm, ih]
      rfl

theorem lineExprs?_arms {f : Variant → Expr} {last : Expr} :
    (Code.all [Code.all (all.map fun v => .line (f v)), .line last]).lineExprs? =
      some (all.map f ++ [last]) := by
  show (do return (← (Code.all (all.map fun v => .line (f v))).lineExprs?) ++ [last]) = _
  rw [Code.lineExprs?_all_map]
  rfl

/-! ## The arms in the file -/

variable {doc : Option String}

@[simp]
theorem blocks_documented : (documented doc).blocks = [] := by
  have hnone (l : List String) : (Code.texts l).blocks = [] := by
    rw [Code.texts, Code.blocks_all, List.flatMap_map]
    exact List.flatMap_eq_nil_iff.mpr fun _ _ => rfl
  cases doc with
  | none => rfl
  | some html => exact hnone _

theorem enumOpening_ne (keywords : String) :
    "pub enum " ++ type ++ " \x7b" ≠ "impl" ++ keywords ++ type ++ " \x7b" := by
  intro h
  simpa using congrArg (·.toList.head?) h

/-- The two matches are found by the openings of their blocks. -/
theorem valueOfText?_enumCode :
    (enumCode type doc all).valueOfText? type s =
      Expr.valueOfArms? type s (all.map (Variant.fromArm type) ++ [Expr.keepsText type]) := by
  have himpl : (enumCode type doc all).bodyOf? ("impl From<&str> for " ++ type ++ " \x7b") =
      some (.braces "fn from(value: &str) -> Self" <| .braces "match value" <| Code.all [
        Code.all (all.map fun v => .line (v.fromArm type)), .line (Expr.keepsText type)]) := by
    rw [enumCode, Code.bodyOf?_pass (by simp), Code.bodyOf?_pass (List.forall_mem_nil _),
      Code.bodyOf?_pass_braces, Code.bodyOf?_pass (List.forall_mem_nil _),
      Code.bodyOf?_pass_braces, Code.bodyOf?_pass (List.forall_mem_nil _)]
    · exact Code.bodyOf?_braces (opening_text _ _)
    · rw [opening_text]
      -- The two differ in their lengths, whatever the type is called.
      intro h
      have hlength := congrArg String.length h
      rw [String.length_append, String.length_append, String.length_append,
        String.length_append] at hlength
      exact absurd (Nat.add_right_cancel (Nat.add_right_cancel hlength)) (by decide)
    · rw [opening_text]
      exact enumOpening_ne " From<&str> for "
  rw [Code.valueOfText?, himpl]
  show ((Code.all [Code.all (all.map fun v => .line (v.fromArm type)),
    .line (Expr.keepsText type)]).lineExprs?).bind _ = _
  rw [lineExprs?_arms]
  rfl

theorem textOfValue?_enumCode {v : EnumValue} :
    (enumCode type doc all).textOfValue? type v =
      Expr.textOfArms? type v (all.map (Variant.textArm type) ++ [Expr.givesText type]) := by
  have himpl : (enumCode type doc all).bodyOf? ("impl " ++ type ++ " \x7b") =
      some (Code.all [
        .text "/// Value sent on the wire",
        .braces "pub fn as_str(&self) -> &str" <| .braces "match self" <| Code.all [
          Code.all (all.map fun v => .line (v.textArm type)), .line (Expr.givesText type)],
        .blank,
        .text "/// Every known value",
        .braces "pub fn values() -> &'static [&'static str]" <|
          .line (.of ["&[", .separated ", " (all.map fun v => .quoted v.value), "]"])]) := by
    rw [enumCode, Code.bodyOf?_pass (by simp), Code.bodyOf?_pass (List.forall_mem_nil _),
      Code.bodyOf?_pass_braces, Code.bodyOf?_pass (List.forall_mem_nil _)]
    · exact Code.bodyOf?_braces (opening_text _ _)
    · rw [opening_text]
      exact enumOpening_ne " "
  rw [Code.textOfValue?, himpl]
  show ((Code.all [Code.all (all.map fun v => .line (v.textArm type)),
    .line (Expr.givesText type)]).lineExprs?).bind _ = _
  rw [lineExprs?_arms]
  rfl

/-! ## There and back -/

theorem values_variants (values : List String) : (variants values).map (·.value) = values := by
  apply List.ext_getElem <;> simp [variants, Naming.length_uniqueAll]

theorem names_variants (values : List String) : (variants values).map (·.name) =
    Naming.uniqueAll [unknownVariant] (values.map wantedVariant) := by
  apply List.ext_getElem <;> simp [variants, Naming.length_uniqueAll]

/-- The first variant of its name is the variant itself. -/
theorem find?_name {v : Variant} (h : v ∈ variants values) :
    (variants values).find? (fun w => w.name == v.name) = some v := by
  have hdistinct : ((variants values).map (·.name)).Nodup :=
    names_variants values ▸ Naming.nodup_uniqueAll ..
  cases hfind : (variants values).find? fun w => w.name == v.name with
  | none => simpa using List.find?_eq_none.mp hfind v h
  | some w =>
      have hname : w.name = v.name := by simpa using List.find?_some hfind
      rw [List.inj_on_of_nodup_map hdistinct (List.mem_of_find?_eq_some hfind) h hname]

/-- The variants of an enumerated text, and what its code makes of texts with them. -/
structure Lossless (type : String) (values : List String) (all : List Variant) (c : Code) :
    Prop where
  /-- there is one for each value, in order -/
  complete : all.map (·.value) = values
  distinct : (all.map (·.name)).Nodup
  known : unknownVariant ∉ all.map (·.name)
  /-- the names are what searching without a bound comes to, from value to value -/
  searched : Naming.Searched [unknownVariant] (values.map wantedVariant) (all.map (·.name))
  /-- and there is no search that does not end, whatever is taken and wanted -/
  ends : ∀ used base, Acc (fun next n => Naming.Turn used base n next) 0
  /-- a text becomes the first variant for it, or is kept if there is none -/
  reads : ∀ s, c.valueOfText? type s =
    some (((all.find? fun v => v.value == s).map fun v => .known v.name).getD (.unknown s))
  /-- and comes back as it was -/
  returns : ∀ s, (c.valueOfText? type s).bind (c.textOfValue? type) = some s

theorem enumCode_lossless (type : String) (doc : Option String) (values : List String) :
    Lossless type values (variants values) (enumCode type doc (variants values)) where
  complete := values_variants values
  distinct := names_variants values ▸ Naming.nodup_uniqueAll ..
  known := names_variants values ▸ fun h =>
    Naming.not_mem_of_mem_uniqueAll h List.mem_cons_self
  searched := names_variants values ▸ Naming.searched_uniqueAll ..
  ends used base := Naming.acc_turn used base 0
  reads s := by
    rw [valueOfText?_enumCode, valueOfArms?_eq]
  returns s := by
    rw [valueOfText?_enumCode, valueOfArms?_eq, Option.bind_some, textOfValue?_enumCode]
    cases hfind : (variants values).find? fun v => v.value == s with
    | none => exact textOfArms?_unknown
    | some v =>
        have hvalue : v.value = s := by simpa using List.find?_some hfind
        show Expr.textOfArms? type (.known v.name) _ = some s
        rw [textOfArms?_known, find?_name (List.mem_of_find?_eq_some hfind), Option.map_some,
          hvalue]

/-- Values that collapse to one name, and one that is named like the rest of them. -/
example : (variants ["a b", "a-b", "", "Unknown", "ab"]).map (·.name) =
    ["AB", "AB2", "Empty", "UnknownValue", "Ab"] := by decide

end Crate

end Clientwright
