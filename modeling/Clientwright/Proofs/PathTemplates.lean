import Clientwright.Proofs.Outcomes
import Clientwright.Proofs.PathCuts
import Clientwright.Request.Path

/-!
# Templates of paths

The labels of a path are put in by a format string, and this is the path with a
mark for each of its placeholders. It is made by replacing the placeholders one
after the other, each where its text is first found. That the text is found at
the placeholder and not before it is seen from the braces. Before a placeholder
that is not closed by another there is no opening brace but those of marks, and a
mark is found as a placeholder only by the empty one, which is a mark itself.

The path is first cut at its placeholders (`PathCut`). Filling the places of its cut
with the placeholders gives the path, and filling them with marks the template.
-/

namespace Clientwright.Request

open Outcome

namespace PathCut

variable {cut : PathCut} {s t inner : List Char}

/-! ## Replacing placeholders one after the other -/

/-- The text of a placeholder is what stands in the path. -/
theorem text_ofInner (inner : List Char) :
    (Placeholder.ofInner inner).text = String.ofList (braced inner) := by
  apply String.toList_injective
  rw [Placeholder.ofInner, String.toList_ofList, braced]
  split
  next hplus =>
    obtain ⟨name, rfl⟩ := List.getLast?_eq_some_iff.mp hplus
    simp [Placeholder.text]
  next => simp [Placeholder.text]

/-- The braces that open in the text are those of marks. -/
inductive Marked : List Char → Prop where
  | nil : Marked []
  | cons {c : Char} {s : List Char} : c ≠ '\x7b' → Marked s → Marked (c :: s)
  | mark {s : List Char} : Marked s → Marked ('\x7b' :: '\x7d' :: s)

theorem Marked.append (hs : Marked s) (ht : Marked t) : Marked (s ++ t) := by
  induction hs with
  | nil => exact ht
  | cons hc _ ih => exact .cons hc ih
  | mark _ ih => exact .mark ih

theorem marked_of_not_mem (h : '\x7b' ∉ s) : Marked s := by
  induction s with
  | nil => exact .nil
  | cons c s ih =>
      rw [List.mem_cons, not_or] at h
      exact .cons (Ne.symm h.1) (ih h.2)

/-- A placeholder that is no mark is not found in the text with marks before it. -/
theorem cutAtWord?_marked (hs : Marked s) (hinner : '\x7d' ∉ inner) (hne : inner ≠ []) :
    Text.cutAtWord? (braced inner) (s ++ (braced inner ++ t)) = some (s, t) := by
  have hstart {c : Char} {s : List Char} (hc : c ≠ '\x7b') (rest : List Char) :
      c :: s ≠ braced inner ++ rest := fun h => hc (List.cons.inj h).1
  induction hs with
  | nil => exact Text.cutAtWord?_of_start (List.cons_ne_nil _ _)
  | cons hc _ ih => exact Text.cutAtWord?_of_cons (hstart hc) ih
  | mark _ ih =>
      refine Text.cutAtWord?_of_cons (fun rest h => ?_)
        (Text.cutAtWord?_of_cons (hstart (by decide)) ih)
      cases inner with
      | nil => exact hne rfl
      | cons d inner =>
          obtain ⟨rfl, -⟩ := List.cons.inj (List.cons.inj h).2
          exact hinner List.mem_cons_self

theorem replaceFirst_self (word s : String) : replaceFirst word word s = s := by
  rw [replaceFirst]
  split
  next before after h =>
    apply String.toList_injective
    rw [String.toList_append, String.toList_append, String.toList_ofList, String.toList_ofList,
      List.append_assoc, Text.cutAtWord?_eq_some h]
  next => rfl

/-- Replacing a placeholder after marks puts a mark in its place. -/
theorem replaceFirst_marked (hs : Marked s) (hinner : '\x7d' ∉ inner) :
    replaceFirst (Placeholder.ofInner inner).text "\x7b\x7d"
      (String.ofList (s ++ (braced inner ++ t))) = String.ofList (s ++ (mark ++ t)) := by
  rw [text_ofInner]
  by_cases hne : inner = []
  · subst hne
    exact replaceFirst_self _ _
  · rw [replaceFirst, String.toList_ofList, String.toList_ofList, cutAtWord?_marked hs hinner hne]
    apply String.toList_injective
    simp [mark]

/-- Replacing the placeholders one after the other fills the places with marks. -/
theorem foldl_replaceFirst (h : cut.Sound) (hs : Marked s) :
    cut.placeholders.foldl (fun template p => replaceFirst p.text "\x7b\x7d" template)
      (String.ofList (s ++ cut.filled braced)) = String.ofList (s ++ cut.filled fun _ => mark) := by
  obtain ⟨places, rest⟩ := cut
  induction places generalizing s with
  | nil => rfl
  | cons place places ih =>
      obtain ⟨hbefore, hinner, hsound⟩ := (sound_cons place ⟨places, rest⟩).mp h
      have hmarked : Marked (s ++ place.1) := hs.append (marked_of_not_mem hbefore)
      have hfirst : replaceFirst (Placeholder.ofInner place.2).text "\x7b\x7d"
          (String.ofList (s ++ filled braced ⟨place :: places, rest⟩)) =
            String.ofList (s ++ place.1 ++ mark ++ filled braced ⟨places, rest⟩) := by
        rw [show filled braced ⟨place :: places, rest⟩ = _ from
          filled_cons braced place ⟨places, rest⟩, ← List.append_assoc,
          replaceFirst_marked hmarked hinner, List.append_assoc (s ++ place.1)]
      have hmark : Marked mark := .mark .nil
      have hothers := ih (hmarked.append hmark) hsound
      show List.foldl _ (replaceFirst (Placeholder.ofInner place.2).text _ _)
        (placeholders ⟨places, rest⟩) = _
      rw [hfirst, hothers, show filled (fun _ => mark) ⟨place :: places, rest⟩ = _ from
        filled_cons (fun _ => mark) place ⟨places, rest⟩, List.append_assoc (s ++ place.1),
        List.append_assoc s]

end PathCut

theorem formatTemplate_filled {cut : PathCut} {path : String} (h : cut.Sound)
    (hpath : cut.filled PathCut.braced = path.toList) :
    formatTemplate path cut.placeholders = String.ofList (cut.filled fun _ => PathCut.mark) := by
  have hfold := PathCut.foldl_replaceFirst h .nil
  rw [List.nil_append, List.nil_append, hpath, String.ofList_toList] at hfold
  exact hfold

/-! ## Labels -/

variable {b : Blueprint} {o : Operation} {input : Option StructureShape} {index : Nat}
  {p : Placeholder} {places : List Placeholder} {m : Member} {label : Label} {all : List Label}
  {code : Code} {path : Expr}

section Meets

variable {R : Label → Prop} {Q : Code × Expr → Prop} {E : EmissionFault → Prop}

/-- What holds of the label of each placeholder holds of the labels of all. -/
theorem meets_labels
    (h : ∀ index, ∀ p ∈ places, Meets R E (Request.label b o input index p)) :
    Meets (fun all => ∀ label ∈ all, R label) E (labels b o input index places) := by
  induction places generalizing index with
  | nil => exact meets_ok nofun
  | cons p places ih =>
      have hothers : Meets _ E (labels b o input (index + 1) places) :=
        ih fun index p hp => h index p (List.mem_cons_of_mem _ hp)
      refine meets_bind (h index p List.mem_cons_self) fun first hfirst => ?_
      exact meets_bind hothers fun others hothers =>
        meets_pure (List.forall_mem_cons.mpr ⟨hfirst, hothers⟩)

/-- A path has no placeholders, or it is made from their labels. -/
theorem meets_pathOf
    (hlabel : ∀ index, ∀ p ∈ o.http.placeholders, Meets R E (Request.label b o input index p))
    (hnone : Q (.empty, .quoted o.http.path))
    (hsome : ∀ (template : String) (all : List Label), (∀ label ∈ all, R label) →
      Q (Code.all (all.map (·.statement)), .of ["format!(", .quoted template, ", ",
        .separated ", " (all.map (·.argument)), ")"])) : Meets Q E (pathOf b o input) := by
  rw [pathOf]
  generalize o.http.placeholders = places at hlabel ⊢
  split
  · exact meets_pure hnone
  · exact meets_bind (meets_labels hlabel) fun all hall => meets_pure (hsome _ all hall)

end Meets

/-- The member is the first of the structure that is bound to the placeholder. -/
def BindsFirst (t : StructureShape) (p : Placeholder) (m : Member) : Prop :=
  ∃ before after, t.members = before ++ m :: after ∧ m.location = .uri ∧ m.wireName = p.name ∧
    ∀ other ∈ before, other.location = .uri → other.wireName ≠ p.name

theorem boundMember?_eq_some :
    boundMember? input p = some m ↔ ∃ t, input = some t ∧ BindsFirst t p m := by
  rw [boundMember?, Option.bind_eq_some_iff]
  refine exists_congr fun t => and_congr_right fun _ => ?_
  rw [List.find?_eq_some_iff_append]
  constructor
  · rintro ⟨hm, before, after, hmembers, hbefore⟩
    obtain ⟨hlocation, hname⟩ := Bool.and_eq_true_iff.mp hm
    refine ⟨before, after, hmembers, of_decide_eq_true hlocation, of_decide_eq_true hname, ?_⟩
    intro other hother hlocation hname
    have hnone := hbefore other hother
    simp [hlocation, hname] at hnone
  · rintro ⟨before, after, hmembers, hlocation, hname, hbefore⟩
    refine ⟨by simp [hlocation, hname], before, after, hmembers, fun other hother => ?_⟩
    by_cases hlocation : other.location = .uri
    · simp [hbefore other hother hlocation]
    · simp [hlocation]

/-- The label of a placeholder: a variable that is bound to the member, and the variable
encoded as the scalar that the member is. -/
def IsLabel (b : Blueprint) (input : Option StructureShape) (index : Nat) (p : Placeholder)
    (label : Label) : Prop :=
  ∃ t m key s, input = some t ∧ BindsFirst t p m ∧ b.value m.shape = .scalar key s ∧
    label.statement = .bind (localName "label" index) (.of ["self.",
      .field (Naming.fieldIdent m.name),
      ".as_ref().ok_or(runtime::Error::MissingParameter \x7b shape: ",
      .quoted t.name, ", member: ", .quoted m.name, " \x7d)?"]) ∧
    label.argument = .of ["runtime::uri_encode(&",
      scalarText s.kind (localName "label" index) (b.memberFormat m), ", ",
      if p.greedy then "true" else "false", ")"]

theorem isLabel_of_label (h : Request.label b o input index p = .ok label) :
    IsLabel b input index p label := by
  rw [Request.label] at h
  split at h
  next m hm =>
    obtain ⟨t, rfl, hfirst⟩ := boundMember?_eq_some.mp hm
    obtain ⟨text, htext, h⟩ := bind_eq_ok.mp h
    obtain rfl := pure_eq_ok.mp h
    unfold textOf at htext
    split at htext
    next key s hvalue =>
      obtain rfl := Except.ok.inj htext
      exact ⟨t, m, key, s, rfl, hfirst, hvalue, rfl, rfl⟩
    next => cases htext
    next => cases htext
  next => cases h

/-- A placeholder has a label if a member is bound to it and holds a scalar. -/
theorem succeeds_label {key : String} {s : ScalarShape} (hm : boundMember? input p = some m)
    (hvalue : b.value m.shape = .scalar key s) : Succeeds (Request.label b o input index p) := by
  have htext : textOf (b.value m.shape) (localName "label" index) (b.memberFormat m) =
      .ok (scalarText s.kind (localName "label" index) (b.memberFormat m)) := by
    rw [hvalue]
    rfl
  rw [Request.label, hm]
  exact succeeds_bind.mpr ⟨_, htext, succeeds_ok _⟩

theorem succeeds_labels (h : ∀ p ∈ places, ∃ m key s, boundMember? input p = some m ∧
    b.value m.shape = .scalar key s) : Succeeds (labels b o input index places) := by
  induction places generalizing index with
  | nil => exact succeeds_ok []
  | cons p places ih =>
      obtain ⟨⟨m, key, s, hm, hvalue⟩, hplaces⟩ := List.forall_mem_cons.mp h
      obtain ⟨first, hfirst⟩ := succeeds_label hm hvalue
      obtain ⟨others, hothers⟩ := ih hplaces
      exact succeeds_bind.mpr ⟨first, hfirst, succeeds_bind.mpr ⟨others, hothers, succeeds_ok _⟩⟩

theorem succeeds_pathOf (h : ∀ p ∈ o.http.placeholders, ∃ m key s,
    boundMember? input p = some m ∧ b.value m.shape = .scalar key s) :
    Succeeds (pathOf b o input) := by
  rw [pathOf]
  split
  next => exact succeeds_ok _
  next =>
    obtain ⟨all, hall⟩ := succeeds_labels h
    exact succeeds_bind.mpr ⟨all, hall, succeeds_ok _⟩

/-- The labels are those of the placeholders, in their order. -/
theorem labels_eq_ok (h : labels b o input index places = .ok all) :
    all.length = places.length ∧ ∀ i p, places[i]? = some p →
      ∃ label, all[i]? = some label ∧ IsLabel b input (index + i) p label := by
  induction places generalizing index all with
  | nil =>
      obtain rfl := Except.ok.inj h
      exact ⟨rfl, nofun⟩
  | cons p places ih =>
      obtain ⟨first, hfirst, h⟩ := bind_eq_ok.mp h
      obtain ⟨others, hothers, h⟩ := bind_eq_ok.mp h
      obtain rfl := pure_eq_ok.mp h
      obtain ⟨hlength, hlabels⟩ := ih hothers
      refine ⟨congrArg (· + 1) hlength, fun i p' hp' => ?_⟩
      cases i with
      | zero =>
          obtain rfl : p = p' := Option.some.inj hp'
          exact ⟨first, rfl, isLabel_of_label hfirst⟩
      | succ i =>
          obtain ⟨label, hlabel, his⟩ := hlabels i p' hp'
          rw [Nat.add_right_comm] at his
          exact ⟨label, hlabel, his⟩

/-- The path of a request is a format string with an argument for each placeholder. The
path has one cut, and its placeholders are those of the operation. The format string is
the path with marks for them and nothing else changed, and the argument of a place is
the encoded label of its placeholder. -/
theorem pathOf_substitutes (hplaces : o.http.placeholders ≠ [])
    (h : pathOf b o input = .ok (code, path)) :
    ∃ cut : PathCut,
      (∀ other : PathCut,
        other.Sound ∧ other.filled PathCut.braced = o.http.path.toList ↔ other = cut) ∧
      cut.placeholders = o.http.placeholders ∧
      ∃ all : List Label, all.length = cut.placeholders.length ∧
        code = Code.all (all.map (·.statement)) ∧
        path = .of ["format!(", .quoted (String.ofList (cut.filled fun _ => PathCut.mark)), ", ",
          .separated ", " (all.map (·.argument)), ")"] ∧
        ∀ i p, cut.placeholders[i]? = some p →
          ∃ label, all[i]? = some label ∧ IsLabel b input i p label := by
  obtain ⟨cut, hunique, hplaceholders⟩ := PathCut.exists_unique o.http
  obtain ⟨hcut, hpath⟩ := (hunique cut).mpr rfl
  rw [pathOf, ← hplaceholders] at h
  rw [← hplaceholders] at hplaces
  rw [if_neg (by rwa [List.isEmpty_iff])] at h
  obtain ⟨all, hall, h⟩ := bind_eq_ok.mp h
  obtain ⟨rfl, rfl⟩ := Prod.mk.inj (pure_eq_ok.mp h)
  obtain ⟨hlength, hlabels⟩ := labels_eq_ok hall
  refine ⟨cut, hunique, hplaceholders, all, hlength, rfl, ?_, fun i p hp => ?_⟩
  · rw [formatTemplate_filled hcut hpath]
  · obtain ⟨label, hlabel, his⟩ := hlabels i p hp
    rw [Nat.zero_add] at his
    exact ⟨label, hlabel, his⟩

/-! A path with a placeholder twice, one without a name, one whose name is a brace, a greedy
one, and a brace that is not closed. -/

/-- A member for a placeholder of the path. -/
def parcelMember (name wireName : String) : Member :=
  ⟨name, "Text", true, .uri, some wireName, none, false, false, false, false, none, none, none,
    false⟩

/-- What a parcel is found by. -/
def parcel : StructureShape :=
  ⟨"Parcel", [parcelMember "Brace" "\x7b", parcelMember "Town" "town", parcelMember "Lost" "town",
    parcelMember "Nameless" "", parcelMember "Way" "way"], none, false, none, none, none, false,
    none, false⟩

/-- The operation that finds a parcel. -/
def findParcel : Operation :=
  ⟨"FindParcel",
    ⟨"GET",
      "/\x7btown\x7d/\x7b\x7d/\x7btown\x7d/\x7b\x7b\x7d/\x7bway+\x7d/\x7bopen?\x7bid\x7d", none⟩,
    some "Parcel", none, none, [], none, false⟩

/-- The service that finds parcels. -/
def parcels : Blueprint where
  service := {
    name := "parcels"
    metadata := ⟨"2020-02-29", "parcels", "Parcels", "Parcels", .restJson, none, none, none, none,
      none⟩
    documentation := none
    operations := ⟨[("FindParcel", findParcel)], by simp⟩
    shapes := ⟨[("Parcel", .structure parcel),
      ("Text", .scalar ⟨"Text", .string, [], none, false, false, none⟩)], by decide⟩
    paginators := .empty
    waiters := .empty }
  usage := ⟨["FindParcel"], ["Parcel"], [], []⟩
  names := []
  boxed := []

theorem pathOf_parcels : ∃ code path cut,
    findParcel.http.placeholders = [⟨"town", false⟩, ⟨"", false⟩, ⟨"town", false⟩, ⟨"\x7b", false⟩,
      ⟨"way", true⟩] ∧
    pathOf parcels findParcel (some parcel) = .ok (code, path) ∧
    (∀ other : PathCut,
      other.Sound ∧ other.filled PathCut.braced = findParcel.http.path.toList ↔ other = cut) ∧
    cut.placeholders = findParcel.http.placeholders ∧
    ∃ all : List Label, all.length = cut.placeholders.length ∧
      code = Code.all (all.map (·.statement)) ∧
      path = .of ["format!(", .quoted (String.ofList (cut.filled fun _ => PathCut.mark)), ", ",
        .separated ", " (all.map (·.argument)), ")"] ∧
      ∀ i p, cut.placeholders[i]? = some p →
        ∃ label, all[i]? = some label ∧ IsLabel parcels (some parcel) i p label := by
  have hplaceholders : findParcel.http.placeholders = [⟨"town", false⟩, ⟨"", false⟩,
      ⟨"town", false⟩, ⟨"\x7b", false⟩, ⟨"way", true⟩] := by decide
  have hbound : ∀ p ∈ findParcel.http.placeholders,
      (boundMember? (some parcel) p).map (·.shape) = some "Text" := by decide
  have hvalue : parcels.value "Text" = .scalar "Text"
      ⟨"Text", .string, [], none, false, false, none⟩ := by
    rw [Blueprint.value, Service.value, Service.valueWithin]
    rfl
  obtain ⟨⟨code, path⟩, h⟩ := succeeds_pathOf (b := parcels) (o := findParcel) fun p hp => by
    obtain ⟨m, hm, hshape⟩ := Option.map_eq_some_iff.mp (hbound p hp)
    exact ⟨m, _, _, hm, hshape ▸ hvalue⟩
  obtain ⟨cut, hcut⟩ := pathOf_substitutes (by rw [hplaceholders]; exact List.cons_ne_nil _ _) h
  exact ⟨code, path, cut, hplaceholders, h, hcut⟩

end Clientwright.Request
