import Clientwright.Proofs.Layouts
import Clientwright.Proofs.RequestCalls
import Clientwright.Proofs.Responses

/-!
# Calls in responses

A value that is read does not exist yet, so what is called is a function of its
type. The type goes by the name under which the structure was referred to, and
the conversion by the structure's own, which are the same in a service whose
shapes carry their names (`ValueShape.Named`).

Nothing here corresponds to the exception of the requests: a payload that is a
list or a map is refused, and this is the difference between the two sides.
-/

namespace Clientwright

open Outcome

/-- The conversion that reads structures. -/
def Protocol.reading (p : Protocol) : Conversion :=
  match p.responseEncoding with
  | .json => .fromJson
  | .xml | .query => .fromXml

theorem Protocol.reading_of_json {p : Protocol} (h : p.responseEncoding = .json) :
    p.reading = .fromJson := by
  rw [reading, h]

theorem Protocol.reading_of_ne {p : Protocol} (h : p.responseEncoding ≠ .json) :
    p.reading = .fromXml := by
  cases p with
  | json | restJson => exact absurd rfl h
  | restXml | query | ec2 => rfl

/-- The call that reads a structure. -/
def Blueprint.readingCall (b : Blueprint) (conversion : Conversion) (n : String) : Call :=
  .function .types (b.typeName n) conversion n

namespace Response

variable {b : Blueprint} {S : Call → Prop} {v : ValueShape} {m : Member}
  {t : StructureShape} {o : Operation} {name : String} {format : TimestampFormat}

/-! ## Text -/

theorem fromText_calls {key : String} : (fromText b key).Calls S := by
  intro q
  simp [fromText, Blueprint.typeItem]

theorem scalarFromText_calls {key : String} {s : ScalarShape} :
    (scalarFromText b key s name format).Calls S := by
  intro q
  rw [scalarFromText]
  split
  · simp [fromText_calls (S := S) _]
  · split <;> simp

theorem textOf_calls : Yields (Expr.Calls S) (textOf b v name format) := by
  cases v with
  | scalar k s => exact meets_ok scalarFromText_calls
  | «structure» _ _ | list _ _ _ | map _ _ _ _ | unknown _ | endless _ =>
      exact meets_error trivial

theorem headerOf_calls : Yields (Expr.Calls S) (headerOf b v name format) := by
  unfold headerOf
  split
  next k l item =>
    refine meets_bind (textOf_calls (S := S) (v := item)) fun e he => ?_
    exact meets_pure fun q => by simp [he]
  next => exact textOf_calls

theorem boxing_calls : (boxing b t m).Calls S := by
  intro q
  rw [boxing]
  split <;> simp

/-! ## JSON -/

theorem JsonBody.scalar_calls {key : String} {s : ScalarShape} :
    (JsonBody.scalar b key s name format).Calls S := by
  intro q
  rw [JsonBody.scalar]
  split
  · simp [fromText_calls (S := S) _]
  · split <;> simp

theorem JsonBody.value_calls {depth : Nat} (hv : v.Named)
    (h : ∀ s ∈ v.structures, S (b.readingCall .fromJson s.name)) :
    Yields (Expr.Calls S) (JsonBody.value b v name format depth) := by
  induction v generalizing name format depth with
  | «structure» k s =>
      obtain rfl : s.name = k := hv k s (List.mem_singleton_self _)
      have hcall : S (.function .types (b.typeName s.name) .fromJson s.name) :=
        h s (List.mem_singleton_self s)
      rw [JsonBody.value]
      exact meets_ok fun q => by simp [Blueprint.typeItem, hcall]
  | scalar k s =>
      rw [JsonBody.value]
      exact meets_ok JsonBody.scalar_calls
  | list k l item ih =>
      rw [JsonBody.value]
      exact meets_bind (ih hv h) fun inner hinner => meets_pure fun q => by simp [hinner]
  | map k m keys values _ ih =>
      have hvalues := fun s hs => h s (List.mem_append_right _ hs)
      rw [JsonBody.value]
      exact meets_bind (ih hv.values hvalues) fun inner hinner => meets_pure fun q => by
        simp [hinner]
  | unknown k | endless k => exact meets_error trivial

theorem JsonBody.member_calls {object : String} (hv : (b.value m.shape).Named)
    (h : ∀ s ∈ (b.value m.shape).structures, S (b.readingCall .fromJson s.name)) :
    Yields (Expr.Calls S) (JsonBody.member b t m object) :=
  meets_bind (JsonBody.value_calls hv h) fun inner hinner =>
    meets_pure fun q => by simp [hinner, boxing_calls (S := S) _]

/-! ## XML -/

theorem XmlBody.scalar_calls {key : String} {s : ScalarShape} :
    (XmlBody.scalar b key s name format).Calls S := by
  intro q
  rw [XmlBody.scalar]
  split
  · simp [fromText_calls (S := S) _]
  · split <;> simp

theorem XmlBody.entry_calls {map : MapShape} {keyName itemName : String} {inner : Expr}
    (h : inner.Calls S) : (XmlBody.entry map name keyName itemName inner).Calls S := by
  intro q
  simp [XmlBody.entry, h]

theorem XmlBody.value_calls {depth : Nat} (hv : v.Named)
    (h : ∀ s ∈ v.structures, S (b.readingCall .fromXml s.name)) :
    Yields (Expr.Calls S) (XmlBody.value b v name format depth) := by
  induction v generalizing name format depth with
  | «structure» k s =>
      obtain rfl : s.name = k := hv k s (List.mem_singleton_self _)
      have hcall : S (.function .types (b.typeName s.name) .fromXml s.name) :=
        h s (List.mem_singleton_self s)
      rw [XmlBody.value]
      exact meets_ok fun q => by simp [Blueprint.typeItem, hcall]
  | scalar k s =>
      rw [XmlBody.value]
      exact meets_ok XmlBody.scalar_calls
  | list k l item ih =>
      rw [XmlBody.value]
      exact meets_bind (ih hv h) fun inner hinner => meets_pure fun q => by simp [hinner]
  | map k m keys values _ ih =>
      have hvalues := fun s hs => h s (List.mem_append_right _ hs)
      rw [XmlBody.value]
      exact meets_bind (ih hv.values hvalues) fun inner hinner => meets_pure fun q => by
        simp [XmlBody.entry_calls hinner _]
  | unknown k | endless k => exact meets_error trivial

theorem XmlBody.member_calls {node : String} (hv : (b.value m.shape).Named)
    (h : ∀ s ∈ (b.value m.shape).structures, S (b.readingCall .fromXml s.name)) :
    Yields (Expr.Calls S) (XmlBody.member b t m node) := by
  have hnested : Yields (Expr.Calls S) (do
      let inner ← XmlBody.value b (b.value m.shape) "value" (b.memberFormat m) 0
      return .of ["runtime::xml::child(", .var node, ", ", .quoted m.wireName, ").map(",
        .closure "value" (.of [inner, boxing b t m]), ").transpose()?"]) :=
    meets_bind (XmlBody.value_calls hv h) fun inner hinner =>
      meets_pure fun q => by simp [hinner, boxing_calls (S := S) _]
  dsimp only [XmlBody.member]
  split
  · refine meets_bind (textOf_calls (S := S)) fun inner hinner => ?_
    exact meets_pure fun q => by simp [hinner]
  · split
    next k l item heq =>
      rw [heq] at hv h
      split
      · refine meets_bind (XmlBody.value_calls (v := item) hv h) fun inner hinner => ?_
        exact meets_pure fun q => by simp [hinner]
      · exact heq ▸ hnested
    next k map keys values heq =>
      rw [heq] at hv h
      have hvalues := fun s hs => h s (List.mem_append_right _ hs)
      split
      · refine meets_bind (XmlBody.value_calls (v := values) hv.values hvalues)
          fun inner hinner => ?_
        exact meets_pure fun q => by simp [XmlBody.entry_calls hinner _]
      · exact heq ▸ hnested
    next => exact hnested

/-! ## Responses -/

/-- The calls that may be made to read the members of a structure. -/
structure Calling (b : Blueprint) (S : Call → Prop) (t : StructureShape) : Prop where
  named : ∀ m ∈ t.members, (b.value m.shape).Named
  members : b.Holds (fun n => S (b.readingCall b.protocol.reading n)) t.members

theorem assign_calls {value : Expr} (h : value.Calls S) : (assign m value).Calls S := by
  simp [assign, h]

theorem withDocument_calls {inner : Code} :
    (withDocument inner).Calls S ↔ inner.Calls S := by
  simp [withDocument]

theorem payload_calls (h : Calling b S t) (hm : m ∈ t.members) :
    Yields (Code.Calls S) (payload b t m) := by
  have hv := h.named m hm
  have hcalls := h.members m hm
  have hboxed : ∀ e : Expr, e.Calls S →
      (if b.isBoxed t m then Expr.of ["Box::new(", e, ")"] else e).Calls S := by
    intro e he q
    split <;> simp [he]
  dsimp only [payload]
  split
  next k s heq =>
    refine meets_ok ?_
    split
    · exact assign_calls fun q => by simp
    · exact assign_calls fun q => by simp
    · split
      · exact assign_calls fun q => by simp [Blueprint.typeItem]
      · exact assign_calls fun q => by simp
  next k s heq =>
    rw [heq] at hv hcalls
    obtain rfl : s.name = k := hv k s (List.mem_singleton_self _)
    have hcall := hcalls s (List.mem_singleton_self s)
    split
    next hencoding =>
      rw [Protocol.reading_of_json hencoding, Blueprint.readingCall] at hcall
      have hread := hboxed (.of [b.typeItem s.name, "::", .convert .fromJson s.name,
        "(&response.json()?)?"]) fun q => by simp [Blueprint.typeItem, hcall]
      exact meets_ok (assign_calls fun q => by simp [hread])
    next hencoding =>
      rw [Protocol.reading_of_ne hencoding, Blueprint.readingCall] at hcall
      have hread := hboxed (.of [b.typeItem s.name, "::", .convert .fromXml s.name,
        "(document.root_element())?"]) fun q => by simp [Blueprint.typeItem, hcall]
      exact meets_ok (withDocument_calls.mpr (assign_calls fun q => by simp [hread]))
  all_goals exact meets_error trivial

theorem body_calls (h : Calling b S t) : Yields (Code.Calls S) (body b o t) := by
  have hmem : ∀ m ∈ t.bodyMembers, m ∈ t.members :=
    fun m hm => List.mem_of_mem_filter hm
  dsimp only [body]
  split
  · exact meets_ok (by simp)
  · split
    next hencoding =>
      have hmembers := Protocol.reading_of_json hencoding ▸ h.members
      refine meets_bind (meets_mapM (S := Code.Calls S) fun m hm => ?_) fun r hr => ?_
      · have hm := hmem m hm
        exact meets_map (JsonBody.member_calls (h.named m hm) (hmembers m hm))
          fun e => assign_calls
      · exact meets_pure (by simp [Code.calls_all.mpr hr])
    next hencoding =>
      have hmembers := Protocol.reading_of_ne hencoding ▸ h.members
      refine meets_bind (meets_mapM (S := Code.Calls S) fun m hm => ?_) fun r hr => ?_
      · have hm := hmem m hm
        exact meets_map (XmlBody.member_calls (h.named m hm) (hmembers m hm))
          fun e => assign_calls
      · refine meets_pure (withDocument_calls.mpr ?_)
        split <;> simp [Code.calls_all.mpr hr]

theorem binding_calls : Yields (Code.Calls S) (binding b t m) := by
  dsimp only [binding]
  split
  · refine meets_bind (headerOf_calls (S := S)) fun inner hinner => ?_
    exact meets_pure (assign_calls fun q => by simp [hinner])
  · split
    next k map keys values hv =>
      refine meets_bind (textOf_calls (S := S) (v := values)) fun inner hinner => ?_
      refine meets_pure ?_
      rw [Code.calls_append, Code.calls_bind, Code.calls_braces]
      exact ⟨by simp, by simp, assign_calls fun q => by simp [hinner]⟩
    next => exact meets_error trivial
    next => exact meets_error trivial
  · exact meets_ok (assign_calls fun q => by simp)
  all_goals exact meets_ok (by simp)

theorem method_calls (h : Calling b S t) : Yields (Code.Calls S) (method b o t) := by
  have hbound : Yields (fun r => ∀ c ∈ r, Code.Calls S c) (t.members.mapM (binding b t)) :=
    meets_mapM fun _ _ => binding_calls
  dsimp only [method]
  split
  · exact meets_pure (by simp)
  · split
    next m hm =>
      refine meets_bind (payload_calls h (Request.mem_of_payloadMember? hm))
        fun read hread => ?_
      refine meets_bind hbound fun bound hbound => meets_pure ?_
      simp [hread, Code.calls_all.mpr hbound]
    next =>
      refine meets_bind (body_calls h) fun read hread => ?_
      refine meets_bind hbound fun bound hbound => meets_pure ?_
      simp [hread, Code.calls_all.mpr hbound]

end Response

end Clientwright
