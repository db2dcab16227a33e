import Clientwright.Proofs.Fitting
import Clientwright.Proofs.References
import Clientwright.Proofs.Requests
import Clientwright.Response.Message

/-!
# Code that reads responses

The counterpart of writing, with one difference that matters here. Written
values are asked to write themselves, but a value that is read does not exist
yet, so the code has to say what it makes. That is where the types of structures
and enumerated texts are mentioned, by the names under which they were referred
to.

Otherwise the statements are the same, one for each function, and the faults
come about in the same ways.
-/

namespace Clientwright

open Outcome Service

namespace Response

variable {b : Blueprint} {P : Area → String → Prop} {v : ValueShape} {m : Member}
  {t : StructureShape} {name : String} {format : TimestampFormat}

/-! ## Text -/

theorem within_fromText {key : String} (h : P .types (b.typeName key)) :
    (fromText b key).Within P := by
  simp [fromText, Blueprint.typeItem, h]

theorem within_scalarFromText {key : String} {s : ScalarShape}
    (h : s.isEnum = true → P .types (b.typeName key)) :
    (scalarFromText b key s name format).Within P := by
  rw [scalarFromText]
  split
  next henum => simp [within_fromText (h henum)]
  next => split <;> simp

theorem textOf_meets (h : v.Fits b P) :
    Meets (Expr.Within P) b.service.Permits (textOf b v name format) := by
  cases v with
  | scalar k s => exact meets_ok (within_scalarFromText h)
  | unknown k => exact absurd h id
  | «structure» _ _ | list _ _ _ | map _ _ _ _ | endless _ =>
      exact meets_error (permits_of_isBinding trivial)

theorem headerOf_meets (h : v.Fits b P) :
    Meets (Expr.Within P) b.service.Permits (headerOf b v name format) := by
  unfold headerOf
  split
  next k l item =>
    refine meets_bind (textOf_meets (v := item) h) fun e he => ?_
    exact meets_pure (by simp [he])
  next => exact textOf_meets h

theorem within_boxing : (boxing b t m).Within P := by
  rw [boxing]
  split <;> simp

/-! ## JSON -/

theorem JsonBody.within_scalar {key : String} {s : ScalarShape}
    (h : s.isEnum = true → P .types (b.typeName key)) :
    (JsonBody.scalar b key s name format).Within P := by
  rw [JsonBody.scalar]
  split
  next henum => simp [within_fromText (h henum)]
  next => split <;> simp

theorem JsonBody.value_meets {depth : Nat} (h : v.Fits b P) :
    Meets (Expr.Within P) b.service.Permits (JsonBody.value b v name format depth) := by
  induction v generalizing name format depth with
  | «structure» k s =>
      have hitem : P .types (b.typeName k) := h
      rw [JsonBody.value]
      exact meets_ok (by simp [Blueprint.typeItem, hitem])
  | scalar k s =>
      rw [JsonBody.value]
      exact meets_ok (JsonBody.within_scalar h)
  | list k l item ih =>
      rw [JsonBody.value]
      exact meets_bind (ih h) fun inner hinner => meets_pure (by simp [hinner])
  | map k m keys values _ ih =>
      rw [JsonBody.value]
      exact meets_bind (ih h.2) fun inner hinner => meets_pure (by simp [hinner])
  | unknown k => exact absurd h id
  | endless k =>
      rw [JsonBody.value]
      exact meets_error (permits_of_not_guarded h)

theorem JsonBody.member_meets {object : String} (h : (b.value m.shape).Fits b P) :
    Meets (Expr.Within P) b.service.Permits (JsonBody.member b t m object) :=
  meets_bind (JsonBody.value_meets h) fun inner hinner =>
    meets_pure (by simp [hinner, within_boxing])

/-! ## XML -/

theorem XmlBody.within_scalar {key : String} {s : ScalarShape}
    (h : s.isEnum = true → P .types (b.typeName key)) :
    (XmlBody.scalar b key s name format).Within P := by
  rw [XmlBody.scalar]
  split
  next henum => simp [within_fromText (h henum)]
  next => split <;> simp

theorem XmlBody.within_entry {map : MapShape} {keyName itemName : String} {inner : Expr}
    (h : inner.Within P) : (XmlBody.entry map name keyName itemName inner).Within P := by
  simp [XmlBody.entry, h]

theorem XmlBody.value_meets {depth : Nat} (h : v.Fits b P) :
    Meets (Expr.Within P) b.service.Permits (XmlBody.value b v name format depth) := by
  induction v generalizing name format depth with
  | «structure» k s =>
      have hitem : P .types (b.typeName k) := h
      rw [XmlBody.value]
      exact meets_ok (by simp [Blueprint.typeItem, hitem])
  | scalar k s =>
      rw [XmlBody.value]
      exact meets_ok (XmlBody.within_scalar h)
  | list k l item ih =>
      rw [XmlBody.value]
      exact meets_bind (ih h) fun inner hinner => meets_pure (by simp [hinner])
  | map k m keys values _ ih =>
      rw [XmlBody.value]
      exact meets_bind (ih h.2) fun inner hinner =>
        meets_pure (by simp [XmlBody.within_entry hinner])
  | unknown k => exact absurd h id
  | endless k =>
      rw [XmlBody.value]
      exact meets_error (permits_of_not_guarded h)

/-- A member is an attribute, an element of its own, or several elements of its
own name. -/
theorem XmlBody.member_meets {node : String} (h : (b.value m.shape).Fits b P) :
    Meets (Expr.Within P) b.service.Permits (XmlBody.member b t m node) := by
  have hnested : Meets (Expr.Within P) b.service.Permits (do
      let inner ← XmlBody.value b (b.value m.shape) "value" (b.memberFormat m) 0
      return .of ["runtime::xml::child(", .var node, ", ", .quoted m.wireName, ").map(",
        .closure "value" (.of [inner, boxing b t m]), ").transpose()?"]) :=
    meets_bind (XmlBody.value_meets h) fun inner hinner =>
      meets_pure (by simp [hinner, within_boxing])
  dsimp only [XmlBody.member]
  split
  · refine meets_bind (textOf_meets h) fun inner hinner => ?_
    exact meets_pure (by simp [hinner])
  · split
    next k l item hv =>
      rw [hv] at h
      split
      · refine meets_bind (XmlBody.value_meets (v := item) h) fun inner hinner => ?_
        exact meets_pure (by simp [hinner])
      · exact hv ▸ hnested
    next k map keys values hv =>
      rw [hv] at h
      split
      · refine meets_bind (XmlBody.value_meets (v := values) h.2) fun inner hinner => ?_
        exact meets_pure (by simp [XmlBody.within_entry hinner])
      · exact hv ▸ hnested
    next => exact hnested

/-! ## Responses -/

theorem within_assign {value : Expr} : (assign m value).Within P ↔ value.Within P := by
  simp [assign]

theorem within_withDocument {inner : Code} :
    (withDocument inner).Within P ↔ inner.Within P := by
  simp [withDocument]

theorem payload_meets (h : (b.value m.shape).Fits b P) :
    Meets (Code.Within P) b.service.Permits (payload b t m) := by
  have hboxed : ∀ e : Expr, e.Within P →
      (if b.isBoxed t m then Expr.of ["Box::new(", e, ")"] else e).Within P := by
    intro e he
    split <;> simp [he]
  dsimp only [payload]
  split
  next k s hv =>
    rw [hv] at h
    refine meets_ok ?_
    split
    · simp [within_assign]
    · simp [within_assign]
    · split
      next henum =>
        have hitem : P .types (b.typeName k) := h henum
        simp [within_assign, Blueprint.typeItem, hitem]
      next => simp [within_assign]
  next k s hv =>
    rw [hv] at h
    have hitem : P .types (b.typeName k) := h
    split
    · refine meets_ok (within_assign.mpr ?_)
      exact ⟨trivial, hboxed _ (by simp [Blueprint.typeItem, hitem]), trivial, trivial⟩
    · refine meets_ok (within_withDocument.mpr (within_assign.mpr ?_))
      exact ⟨trivial, hboxed _ (by simp [Blueprint.typeItem, hitem]), trivial, trivial⟩
  next k hv =>
    rw [hv] at h
    exact absurd h id
  all_goals exact meets_error (permits_of_isBinding trivial)

theorem body_meets {o : Operation} (h : b.Covers P t) :
    Meets (Code.Within P) b.service.Permits (body b o t) := by
  have hmembers := Request.covers_bodyMembers h
  dsimp only [body]
  split
  · exact meets_ok trivial
  · split
    · refine meets_bind (meets_mapM (S := Code.Within P) fun m hm => ?_) fun r hr => ?_
      · exact meets_map (JsonBody.member_meets (hmembers m hm)) fun e => within_assign.mpr
      · exact meets_pure (by simp [Code.within_all.mpr hr])
    · refine meets_bind (meets_mapM (S := Code.Within P) fun m hm => ?_) fun r hr => ?_
      · exact meets_map (XmlBody.member_meets (hmembers m hm)) fun e => within_assign.mpr
      · refine meets_pure (within_withDocument.mpr ?_)
        split <;> simp [Code.within_all.mpr hr]

theorem binding_meets (h : (b.value m.shape).Fits b P) :
    Meets (Code.Within P) b.service.Permits (binding b t m) := by
  dsimp only [binding]
  split
  · refine meets_bind (headerOf_meets h) fun inner hinner => ?_
    exact meets_pure (by simp [within_assign, hinner])
  · split
    next k map keys values hv =>
      rw [hv] at h
      refine meets_bind (textOf_meets (v := values) h.2) fun inner hinner => ?_
      exact meets_pure (by simp [within_assign, hinner])
    next k hv =>
      rw [hv] at h
      exact absurd h id
    next => exact meets_error (permits_of_isBinding trivial)
  · exact meets_ok (by simp [within_assign])
  all_goals exact meets_ok trivial

theorem method_meets {o : Operation} (h : b.Covers P t) :
    Meets (Code.Within P) b.service.Permits (method b o t) := by
  dsimp only [method]
  split
  · exact meets_pure (by simp)
  · have hbound := meets_mapM fun m hm => binding_meets (t := t) (h m hm)
    split
    next m hm =>
      have hm := h m (Request.mem_of_payloadMember? hm)
      refine meets_bind (payload_meets hm) fun read hread => ?_
      refine meets_bind hbound fun bound hbound => meets_pure ?_
      simp [hread, Code.within_all.mpr hbound]
    next =>
      refine meets_bind (body_meets h) fun read hread => ?_
      refine meets_bind hbound fun bound hbound => meets_pure ?_
      simp [hread, Code.within_all.mpr hbound]

end Response

end Clientwright
