import Clientwright.Blueprint.Types
import Clientwright.Crate.Operations
import Clientwright.Proofs.Reachability

/-!
# What an emitter may rely on

An emitter is given a value and turns it into code. It mentions the types of the
structures and enumerated texts in the value, and it has no code for a value
that leads nowhere or that was cut. `Fits` says of a value that neither gets in
the way: whatever it mentions may be mentioned, and nothing in it is unknown.

A value that was cut is a case of its own. Lists and maps that hold themselves
are allowed by every check before, and code for them would be endless, so being
cut is a fault that a service can have. `Guarded` is what rules it out, and
`Permits` says which faults are left then. They are about the bindings of HTTP,
which only some shapes are made for.

The theorem is that in a blueprint of a service that comes from documents every
value fits that an emitter is ever given: the members of the selected inputs and
outputs, and the members of the structures that these reach.
-/

namespace Clientwright

open Relation Outcome

/-! ## Faults -/

/-- The fault is about a shape in a place of HTTP that it is not made for. -/
def EmissionFault.IsBinding : EmissionFault → Prop
  | .notWritableAsText _ | .notBindableToHeader _ | .notReadableFromText _
  | .headersNotAMap _ _ | .payloadNotReadable _ _ => True
  | .unknownShape _ | .unknownOperation _ | .endlessShape _ | .notAStructure _
  | .notAnEnum _ | .noUriMember _ _ | .unknownTemplate _ => False

namespace Service

/-- No list or map holds itself without a structure in between. -/
def Guarded (s : Service) : Prop := ∀ n, ¬ TransGen s.Holds n n

/-- Lists and maps that hold nothing but structures are no circle. -/
theorem guarded_of_holds_structures {s : Service}
    (h : ∀ k n, s.Holds k n → s.IsStructure n) : s.Guarded := by
  intro n hn
  obtain ⟨m, -, hm⟩ := TransGen.tail'_iff.mp hn
  obtain ⟨t, ht⟩ := h m n hm
  obtain ⟨k, hk, -⟩ := TransGen.head'_iff.mp hn
  cases hk with
  | item hl => cases hl.symm.trans ht
  | key hmap => cases hmap.symm.trans ht
  | value hmap => cases hmap.symm.trans ht

/-- The fault may come from the service. -/
def Permits (s : Service) (f : EmissionFault) : Prop := s.Guarded → f.IsBinding

theorem permits_of_isBinding {s : Service} {f : EmissionFault} (h : f.IsBinding) :
    s.Permits f := fun _ => h

theorem permits_of_not_guarded {s : Service} {f : EmissionFault} (h : ¬ s.Guarded) :
    s.Permits f := fun hs => absurd hs h

/-- A name that is no longer available leads here along lists and maps. -/
def Spent (s : Service) (available : List String) (k : String) : Prop :=
  ∀ x ∈ s.shapes.keys, x ∉ available → TransGen s.Holds x k

theorem spent_keys {s : Service} (k : String) : s.Spent s.shapes.keys k :=
  fun _ hx hmem => absurd hx hmem

theorem Spent.erase {s : Service} {available : List String} {k c : String}
    (h : s.Spent available k) (hc : s.Holds k c) : s.Spent (available.erase k) c := by
  intro x hx hmem
  by_cases hxk : x = k
  · exact hxk ▸ .single hc
  · have hfree : x ∉ available := fun h => hmem ((List.mem_erase_of_ne hxk).mpr h)
    exact (h x hx hfree).tail hc

/-- So where it is met again there is a circle. -/
theorem Spent.not_guarded {s : Service} {available : List String} {k : String}
    (h : s.Spent available k) (hk : ∃ shape, s.shape? k = some shape)
    (hmem : k ∉ available) : ¬ s.Guarded :=
  fun hguarded => hguarded k (h k (Table.mem_keys_iff.mpr hk) hmem)

end Service

/-! ## Values -/

/-- Everything in the value has code, and the types that the code mentions are
among the given ones. -/
def ValueShape.Fits (b : Blueprint) (P : Area → String → Prop) : ValueShape → Prop
  | .structure k _ => P .types (b.typeName k)
  | .scalar k t => t.isEnum = true → P .types (b.typeName k)
  | .list _ _ item => item.Fits b P
  | .map _ _ keys values => keys.Fits b P ∧ values.Fits b P
  | .unknown _ => False
  | .endless _ => ¬ b.service.Guarded

namespace Blueprint

variable {b : Blueprint} {P : Area → String → Prop} {t u : StructureShape} {k n : String}

/-- Every member of the structure has a value that fits. -/
def Covers (b : Blueprint) (P : Area → String → Prop) (t : StructureShape) : Prop :=
  ∀ m ∈ t.members, (b.value m.shape).Fits b P

theorem fits_valueWithin (hs : b.service.Closed) (available : List String) (k : String)
    (hk : ∃ shape, b.service.shape? k = some shape)
    (hends : ∀ n, ReflTransGen b.service.Holds k n →
      b.service.IsStructure n ∨ b.service.IsEnumerated n → P .types (b.typeName n))
    (hspent : b.service.Spent available k) :
    (b.service.valueWithin available k).Fits b P := by
  fun_induction Service.valueWithin b.service available k with
  | case1 available k hnone =>
      obtain ⟨shape, hshape⟩ := hk
      cases hnone.symm.trans hshape
  | case2 available k t hshape => exact hends k .refl (.inl ⟨t, hshape⟩)
  | case3 available k t hshape =>
      intro henum
      exact hends k .refl (.inr ⟨t, hshape, Service.isEnum_iff.mp henum⟩)
  | case4 available k l hshape hmem ih =>
      have hitem : b.service.Holds k l.member.shape := .item hshape
      exact ih (hs.resolved (.held hitem)) (fun n h => hends n (.head hitem h))
        (hspent.erase hitem)
  | case5 available k l hshape hmem => exact hspent.not_guarded hk hmem
  | case6 available k m hshape hmem ihkey ihvalue =>
      have hkey : b.service.Holds k m.key.shape := .key hshape
      have hvalue : b.service.Holds k m.value.shape := .value hshape
      exact ⟨ihkey (hs.resolved (.held hkey)) (fun n h => hends n (.head hkey h))
          (hspent.erase hkey),
        ihvalue (hs.resolved (.held hvalue)) (fun n h => hends n (.head hvalue h))
          (hspent.erase hvalue)⟩
  | case7 available k m hshape hmem => exact hspent.not_guarded hk hmem

/-! ## Blueprints -/

/-- The blueprint is one of a service that comes from documents. -/
structure Ready (b : Blueprint) : Prop where
  closed : b.service.Closed
  exact : ∃ selection, Usage.Known b.service selection ∧
    b.usage.Exact b.service selection

theorem ready_of_of {src : Sources} {s : Service} {selection : List String}
    (h : src.toService.result = .ok s) (hb : Blueprint.of s selection = .ok b) :
    b.Ready ∧ b.service = s := by
  obtain ⟨usage, husage, hb⟩ := bind_eq_ok.mp hb
  obtain rfl := pure_eq_ok.mp hb
  have hs := src.closed_of_toService h
  refine ⟨⟨hs, selection, ?_, Usage.exact_of_analyze hs husage⟩, rfl⟩
  rcases Usage.analyze_cases s selection with ⟨hknown, -⟩ | ⟨_, _, _, _, _, _, herror⟩
  · exact hknown
  · cases husage.symm.trans herror

/-- There is a blueprint for operations that exist. -/
theorem exists_of_known {s : Service} {selection : List String}
    (h : Usage.Known s selection) : ∃ b, Blueprint.of s selection = .ok b := by
  rcases Usage.analyze_cases s selection with
    ⟨-, u, hu⟩ | ⟨before, n, after, hsplit, -, hn, -⟩
  · exact ⟨_, bind_eq_ok.mpr ⟨u, hu, rfl⟩⟩
  · have hmem : n ∈ selection := by
      rw [hsplit]
      exact List.mem_append_right _ List.mem_cons_self
    obtain ⟨_, ho⟩ := h n hmem
    cases hn.symm.trans ho

/-- The structure is the input or the output of a selected operation. -/
def IsRoot (b : Blueprint) (t : StructureShape) : Prop :=
  b.service.IsInput b.usage.operations t ∨ b.service.IsOutput b.usage.operations t

/-- What a crate exports: the types that are used, the inputs of the selected
operations, and their outputs where there are any. -/
def Exports (b : Blueprint) : Area → String → Prop
  | .types, name => ∃ k, (k ∈ b.usage.structures ∨ k ∈ b.usage.enums) ∧
      b.typeName k = name
  | .input, name => ∃ o ∈ b.operations, Crate.inputType o = name
  | .output, name => ∃ o ∈ b.operations, o.output.isSome = true ∧
      Crate.outputType o = name

namespace Ready

theorem exists_operation (hb : b.Ready) (hn : n ∈ b.usage.operations) :
    ∃ o, b.service.operation? n = some o := by
  obtain ⟨selection, hknown, hexact⟩ := hb.exact
  rcases (hexact.operations n).mp hn with hn | ⟨-, hn⟩
  · exact hknown n hn
  · exact Table.mem_keys_iff.mp hn

theorem mem_structures_iff (hb : b.Ready) :
    n ∈ b.usage.structures ↔ b.service.IsStructure n ∧
      ∃ t, b.IsRoot t ∧ b.service.ReachedFrom t n := by
  obtain ⟨selection, -, hexact⟩ := hb.exact
  rw [Usage.structures, mem_sortedNames, List.mem_append, hexact.serialized,
    hexact.parsed]
  constructor
  · rintro (⟨hn, t, ht, h⟩ | ⟨hn, t, ht, h⟩)
    · exact ⟨hn, t, .inl ht, h⟩
    · exact ⟨hn, t, .inr ht, h⟩
  · rintro ⟨hn, t, ht | ht, h⟩
    · exact .inl ⟨hn, t, ht, h⟩
    · exact .inr ⟨hn, t, ht, h⟩

theorem mem_enums_iff (hb : b.Ready) :
    n ∈ b.usage.enums ↔ b.service.IsEnumerated n ∧
      ∃ t, b.IsRoot t ∧ b.service.ReachedFrom t n := by
  obtain ⟨selection, -, hexact⟩ := hb.exact
  exact hexact.enums n

/-- A value that is reached from an input or output fits. -/
theorem fits (hb : b.Ready) (ht : b.IsRoot t) (hk : b.service.ReachedFrom t k)
    (hshape : ∃ shape, b.service.shape? k = some shape) :
    (b.value k).Fits b b.Exports := by
  refine fits_valueWithin hb.closed _ k hshape (fun n hn hend => ?_)
    (Service.spent_keys k)
  obtain ⟨m, hm, hpath⟩ := hk
  have hreached : b.service.ReachedFrom t n :=
    ⟨m, hm, hpath.trans (Service.leads_of_holds hn)⟩
  refine ⟨n, hend.imp (fun hn => ?_) fun hn => ?_, rfl⟩
  · exact hb.mem_structures_iff.mpr ⟨hn, t, ht, hreached⟩
  · exact hb.mem_enums_iff.mpr ⟨hn, t, ht, hreached⟩

/-- The members of inputs and outputs fit. -/
theorem covers_root (hb : b.Ready) (ht : b.IsRoot t) : b.Covers b.Exports t := by
  intro m hm
  have hk : ∃ k, b.service.shape? k = some (.structure t) := by
    rcases ht with ⟨_, _, _, k, _, _, hk⟩ | ⟨_, _, _, k, _, _, hk⟩
    · exact ⟨k, hk⟩
    · exact ⟨k, hk⟩
  obtain ⟨k, hk⟩ := hk
  exact hb.fits ht ⟨m, hm, .refl⟩ (hb.closed.resolved (.member hk hm))

/-- And so do the members of every structure that is generated. -/
theorem covers_structure (hb : b.Ready) (hn : n ∈ b.usage.structures)
    (hu : b.service.shape? n = some (.structure u)) : b.Covers b.Exports u := by
  intro m hm
  obtain ⟨-, t, ht, hreached⟩ := hb.mem_structures_iff.mp hn
  exact hb.fits ht (hreached.member hu hm .refl) (hb.closed.resolved (.member hu hm))

end Ready

end Blueprint

end Clientwright
