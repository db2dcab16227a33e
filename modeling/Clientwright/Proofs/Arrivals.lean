import Clientwright.Proofs.Faults
import Clientwright.Proofs.Transmissions

/-!
# Inputs arrive

Each member of an input has a place in the request: a label of the path, a header,
a parameter of the query string, or the body. Which it is depends on the location of
the member, on the protocol and on whether there is a payload, and each part of the
request is made by an emitter that asks some of these questions again. No one checks
that nobody is left out.

Three kinds of members are (`Blueprint.Unbound`). Outside the rest protocols only the
path and the body are written, so there is no place for a header or a parameter of
the query string. The path is made from its placeholders, and so a member for the
path arrives only if a placeholder is bound to it. And a family of headers is made
from the entries of a map. All other members arrive, and where they are expected.
-/

namespace Clientwright

open Outcome Code

/-! ## Which members arrive -/

/-- The part of a request for a location. What is a status code is in responses only. -/
def Location.channel? : Location → Option Channel
  | .body => some .body
  | .header | .headers => some .header
  | .querystring => some .query
  | .uri => some .path
  | .statusCode => none

namespace Blueprint

/-- The part of a request where the member of an input is expected. -/
def channel? (b : Blueprint) (t : StructureShape) (m : Member) : Option Channel :=
  if b.protocol.isRest = true ∧ t.payloadMember? = some m then some .body
  else m.location.channel?

/-- A member of an input for which there is no place in the request. The payload of
a rest protocol has one wherever it is said to be. -/
inductive Unbound (b : Blueprint) (op : Operation) (t : StructureShape) (m : Member) : Prop where
  /-- the protocol has neither headers nor a query string -/
  | protocol (hrest : b.protocol.isRest = false)
      (hlocation : m.location = .header ∨ m.location = .headers ∨ m.location = .querystring)
  /-- no placeholder of the path is bound to it -/
  | placeholder (hpayload : b.protocol.isRest = true → t.payloadMember? ≠ some m)
      (hlocation : m.location = .uri)
      (hp : ∀ p ∈ op.http.placeholders, Request.boundMember? (some t) p ≠ some m)
  /-- a family of headers that is no map -/
  | family (hpayload : b.protocol.isRest = true → t.payloadMember? ≠ some m)
      (hlocation : m.location = .headers) (hmap : ∀ s, b.service.shape? m.shape ≠ some (.map s))

theorem value_of_map {b : Blueprint} {k : String} {s : MapShape}
    (h : b.service.shape? k = some (.map s)) :
    ∃ keys values, b.value k = .map k s keys values := by
  have hmem : k ∈ b.service.shapes.keys := Table.mem_keys_iff.mpr ⟨_, h⟩
  rw [value, Service.value, Service.valueWithin, h]
  dsimp only
  rw [if_pos hmem]
  exact ⟨_, _, rfl⟩

end Blueprint

namespace Request

variable {b : Blueprint} {m : Member} {t : StructureShape} {o : Operation}

/-- Something makes the part of the request from the member: a label, a binding of a
rest protocol, or the body. -/
inductive Made (b : Blueprint) (o : Operation) (t : StructureShape) (m : Member) :
    Channel → Prop where
  | label {p : Placeholder} (hp : p ∈ o.http.placeholders)
      (hbound : boundMember? (some t) p = some m) : Made b o t m .path
  | binding {channel : Channel} (hrest : b.protocol.isRest = true)
      (h : Yields (Sends (Naming.fieldIdent m.name) channel []) (binding b m)) :
      Made b o t m channel
  | body (h : Embodied b t m) : Made b o t m .body

/-- The member travels in the body if it is expected there. -/
theorem embodied_of_body (hm : m ∈ t.members) (hlocation : m.location = .body)
    (hpayload : ¬ (b.protocol.isRest = true ∧ t.payloadMember? = some m))
    (hbody : ∀ p, t.payloadMember? = some p → p = m) : Embodied b t m := by
  refine .member (List.mem_filter.mpr ⟨hm, by rw [hlocation]; rfl⟩) fun hrest => ?_
  cases hp : t.payloadMember? with
  | none => rfl
  | some p => exact absurd ⟨hrest, hbody p hp ▸ hp⟩ hpayload

/-- Of a member that has a place, the part of the request is made where it is
expected. -/
theorem exists_made (hm : m ∈ t.members) (hstatus : m.location ≠ .statusCode)
    (hbody : m.location = .body → ∀ p, t.payloadMember? = some p → p = m)
    (hbound : ¬ b.Unbound o t m) :
    ∃ channel, b.channel? t m = some channel ∧ Made b o t m channel := by
  rw [Blueprint.channel?]
  split
  next hpayload => exact ⟨.body, rfl, .body (.payload hpayload.1 hpayload.2)⟩
  next hpayload =>
    have hnot : b.protocol.isRest = true → t.payloadMember? ≠ some m :=
      fun hrest hp => hpayload ⟨hrest, hp⟩
    have hrest : m.location = .header ∨ m.location = .headers ∨ m.location = .querystring →
        b.protocol.isRest = true := by
      intro hlocation
      by_contra hrest
      exact hbound (.protocol (Bool.eq_false_of_not_eq_true hrest) hlocation)
    cases hlocation : m.location with
    | body =>
        exact ⟨.body, rfl, .body (embodied_of_body hm hlocation hpayload (hbody hlocation))⟩
    | header =>
        exact ⟨.header, rfl, .binding (hrest (.inl hlocation)) (binding_sends_header hlocation)⟩
    | headers =>
        have hmap : ∃ s, b.service.shape? m.shape = some (.map s) := by
          by_contra hmap
          exact hbound (.family hnot hlocation (not_exists.mp hmap))
        obtain ⟨s, hs⟩ := hmap
        obtain ⟨keys, values, hvalue⟩ := Blueprint.value_of_map hs
        exact ⟨.header, rfl, .binding (hrest (.inr (.inl hlocation)))
          (binding_sends_headers hlocation ⟨_, s, keys, values, hvalue⟩)⟩
    | querystring =>
        exact ⟨.query, rfl, .binding (hrest (.inr (.inr hlocation)))
          (binding_sends_query hlocation)⟩
    | uri =>
        have hplaceholder : ∃ p ∈ o.http.placeholders, boundMember? (some t) p = some m := by
          by_contra hnone
          exact hbound (.placeholder hnot hlocation fun p hp hmember => hnone ⟨p, hp, hmember⟩)
        obtain ⟨p, hp, hmember⟩ := hplaceholder
        exact ⟨.path, rfl, .label hp hmember⟩
    | statusCode => exact absurd hlocation hstatus

/-- And then the method sends the field in this part. -/
theorem method_sends {channel : Channel} {c : Code} (hm : m ∈ t.members)
    (hmade : Made b o t m channel) (h : method b o (some t) = .ok c) :
    ∃ f ∈ c.blocks, f.1.text = requestHead ∧
      f.2.Sends (Naming.fieldIdent m.name) channel [] := by
  obtain ⟨labels, path, bound, sent, hpath, hbindings, hsent, f, hf, hhead, hstatements⟩ :=
    method_ok h
  refine ⟨f, hf, hhead, ?_⟩
  rw [hstatements]
  cases hmade with
  | label hp hmember =>
      obtain ⟨name, hcarries, hreads⟩ := (pathOf_carries hp hmember).value hpath
      exact requestStatements_sends_path hcarries hreads
  | binding hrest hbinding =>
      rw [if_pos hrest] at hbindings
      have hbound : Yields (Sends (Naming.fieldIdent m.name) channel []) (bindings b t) :=
        meets_map (sends_mapM hm hbinding) fun _ hr => hr
      exact requestStatements_sends (requestContents_sends_bound (hbound.value hbindings))
  | body hembodied =>
      exact requestStatements_sends
        (requestContents_sends_body ((body_sends hembodied).value hsent))

end Request

namespace Crate

variable {b : Blueprint} {m : Member} {t : StructureShape} {op : Operation} {code : Code}

theorem transmits_of_mem {type : String} {channel : Channel} {ident : String}
    {block f : Expr × Code} (hblock : block ∈ code.blocks)
    (htype : block.1.text = "impl " ++ type ++ " \x7b") (hf : f ∈ block.2.blocks)
    (hhead : f.1.text = requestHead) (h : f.2.Sends ident channel []) :
    code.transmits type channel ident = true := by
  refine List.any_eq_true.mpr ⟨block, hblock, ?_⟩
  rw [htype, beq_self_eq_true, Bool.true_and]
  refine List.any_eq_true.mpr ⟨f, hf, ?_⟩
  rw [hhead, beq_self_eq_true, Bool.true_and]
  exact h [] (List.nil_subset _)

theorem mem_blocks_inputMethods (input : Option StructureShape) {request : Code}
    {f : Expr × Code} (h : f ∈ request.blocks) : f ∈ (inputMethods input request).blocks := by
  unfold inputMethods
  split
  · exact mem_blocks_all.mpr ⟨request, by simp, h⟩
  · exact h

/-- Every member of an input arrives in the request, in the part where it is expected,
if there is a place for it. -/
theorem transmits_of_inputFile (h : inputFile b op = .ok code)
    (ht : b.service.inputOf? op = some t) (hm : m ∈ t.members)
    (hstatus : m.location ≠ .statusCode)
    (hbody : m.location = .body → ∀ p, t.payloadMember? = some p → p = m)
    (hbound : ¬ b.Unbound op t m) :
    ∃ channel, b.channel? t m = some channel ∧
      code.transmits (inputType op) channel (Naming.fieldIdent m.name) = true := by
  obtain ⟨request, fields, hrequest, rfl⟩ := inputFile_ok h
  rw [ht] at hrequest ⊢
  obtain ⟨channel, hchannel, hmade⟩ := Request.exists_made hm hstatus hbody hbound
  obtain ⟨f, hf, hhead, hsends⟩ := Request.method_sends hm hmade hrequest
  obtain ⟨block, hblock, htype, hf⟩ := exists_implemented (inputType op) fields
    (mem_blocks_inputMethods (some t) hf)
  exact ⟨channel, hchannel, transmits_of_mem (mem_blocks_all.mpr ⟨_, by simp, hblock⟩) htype hf
    hhead hsends⟩

end Crate

/-! ## An example

A letter says where it goes in the path and has its stamp in a header. The street is
said to be in the path as well, but the path has no place for it. -/

namespace Definition

/-- A member at a location. -/
def MemberEntry.located (shape location : String) : MemberEntry :=
  { MemberEntry.bare shape with location := some location }

/-- The definition of the letters, in one of the protocols. -/
def letters (protocol : String) : Definition where
  version := none
  metadata :=
    { apiVersion := "1", endpointPrefix := "letters",
      protocol := some protocol, protocols := [], serviceId := none,
      serviceAbbreviation := none, serviceFullName := none, jsonVersion := none,
      targetPrefix := some "Letters", xmlNamespace := none, signingName := none,
      signatureVersion := none }
  operations :=
    [("SendLetter",
      { name := none, http := { method := "POST", requestUri := "/towns/\x7bTown\x7d" },
        input := some ⟨"SendLetterInput", none⟩, output := none,
        errors := [], documentation := none, deprecated := false })]
  shapes :=
    [("SendLetterInput", { ShapeEntry.bare "structure" with
        members := [
          ("Town", MemberEntry.located "Text" "uri"),
          ("Stamp", MemberEntry.located "Text" "header"),
          ("Street", MemberEntry.located "Text" "uri"),
          ("Message", MemberEntry.bare "Text")] }),
      ("Text", ShapeEntry.bare "string")]
  documentation := none

end Definition

/-- The documents of the letters. -/
def Sources.letters (protocol : String) : Sources where
  definition := Definition.letters protocol
  givenName := none
  paginators := none
  waiters := none

/-- A member of a letter. -/
def Member.ofLetter (name : String) (location : Location) : Member where
  name
  shape := "Text"
  required := false
  location
  locationName := none
  queryName := none
  streaming := false
  idempotencyToken := false
  flattened := false
  xmlAttribute := false
  xmlNamespace := none
  timestampFormat := none
  documentation := none
  deprecated := false

/-- The members of a letter. -/
def letterMembers : List Member :=
  [.ofLetter "Town" .uri, .ofLetter "Stamp" .header, .ofLetter "Street" .uri,
    .ofLetter "Message" .body]

/-- The blueprint of the letters. -/
def letterBlueprint (s : Service) : Blueprint :=
  ⟨s, ⟨["SendLetter"], [], [], []⟩, TypeNames.assign s, s.boxedMembers⟩

namespace Crate

/-- The file of the letter's input is written, and `f` says what is to be seen of it. -/
theorem exists_letter {α : Type} (protocol : String) (f : Code → α) (r : α)
    (husage : ((Sources.letters protocol).toService.result.map fun s =>
      Usage.analyze s []) = .ok (.ok ⟨["SendLetter"], [], [], []⟩))
    (hinput : ((Sources.letters protocol).toService.result.map fun s =>
      (s.operation? "SendLetter").bind fun op => (s.inputOf? op).map fun t =>
        (t.members, (inputFile (letterBlueprint s) op).map f)) =
      .ok (some (letterMembers, .ok r))) :
    ∃ s b op t code, (Sources.letters protocol).toService.result = .ok s ∧
      Blueprint.of s [] = .ok b ∧ op ∈ b.operations ∧ b.service = s ∧
        b.service.inputOf? op = some t ∧ t.members = letterMembers ∧
          inputFile b op = .ok code ∧ f code = r := by
  obtain ⟨s, hs, husage⟩ := map_eq_ok.mp husage
  rw [hs] at hinput
  obtain ⟨op, hop, hinput⟩ := Option.bind_eq_some_iff.mp (Except.ok.inj hinput)
  obtain ⟨t, ht, hinput⟩ := Option.map_eq_some_iff.mp hinput
  obtain ⟨hmembers, hcode⟩ := Prod.mk.inj hinput
  obtain ⟨code, hcode, hr⟩ := map_eq_ok.mp hcode
  have hb : Blueprint.of s [] = .ok (letterBlueprint s) :=
    bind_eq_ok.mpr ⟨_, husage, rfl⟩
  exact ⟨s, letterBlueprint s, op, t, code, hs, hb,
    Blueprint.mem_operations_iff.mpr ⟨"SendLetter", List.mem_singleton_self _, hop⟩, rfl, ht,
    hmembers, hcode, hr⟩

/-- In a rest protocol the stamp is on the letter. -/
theorem stamp_transmitted : ∃ s b op t m code,
    (Sources.letters "rest-json").toService.result = .ok s ∧ Blueprint.of s [] = .ok b ∧
      op ∈ b.operations ∧ b.service.inputOf? op = some t ∧ m ∈ t.members ∧
        m.name = "Stamp" ∧ inputFile b op = .ok code ∧
          ∃ channel, b.channel? t m = some channel ∧
            code.transmits (inputType op) channel (Naming.fieldIdent m.name) = true := by
  obtain ⟨s, b, op, t, code, hs, hb, hop, hservice, ht, hmembers, hcode, -⟩ :=
    exists_letter "rest-json" (fun _ => ()) () (by cbv) (by decide +kernel)
  have hprotocol : ((Sources.letters "rest-json").toService.result.map fun s =>
      s.metadata.protocol) = .ok .restJson := by decide
  rw [hs] at hprotocol
  have hprotocol : s.metadata.protocol = .restJson := Except.ok.inj hprotocol
  have hrest : b.protocol.isRest = true := by
    rw [Blueprint.protocol, hservice, hprotocol]
    rfl
  have hm : Member.ofLetter "Stamp" .header ∈ t.members := by
    rw [hmembers]
    exact List.mem_cons_of_mem _ List.mem_cons_self
  refine ⟨s, b, op, t, _, code, hs, hb, hop, ht, hm, rfl, hcode, ?_⟩
  refine transmits_of_inputFile hcode ht hm (by decide) (fun h => absurd h (by decide))
    fun hunbound => ?_
  cases hunbound with
  | protocol hnot _ => exact absurd hrest (by rw [hnot]; decide)
  | placeholder _ hlocation _ => cases hlocation
  | family _ hlocation _ => cases hlocation

/-- In the json protocol it is not, and neither is the street. -/
theorem stamp_not_transmitted : ∃ s b op t code,
    (Sources.letters "json").toService.result = .ok s ∧ Blueprint.of s [] = .ok b ∧
      op ∈ b.operations ∧ b.service.inputOf? op = some t ∧ inputFile b op = .ok code ∧
        (∃ m ∈ t.members, m.name = "Stamp" ∧ m.location = .header ∧ ∀ channel,
          code.transmits (inputType op) channel (Naming.fieldIdent m.name) = false) ∧
        ∃ m ∈ t.members, m.name = "Street" ∧ m.location = .uri ∧ ∀ channel,
          code.transmits (inputType op) channel (Naming.fieldIdent m.name) = false := by
  obtain ⟨s, b, op, t, code, hs, hb, hop, -, ht, hmembers, hcode, htakes⟩ :=
    exists_letter "json" (fun code =>
      (code.takes (Naming.fieldIdent "Stamp"), code.takes (Naming.fieldIdent "Street")))
      (false, false) (by cbv) (by decide +kernel)
  obtain ⟨hstamp, hstreet⟩ := Prod.mk.inj htakes
  refine ⟨s, b, op, t, code, hs, hb, hop, ht, hcode, ?_, ?_⟩
  · exact ⟨.ofLetter "Stamp" .header, by simp [hmembers, letterMembers], rfl, rfl,
      fun channel => not_transmits hstamp⟩
  · exact ⟨.ofLetter "Street" .uri, by simp [hmembers, letterMembers], rfl, rfl,
      fun channel => not_transmits hstreet⟩

end Crate

end Clientwright
