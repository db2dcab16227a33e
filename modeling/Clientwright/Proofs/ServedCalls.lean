import Clientwright.Proofs.FileCalls
import Clientwright.Proofs.Linked

/-!
# Calls and what they call

A call of a conversion is served if what it calls is there: the structure is among
those that the usage has for this direction, and the file of its type was written
and defines the conversion. Callers and definitions come from different places. An
emitter calls for the structures in the values of some members, and a definition is
there because the usage reached the structure. So the usage has to be closed under
exactly the steps that the emitters take, which is said once for any set of names
that is reached from some roots (`holds_of_root`, `holds_of_reached`).

One kind of call is not served. The payload of a request in the rest protocols is
told to write itself even if it is a list or a map, which have no conversions
(`Stray`). There is nothing else: a call in a generated crate is served unless it is
of this kind, and every payload of this kind is called.
-/

namespace Clientwright

open Relation Outcome

/-! ## Definitions of conversions -/

namespace Code

/-- The block is a function of a conversion's name. -/
def IsConversion (conversion : Conversion) (b : Expr × Code) : Prop :=
  ("pub(crate) fn " ++ conversion.name ++ "(").toList <+: b.1.text.toList

/-- The code implements a type, with a function for the conversion. -/
def Defines (c : Code) (type : String) (conversion : Conversion) : Prop :=
  ∃ b ∈ c.blocks, b.1.text = "impl " ++ type ++ " \x7b" ∧
    ∃ f ∈ b.2.blocks, IsConversion conversion f

end Code

namespace Crate

open Code

variable {b : Blueprint} {t : StructureShape} {c : Code}

theorem exists_isConversion {conversion : Conversion} {start : String}
    {more : List Expr} {body : Code}
    (h : ("pub(crate) fn " ++ conversion.name ++ "(").toList <+: start.toList) :
    ∃ f ∈ (braces (Expr.of (.plain start :: more)) body).blocks,
      IsConversion conversion f := by
  refine ⟨_, List.mem_singleton_self _, h.trans ?_⟩
  show start.toList <+: (start ++ (Expr.of more).text ++ " \x7b").toList
  rw [String.toList_append, String.toList_append, List.append_assoc]
  exact List.prefix_append _ _

theorem defines_structureCode {fields : List Field} {methods : List Code}
    {conversion : Conversion} {f : Expr × Code} (hc : c ∈ methods) (hf : f ∈ c.blocks)
    (hconversion : IsConversion conversion f) :
    (structureCode b t fields methods).Defines (b.typeName t.name) conversion := by
  have hne : methods ≠ [] := List.ne_nil_of_mem hc
  obtain ⟨block, hblock, htext, hmem⟩ := exists_implemented (b.typeName t.name) fields
    (mem_blocks_spaced.mpr ⟨c, hc, hf⟩)
  exact ⟨block, mem_blocks_all.mpr ⟨_, by simp [hne], hblock⟩, htext, f, hmem, hconversion⟩

theorem writer_isConversion (h : writer b t = .ok c) :
    ∃ f ∈ c.blocks, IsConversion b.protocol.writing f := by
  cases hencoding : b.protocol.requestEncoding with
  | json =>
      rw [writer, hencoding] at h
      obtain ⟨object, -, h⟩ := bind_eq_ok.mp h
      obtain rfl := pure_eq_ok.mp h
      rw [Protocol.writing, hencoding]
      exact exists_isConversion (by decide)
  | xml =>
      rw [writer, hencoding] at h
      obtain ⟨attributes, -, h⟩ := bind_eq_ok.mp h
      obtain ⟨elements, -, h⟩ := bind_eq_ok.mp h
      obtain rfl := pure_eq_ok.mp h
      rw [Protocol.writing, hencoding]
      exact exists_isConversion (by decide)
  | query =>
      rw [writer, hencoding] at h
      obtain ⟨statements, -, h⟩ := bind_eq_ok.mp h
      obtain rfl := pure_eq_ok.mp h
      rw [Protocol.writing, hencoding]
      exact exists_isConversion (by decide)

theorem reader_isConversion (h : reader b t = .ok c) :
    ∃ f ∈ c.blocks, IsConversion b.protocol.reading f := by
  cases hencoding : b.protocol.responseEncoding with
  | json =>
      rw [reader, hencoding] at h
      obtain ⟨fields, -, h⟩ := bind_eq_ok.mp h
      obtain rfl := pure_eq_ok.mp h
      rw [Protocol.reading, hencoding]
      exact exists_isConversion (by decide)
  | xml | query =>
      rw [reader, hencoding] at h
      obtain ⟨fields, -, h⟩ := bind_eq_ok.mp h
      obtain rfl := pure_eq_ok.mp h
      rw [Protocol.reading, hencoding]
      exact exists_isConversion (by decide)

end Crate

/-! ## Usage -/

namespace Service

/-- The structure of the name is reached from one of the roots. -/
def Reached (s : Service) (Root : StructureShape → Prop) (n : String) : Prop :=
  s.IsStructure n ∧ ∃ t, Root t ∧ s.ReachedFrom t n

end Service

namespace Blueprint

variable {b : Blueprint} {Root : StructureShape → Prop} {t u : StructureShape}
  {m : Member} {n : String}

/-- The structures in the members of a root are reached. -/
theorem holds_of_root (hs : b.service.Closed) (ht : Root t) :
    b.Holds (b.service.Reached Root) t.members := by
  intro m hm s hmem
  obtain ⟨n, hpath, hn⟩ := Service.mem_structures_value_iff.mp hmem
  obtain rfl : s.name = n := hs.named hn
  exact ⟨⟨s, hn⟩, t, ht, m, hm, Service.leads_of_holds hpath⟩

/-- And so are those in the members of a structure that is reached. -/
theorem holds_of_reached (hs : b.service.Closed) (h : b.service.Reached Root n)
    (hu : b.service.shape? n = some (.structure u)) :
    b.Holds (b.service.Reached Root) u.members := by
  obtain ⟨-, t, ht, hreached⟩ := h
  intro m hm s hmem
  obtain ⟨k, hpath, hk⟩ := Service.mem_structures_value_iff.mp hmem
  obtain rfl : s.name = k := hs.named hk
  exact ⟨⟨s, hk⟩, t, ht, hreached.member hu hm hpath⟩

/-- The shape of the name is a list or a map. -/
def IsCollection (b : Blueprint) (k : String) : Prop :=
  (∃ l, b.service.shape? k = some (.list l)) ∨ ∃ l, b.service.shape? k = some (.map l)

/-- A call that writes the payload of a request although it is a list or a map. -/
inductive Stray (b : Blueprint) : Call → Prop where
  | payload {op : Operation} {t : StructureShape} {m : Member} (hop : op ∈ b.operations)
      (hrest : b.protocol.isRest = true) (ht : b.service.inputOf? op = some t)
      (hm : t.payloadMember? = some m) (hshape : b.IsCollection m.shape) :
      b.Stray (.method b.protocol.writing m.shape)

theorem value_ne_scalar {k : String} (h : b.IsCollection k) :
    ∀ k' s, b.value k ≠ .scalar k' s := by
  intro k' s
  rw [value, Service.value, Service.valueWithin]
  rcases h with ⟨l, hl⟩ | ⟨l, hl⟩ <;>
  · rw [hl]
    dsimp only
    split <;>
    · intro heq
      cases heq

theorem payloadName_of_collection (h : b.IsCollection m.shape) :
    Request.payloadName b m = m.shape := by
  rcases h with ⟨l, hl⟩ | ⟨l, hl⟩ <;>
  · rw [Request.payloadName, Service.structure?, hl]
    rfl

/-- A payload that is no scalar goes by the name of its structure, or it is a list
or a map. -/
theorem payloadName_cases (hshape : ∃ shape, b.service.shape? m.shape = some shape)
    (hv : ∀ k s, b.value m.shape ≠ .scalar k s) :
    (∃ u ∈ (b.value m.shape).structures, Request.payloadName b m = u.name) ∨
      b.IsCollection m.shape := by
  obtain ⟨shape, hshape⟩ := hshape
  cases shape with
  | «structure» u =>
      refine .inl ⟨u, Service.mem_structures_value_iff.mpr ⟨_, .refl, hshape⟩, ?_⟩
      rw [Request.payloadName, Service.structure?_eq_some_iff.mpr hshape]
      rfl
  | scalar s =>
      refine absurd ?_ (hv m.shape s)
      rw [value, Service.value, Service.valueWithin, hshape]
  | list l => exact .inr (.inl ⟨l, hshape⟩)
  | map l => exact .inr (.inr ⟨l, hshape⟩)

end Blueprint

/-! ## The crate -/

namespace Crate

/-- What the call calls was written: the structure is used in this direction, and
the file of its type defines the conversion of the protocol. -/
inductive Served (b : Blueprint) (products : List Product) : Call → Prop where
  | writing {n : String} {t : StructureShape} {code : Code} (hn : n ∈ b.usage.serialized)
      (ht : b.service.structure? n = some t)
      (hfile : .file (.item .types (b.moduleName n)) (.code code) ∈ products)
      (hdefines : code.Defines (b.typeName n) b.protocol.writing) :
      Served b products (.method b.protocol.writing n)
  | reading {n : String} {t : StructureShape} {code : Code} (hn : n ∈ b.usage.parsed)
      (ht : b.service.structure? n = some t)
      (hfile : .file (.item .types (b.moduleName n)) (.code code) ∈ products)
      (hdefines : code.Defines (b.typeName n) b.protocol.reading) :
      Served b products (b.readingCall b.protocol.reading n)

variable {b : Blueprint} {o : Options} {op : Operation} {f : File} {c : Contents}
  {n : String} {code : Code} {call : Call}

/-- Every structure that is used has its file, with the conversions of its
directions. -/
theorem exists_structureFile (hb : b.Ready) (h : (generate b o).result = .ok ())
    (hn : n ∈ b.usage.structures) :
    ∃ t code, b.service.structure? n = some t ∧
      .file (.item .types (b.moduleName n)) (.code code) ∈ (generate b o).events ∧
      (n ∈ b.usage.serialized → code.Defines (b.typeName n) b.protocol.writing) ∧
      (n ∈ b.usage.parsed → code.Defines (b.typeName n) b.protocol.reading) := by
  obtain ⟨hcomplete, hwritten⟩ := generate_ok h
  obtain ⟨t, ht, code, hcode⟩ := hcomplete.structures n hn
  obtain rfl : t.name = n := hb.closed.named (Service.structure?_eq_some_iff.mp ht)
  refine ⟨t, code, ht, (hwritten _ _).mpr (.type (.ofStructure hn ht hcode)), ?_⟩
  obtain ⟨fields, methods, rfl, hwriter, hreader, hmem⟩ := structureFile_ok hcode
  refine ⟨fun hserialized => ?_, fun hparsed => ?_⟩
  · obtain ⟨c, hc⟩ := hwriter hserialized
    obtain ⟨f, hf, hconversion⟩ := writer_isConversion hc
    exact defines_structureCode ((hmem c).mpr (.inr (.inl ⟨hserialized, hc⟩))) hf hconversion
  · obtain ⟨c, hc⟩ := hreader hparsed
    obtain ⟨f, hf, hconversion⟩ := reader_isConversion hc
    exact defines_structureCode ((hmem c).mpr (.inr (.inr ⟨hparsed, hc⟩))) hf hconversion

/-- Writing needs what is written, and reading what is read. -/
theorem Written.calls {S : Call → Prop} (hb : b.Ready)
    (hwriting : ∀ n ∈ b.usage.serialized, S (.method b.protocol.writing n))
    (hreading : ∀ n ∈ b.usage.parsed, S (b.readingCall b.protocol.reading n))
    (hstray : ∀ call, b.Stray call → S call) (h : Written b o f (.code code)) :
    code.Calls S := by
  obtain ⟨selection, -, hexact⟩ := hb.exact
  have hserialized : ∀ {t}, b.Holds (b.service.Reached
      (b.service.IsInput b.usage.operations)) t →
      b.Holds (fun n => S (.method b.protocol.writing n)) t :=
    fun ht => ht.mono fun n hn => hwriting n ((hexact.serialized n).mpr hn)
  have hparsed : ∀ {t}, b.Holds (b.service.Reached
      (b.service.IsOutput b.usage.operations)) t →
      b.Holds (fun n => S (b.readingCall b.protocol.reading n)) t :=
    fun ht => ht.mono fun n hn => hreading n ((hexact.parsed n).mpr hn)
  have hnamed : ∀ m, (b.value m).Named := Blueprint.named_value hb.closed
  cases h with
  | client => exact clientFile_calls
  | operation hop h =>
      obtain ⟨n, hn, hname⟩ := Blueprint.mem_operations_iff.mp hop
      cases h with
      | input h =>
          refine inputFile_calls h fun t ht => ?_
          obtain ⟨k, hk, htk⟩ := Option.bind_eq_some_iff.mp ht
          have hshape := Service.structure?_eq_some_iff.mp htk
          have hroot : b.service.IsInput b.usage.operations t :=
            ⟨n, hn, _, k, hname, hk, hshape⟩
          have hholds := Blueprint.holds_of_root hb.closed hroot
          refine ⟨hserialized hholds, fun m hrest hm hv => ?_⟩
          have hmem := Request.mem_of_payloadMember? hm
          rcases Blueprint.payloadName_cases (hb.closed.resolved (.member hshape hmem)) hv
            with ⟨u, hu, heq⟩ | hcollection
          · exact heq ▸ hserialized hholds m hmem u hu
          · rw [Blueprint.payloadName_of_collection hcollection]
            exact hstray _ (.payload hop hrest ht hm hcollection)
      | output h =>
          refine outputFile?_calls h fun t ht => ⟨fun m _ => hnamed m.shape, hparsed ?_⟩
          obtain ⟨k, hk, htk⟩ := Option.bind_eq_some_iff.mp ht
          exact Blueprint.holds_of_root hb.closed
            ⟨n, hn, _, k, hname, hk, Service.structure?_eq_some_iff.mp htk⟩
  | type h =>
      cases h with
      | @ofStructure n t code hn ht h =>
          have hshape := Service.structure?_eq_some_iff.mp ht
          obtain rfl : t.name = n := hb.closed.named hshape
          refine structureFile_calls h (fun hmem => hserialized ?_)
            fun hmem => ⟨fun m _ => hnamed m.shape, hparsed ?_⟩
          · exact Blueprint.holds_of_reached hb.closed ((hexact.serialized _).mp hmem) hshape
          · exact Blueprint.holds_of_reached hb.closed ((hexact.parsed _).mp hmem) hshape
      | ofEnum hn h => exact enumFile_calls.value h
  | index a => simp [Crate.index, moduleFile]
  | pages h => exact pagesFile_calls
  | waiters h =>
      rw [wantedWaiters_eq h]
      exact waitersFile_calls
  | library => simp [Package.library]

theorem not_served_of_stray (hb : b.Ready) {products : List Product}
    (hcall : b.Stray call) : ¬ Served b products call := by
  obtain ⟨selection, -, hexact⟩ := hb.exact
  cases hcall with
  | payload _ _ _ _ hshape =>
      intro hserved
      cases hserved with
      | writing hn ht hfile hdefines =>
          obtain ⟨⟨u, hu⟩, -⟩ := (hexact.serialized _).mp hn
          rcases hshape with ⟨l, hl⟩ | ⟨l, hl⟩
          · cases hu.symm.trans hl
          · cases hu.symm.trans hl

/-- The file of an input calls for its payload. -/
theorem exists_call_of_stray (h : (generate b o).result = .ok ())
    (hcall : b.Stray call) :
    ∃ f code, .file f (.code code) ∈ (generate b o).events ∧ call ∈ code.calls := by
  obtain ⟨hcomplete, hwritten⟩ := generate_ok h
  cases hcall with
  | @payload op t m hop hrest ht hm hshape =>
      obtain ⟨code, hcode⟩ := (hcomplete.operations op hop).1
      refine ⟨_, code, (hwritten _ _).mpr (.operation hop (.input hcode)), ?_⟩
      rw [← Blueprint.payloadName_of_collection hshape]
      exact inputFile_converts hcode hrest ht hm (Blueprint.value_ne_scalar hshape)
        fun _ hmem => hmem

/-- In a crate that was generated to its end every call is served that is not a
stray one, and every stray one is made. -/
theorem served_iff_of_generate (hb : b.Ready) (h : (generate b o).result = .ok ()) :
    (∀ f code, .file f (.code code) ∈ (generate b o).events → ∀ call ∈ code.calls,
      (Served b (generate b o).events call ↔ ¬ b.Stray call)) ∧
      ∀ call, b.Stray call →
        ∃ f code, .file f (.code code) ∈ (generate b o).events ∧ call ∈ code.calls := by
  refine ⟨fun f code hfile call hcall => ?_, fun call => exists_call_of_stray h⟩
  refine ⟨fun hserved hstray => not_served_of_stray hb hstray hserved, fun hstray => ?_⟩
  have hstructures : ∀ n, n ∈ b.usage.serialized ∨ n ∈ b.usage.parsed →
      n ∈ b.usage.structures := by
    intro n hn
    rw [Usage.structures, mem_sortedNames, List.mem_append]
    exact hn
  have hcalls : code.Calls fun call => Served b (generate b o).events call ∨ b.Stray call := by
    refine Written.calls hb (fun n hn => .inl ?_) (fun n hn => .inl ?_)
      (fun call hcall => .inr hcall) (((generate_ok h).2 _ _).mp hfile)
    · obtain ⟨t, code, ht, hmem, hdefines, -⟩ :=
        exists_structureFile hb h (hstructures n (.inl hn))
      exact .writing hn ht hmem (hdefines hn)
    · obtain ⟨t, code, ht, hmem, -, hdefines⟩ :=
        exists_structureFile hb h (hstructures n (.inr hn))
      exact .reading hn ht hmem (hdefines hn)
  exact (hcalls call hcall).resolve_right hstray

end Crate

namespace Generator

/-- Whatever a generator writes from documents: a call of a conversion has what it
calls unless it is made on the payload of a request that is a list or a map. Every
such payload is called, and has nothing that it calls. -/
theorem served_iff {src : Sources} {s : Service} {o : Options} {g : Generator}
    {out : String} (h : src.toService.result = .ok s) (hg : Generator.of s o = .ok g)
    (hrun : (g.generate out).result = .ok ()) :
    (∀ f code, .file f (.code code) ∈ (Crate.generate g.blueprint o).events →
      ∀ call ∈ code.calls,
        (Crate.Served g.blueprint (Crate.generate g.blueprint o).events call ↔
          ¬ g.blueprint.Stray call)) ∧
      ∀ call, g.blueprint.Stray call →
        ∃ f code, .file f (.code code) ∈ (Crate.generate g.blueprint o).events ∧
          call ∈ code.calls := by
  obtain ⟨hb, hoptions⟩ := of_eq_ok hg
  obtain ⟨hready, -⟩ := Blueprint.ready_of_of h hb
  obtain rfl : g.options = o := hoptions
  exact Crate.served_iff_of_generate hready hrun

end Generator

/-! ## An example

A request that sends a basket as a whole. What the basket is decides whether the
request can be written. -/

namespace Definition

/-- The shapes of the baskets; the payload is of the given one. -/
def basketShapes (payload : String) : List (String × ShapeEntry) :=
  [("FillBasketInput", { ShapeEntry.bare "structure" with
      members := [("Contents", MemberEntry.bare payload)]
      payload := some "Contents" }),
    ("Basket", { ShapeEntry.bare "structure" with
      members := [("Apples", MemberEntry.bare "Apples")] }),
    ("Apples", { ShapeEntry.bare "list" with member := some ⟨"Apple", none⟩ }),
    ("Apple", ShapeEntry.bare "string")]

/-- The definition of the baskets. -/
def baskets (payload : String) : Definition where
  version := none
  metadata :=
    { apiVersion := "1", endpointPrefix := "baskets",
      protocol := some "rest-json", protocols := [], serviceId := none,
      serviceAbbreviation := none, serviceFullName := none, jsonVersion := none,
      targetPrefix := none, xmlNamespace := none, signingName := none,
      signatureVersion := none }
  operations :=
    [("FillBasket",
      { name := none, http := { method := "POST", requestUri := "/baskets" },
        input := some ⟨"FillBasketInput", none⟩, output := none,
        errors := [], documentation := none, deprecated := false })]
  shapes := basketShapes payload
  documentation := none

end Definition

/-- The documents of the baskets. -/
def Sources.baskets (payload : String) : Sources where
  definition := Definition.baskets payload
  givenName := none
  paginators := none
  waiters := none

namespace Generator

theorem generate_baskets (payload : String) (serialized : List String)
    (husage : ((Sources.baskets payload).toService.result.map fun s =>
      Usage.analyze s []) = .ok (.ok ⟨["FillBasket"], serialized, [], []⟩))
    (hrun : ((Sources.baskets payload).toService.result.map fun s =>
      (Crate.generate ⟨s, ⟨["FillBasket"], serialized, [], []⟩, TypeNames.assign s,
        s.boxedMembers⟩ {}).result) = .ok (.ok ())) :
    ∃ s g, (Sources.baskets payload).toService.result = .ok s ∧
      Generator.of s {} = .ok g ∧ (g.generate "out").result = .ok () ∧
        g.blueprint.service = s ∧ g.blueprint.usage.operations = ["FillBasket"] := by
  obtain ⟨s, hs, husage⟩ := map_eq_ok.mp husage
  rw [hs] at hrun
  have hg : Generator.of s {} = .ok ⟨⟨s, ⟨["FillBasket"], serialized, [], []⟩,
      TypeNames.assign s, s.boxedMembers⟩, {}⟩ :=
    bind_eq_ok.mpr ⟨_, bind_eq_ok.mpr ⟨_, husage, rfl⟩, rfl⟩
  exact ⟨s, _, hs, hg, Except.ok.inj hrun, rfl, rfl⟩

/-- The crates of both baskets are generated. -/
theorem runs_baskets : ∀ p ∈ [("Basket", ["Basket"]), ("Apples", [])],
    ((Sources.baskets p.1).toService.result.map fun s =>
      (Crate.generate ⟨s, ⟨["FillBasket"], p.2, [], []⟩, TypeNames.assign s,
        s.boxedMembers⟩ {}).result) = .ok (.ok ()) := by
  decide +kernel

/-- A basket that is a structure is written. -/
theorem basket_served : ∃ s g, (Sources.baskets "Basket").toService.result = .ok s ∧
    Generator.of s {} = .ok g ∧ (g.generate "out").result = .ok () ∧
      (∀ f code, .file f (.code code) ∈ (Crate.generate g.blueprint {}).events →
        ∀ call ∈ code.calls,
          (Crate.Served g.blueprint (Crate.generate g.blueprint {}).events call ↔
            ¬ g.blueprint.Stray call)) ∧
        ∀ call, g.blueprint.Stray call →
          ∃ f code, .file f (.code code) ∈ (Crate.generate g.blueprint {}).events ∧
            call ∈ code.calls := by
  obtain ⟨s, g, hs, hg, hrun, -⟩ :=
    generate_baskets "Basket" ["Basket"] (by cbv) (runs_baskets ("Basket", ["Basket"]) (by simp))
  exact ⟨s, g, hs, hg, hrun, served_iff hs hg hrun⟩

/-- Apples without a basket are not, although the crate is generated. -/
theorem apples_not_served : ∃ s g, (Sources.baskets "Apples").toService.result = .ok s ∧
    Generator.of s {} = .ok g ∧ (g.generate "out").result = .ok () ∧
      ∃ f code, .file f (.code code) ∈ (Crate.generate g.blueprint {}).events ∧
        ∃ call ∈ code.calls,
          ¬ Crate.Served g.blueprint (Crate.generate g.blueprint {}).events call := by
  obtain ⟨s, g, hs, hg, hrun, hservice, hoperations⟩ :=
    generate_baskets "Apples" [] (by cbv) (runs_baskets ("Apples", []) (by simp))
  obtain ⟨hb, hoptions⟩ := of_eq_ok hg
  obtain ⟨hready, -⟩ := Blueprint.ready_of_of hs hb
  have hpayload : ((Sources.baskets "Apples").toService.result.map fun s =>
      (s.metadata.protocol.isRest, (s.operation? "FillBasket").bind fun op =>
        (s.inputOf? op).bind fun t => t.payloadMember?.map (·.shape),
        s.shape? "Apples")) =
      .ok (true, some "Apples", some (.list ⟨"Apples", ⟨"Apple", none⟩, false, none⟩)) := by
    decide
  rw [hs] at hpayload
  obtain ⟨hrest, hpayload, hlist⟩ := Prod.mk.inj (Except.ok.inj hpayload)
    |>.imp_right Prod.mk.inj
  obtain ⟨op, hop, hpayload⟩ := Option.bind_eq_some_iff.mp hpayload
  obtain ⟨t, ht, hpayload⟩ := Option.bind_eq_some_iff.mp hpayload
  obtain ⟨m, hm, hshape⟩ := Option.map_eq_some_iff.mp hpayload
  subst hservice
  have hstray : g.blueprint.Stray (.method g.blueprint.protocol.writing m.shape) :=
    .payload (Blueprint.mem_operations_iff.mpr ⟨"FillBasket", by rw [hoperations]; simp, hop⟩)
      hrest ht hm (.inl ⟨_, hshape ▸ hlist⟩)
  have hend : (Crate.generate g.blueprint {}).result = .ok () := by
    rw [← hoptions]
    exact hrun
  obtain ⟨f, code, hfile, hcall⟩ := Crate.exists_call_of_stray hend hstray
  exact ⟨_, g, hs, hg, hrun, f, code, hfile, _, hcall,
    Crate.not_served_of_stray hready hstray⟩

end Generator

end Clientwright
