import Clientwright.Proofs.Records

/-!
# Stored services

A service that is stored and read back is the same service. The proof follows
the parts of a service from the inside out. For each there are two lemmas: what
is written for it can be stored, and what was written is read as the part. Parts
that hold numbers need them to fit the words in which they are kept (`InRange`);
no other part needs anything.

A shape is looked at as a whole before its fields are read, and refused if
something in it denotes nothing or it nests too deeply. Neither happens to what
was written for a shape, because that can be stored, four levels deep.
-/

namespace Clientwright

open Json

variable {depth : Nat}

/-! ## Names -/

namespace Protocol

@[simp] theorem storable_toJson (p : Protocol) : Storable depth p.toJson :=
  .string _

@[simp] theorem ofJson?_toJson (p : Protocol) : ofJson? p.toJson = some p := by
  cases p <;> rfl

end Protocol

namespace TimestampFormat

@[simp] theorem storable_toJson (f : TimestampFormat) : Storable depth f.toJson :=
  .string _

@[simp] theorem ofJson?_null : ofJson? .null = none := by
  simp [ofJson?, named?, named?.variantName?]

@[simp] theorem ofJson?_toJson (f : TimestampFormat) : ofJson? f.toJson = some f := by
  cases f <;> rfl

end TimestampFormat

namespace Location

@[simp] theorem storable_toJson (l : Location) : Storable depth l.toJson :=
  .string _

@[simp] theorem ofJson?_toJson (l : Location) : ofJson? l.toJson = some l := by
  cases l <;> rfl

end Location

namespace ScalarKind

@[simp] theorem storable_toJson (k : ScalarKind) : Storable depth k.toJson :=
  .string _

@[simp] theorem ofJson?_toJson (k : ScalarKind) : ofJson? k.toJson = some k := by
  cases k <;> rfl

end ScalarKind

namespace AcceptorState

@[simp] theorem storable_toJson (s : AcceptorState) : Storable depth s.toJson :=
  .string _

@[simp] theorem ofJson?_toJson (s : AcceptorState) : ofJson? s.toJson = some s := by
  cases s <;> rfl

end AcceptorState

/-! ## Shapes -/

namespace XmlNamespace

@[simp] theorem storable_toJson (n : XmlNamespace) : Storable (depth + 1) n.toJson := by
  simp [toJson]

@[simp] theorem ofJson?_null : ofJson? .null = none := by
  simp [ofJson?, record?]

@[simp] theorem ofJson?_toJson (n : XmlNamespace) : ofJson? n.toJson = some n := by
  rw [ofJson?, toJson, record?_object_bind (by simp) (by simp)]
  simp

end XmlNamespace

namespace ShapeRef

@[simp] theorem storable_toJson (r : ShapeRef) : Storable (depth + 1) r.toJson := by
  simp [toJson]

@[simp] theorem ofJson?_toJson (r : ShapeRef) : ofJson? r.toJson = some r := by
  rw [ofJson?, toJson, record?_object_bind (by simp) (by simp)]
  simp

end ShapeRef

namespace Member

@[simp] theorem storable_toJson (m : Member) : Storable (depth + 2) m.toJson := by
  simp [toJson]

@[simp] theorem ofJson?_toJson (m : Member) : ofJson? m.toJson = some m := by
  rw [ofJson?, toJson, record?_object_bind (by simp) (by simp)]
  simp

end Member

namespace StructureShape

/-- The fields of a structure are read back, also from behind a tag. -/
theorem ofJson?_fields (s : StructureShape) (tag : Json) :
    ofJson? (.object (("type", tag) :: s.fields)) = some s := by
  rw [ofJson?, fields, record?_cons_of_not_mem (by simp), record?_object_bind (by simp) (by simp)]
  simp

end StructureShape

namespace ListShape

theorem ofJson?_fields (l : ListShape) (tag : Json) :
    ofJson? (.object (("type", tag) :: l.fields)) = some l := by
  rw [ofJson?, fields, record?_cons_of_not_mem (by simp), record?_object_bind (by simp) (by simp)]
  simp

end ListShape

namespace MapShape

theorem ofJson?_fields (t : MapShape) (tag : Json) :
    ofJson? (.object (("type", tag) :: t.fields)) = some t := by
  rw [ofJson?, fields, record?_cons_of_not_mem (by simp), record?_object_bind (by simp) (by simp)]
  simp

end MapShape

namespace ScalarShape

theorem ofJson?_fields (s : ScalarShape) (tag : Json) :
    ofJson? (.object (("type", tag) :: s.fields)) = some s := by
  rw [ofJson?, fields, record?_cons_of_not_mem (by simp), record?_object_bind (by simp) (by simp)]
  simp

end ScalarShape

namespace Shape

@[simp] theorem storable_toJson (s : Shape) : Storable (depth + 4) s.toJson := by
  cases s with
  | «structure» s => simp [toJson, StructureShape.fields]
  | list l => simp [toJson, ListShape.fields]
  | map t => simp [toJson, MapShape.fields]
  | scalar s => simp [toJson, ScalarShape.fields]

@[simp] theorem ofJson?_toJson (s : Shape) : ofJson? s.toJson = some s := by
  have hstorable : Storable 4 s.toJson := s.storable_toJson
  have hkept : (!s.toJson.isSound || decide (maxFieldDepth + 1 < s.toJson.depth)) = false := by
    rw [hstorable.isSound, Bool.not_true, Bool.false_or, decide_eq_false_iff_not, Nat.not_lt]
    exact Nat.le_trans hstorable.depth_le (by decide)
  rw [ofJson?, hkept]
  -- The tag says which reader goes over the same object again, and that one skips the tag.
  cases s with
  | «structure» s =>
      rw [toJson, record?_singleton (by simp [StructureShape.fields])]
      simp [s.ofJson?_fields]
  | list l =>
      rw [toJson, record?_singleton (by simp [ListShape.fields])]
      simp [l.ofJson?_fields]
  | map t =>
      rw [toJson, record?_singleton (by simp [MapShape.fields])]
      simp [t.ofJson?_fields]
  | scalar s =>
      rw [toJson, record?_singleton (by simp [ScalarShape.fields])]
      simp [s.ofJson?_fields]

end Shape

/-! ## Operations and metadata -/

/-- Does the response code fit 16 bits? -/
def HttpBinding.InRange (b : HttpBinding) : Prop :=
  ∀ code, b.responseCode = some code → code < UInt16.size

namespace HttpBinding

theorem storable_toJson {b : HttpBinding} (h : b.InRange) : Storable (depth + 1) b.toJson := by
  have hcode : ∀ n, b.responseCode = some n → Storable depth (ofNat n) :=
    fun n hn => storable_ofNat (Nat.lt_trans (h n hn) (by decide))
  simpa [toJson] using hcode

theorem ofJson?_toJson {b : HttpBinding} (h : b.InRange) : ofJson? b.toJson = some b := by
  have hcode : ∀ n, b.responseCode = some n → nat16? (ofNat n) = some n :=
    fun n hn => nat16?_ofNat (h n hn)
  rw [ofJson?, toJson, record?_object_bind (by simp) (by simp)]
  simp [Record.optional_cons_self nat16?_null hcode]

end HttpBinding

namespace Operation

theorem storable_toJson {o : Operation} (h : o.http.InRange) : Storable (depth + 2) o.toJson := by
  simp [toJson, HttpBinding.storable_toJson h]

theorem ofJson?_toJson {o : Operation} (h : o.http.InRange) : ofJson? o.toJson = some o := by
  rw [ofJson?, toJson, record?_object_bind (by simp) (by simp)]
  simp [HttpBinding.ofJson?_toJson h]

end Operation

namespace Metadata

@[simp] theorem storable_toJson (m : Metadata) : Storable (depth + 1) m.toJson := by
  simp [toJson]

@[simp] theorem ofJson?_toJson (m : Metadata) : ofJson? m.toJson = some m := by
  rw [ofJson?, toJson, record?_object_bind (by simp) (by simp)]
  simp

end Metadata

/-! ## Selectors and paginators -/

/-- Does the index, if the step has one, fit 64 bits? -/
def Step.InRange : Step → Prop
  | .index n => fitsInt64 n = true
  | .field _ | .project => True

namespace Step

theorem storable_toJson {s : Step} (h : s.InRange) : Storable (depth + 1) s.toJson := by
  cases s with
  | field name => simp [toJson]
  | project => exact .string _
  | index n => simpa [toJson] using storable_ofInt h

theorem ofJson?_toJson {s : Step} (h : s.InRange) : ofJson? s.toJson = some s := by
  cases s with
  | field name => rfl
  | project => rfl
  | index n => rw [toJson, ofJson?, int64?_ofInt h, Option.map_some]

end Step

/-- Do all indices fit 64 bits? -/
def Selector.InRange (s : Selector) : Prop :=
  ∀ steps ∈ s.alternatives, ∀ step ∈ steps, step.InRange

namespace Selector

theorem storable_toJson {s : Selector} (h : s.InRange) : Storable (depth + 4) s.toJson := by
  have hsteps : ∀ steps ∈ s.alternatives, ∀ step ∈ steps, Storable (depth + 1) step.toJson :=
    fun steps hsteps step hstep => Step.storable_toJson (h steps hsteps step hstep)
  simpa [toJson] using hsteps

@[simp] theorem ofJson?_null : ofJson? .null = none := by
  simp [ofJson?, record?]

theorem ofJson?_toJson {s : Selector} (h : s.InRange) : ofJson? s.toJson = some s := by
  have hsteps : ∀ steps ∈ s.alternatives,
      list? Step.ofJson? (.array (steps.map Step.toJson)) = some steps :=
    fun steps hsteps => list?_map fun step hstep => Step.ofJson?_toJson (h steps hsteps step hstep)
  rw [ofJson?, toJson, record?_object_bind (by simp) (by simp)]
  simp [list?_map hsteps]

end Selector

/-- Do all indices of the paginator's selectors fit 64 bits? -/
structure Pagination.InRange (p : Pagination) : Prop where
  outputTokens : ∀ s ∈ p.outputTokens, s.InRange
  resultKeys : ∀ s ∈ p.resultKeys, s.InRange
  moreResults : ∀ s, p.moreResults = some s → s.InRange

namespace Pagination

theorem storable_toJson {p : Pagination} (h : p.InRange) : Storable (depth + 6) p.toJson := by
  have houtput : ∀ s ∈ p.outputTokens, Storable (depth + 4) s.toJson :=
    fun s hs => Selector.storable_toJson (h.outputTokens s hs)
  have hresult : ∀ s ∈ p.resultKeys, Storable (depth + 4) s.toJson :=
    fun s hs => Selector.storable_toJson (h.resultKeys s hs)
  have hmore : ∀ s, p.moreResults = some s → Storable (depth + 5) s.toJson :=
    fun s hs => Selector.storable_toJson (h.moreResults s hs)
  simpa [toJson] using ⟨houtput, hresult, hmore⟩

theorem ofJson?_toJson {p : Pagination} (h : p.InRange) : ofJson? p.toJson = some p := by
  have houtput : list? Selector.ofJson? (.array (p.outputTokens.map Selector.toJson)) = _ :=
    list?_map fun s hs => Selector.ofJson?_toJson (h.outputTokens s hs)
  have hresult : list? Selector.ofJson? (.array (p.resultKeys.map Selector.toJson)) = _ :=
    list?_map fun s hs => Selector.ofJson?_toJson (h.resultKeys s hs)
  have hmore : ∀ s, p.moreResults = some s → Selector.ofJson? s.toJson = some s :=
    fun s hs => Selector.ofJson?_toJson (h.moreResults s hs)
  rw [ofJson?, toJson, record?_object_bind (by simp) (by simp)]
  simp [houtput, hresult, Record.optional_cons_self Selector.ofJson?_null hmore]

end Pagination

/-! ## Waiters -/

namespace Expected

@[simp] theorem storable_toJson (e : Expected) : Storable (depth + 1) e.toJson := by
  cases e with
  | string | boolean | number => simp [toJson]

@[simp] theorem ofJson?_toJson (e : Expected) : ofJson? e.toJson = some e := by
  cases e with
  | string | boolean | number => rfl

end Expected

/-- Do the numbers that the matcher looks for fit their words? -/
def Matcher.InRange : Matcher → Prop
  | .path argument _ | .pathAll argument _ | .pathAny argument _ => argument.InRange
  | .status code => code < UInt16.size
  | .errorCode _ | .anyError _ | .unsupported _ _ => True

namespace Matcher

theorem storable_comparison {a : Selector} (h : a.InRange) (e : Expected) :
    Storable (depth + 5) (comparison a e) := by
  simp [comparison, Selector.storable_toJson h]

theorem comparison?_comparison (make : Selector → Expected → Matcher) {a : Selector}
    (h : a.InRange) (e : Expected) : comparison? make (comparison a e) = some (make a e) := by
  rw [comparison?, comparison, record?_object_bind (by simp) (by simp)]
  simp [Selector.ofJson?_toJson h]

theorem storable_toJson {m : Matcher} (h : m.InRange) : Storable (depth + 6) m.toJson := by
  cases m with
  | path a e | pathAll a e | pathAny a e =>
      have ha : a.InRange := h
      simp [toJson, storable_comparison ha]
  | status code =>
      have hcode : code < UInt32.size := Nat.lt_trans h (by decide)
      simp [toJson, storable_ofNat hcode]
  | errorCode | anyError | unsupported => simp [toJson]

theorem ofJson?_toJson {m : Matcher} (h : m.InRange) : ofJson? m.toJson = some m := by
  cases m with
  | path a e => exact comparison?_comparison .path h e
  | pathAll a e => exact comparison?_comparison .pathAll h e
  | pathAny a e => exact comparison?_comparison .pathAny h e
  | status code => rw [toJson, ofJson?, nat16?_ofNat h, Option.map_some]
  | errorCode | anyError => rfl
  | unsupported matcher reason =>
      rw [toJson, ofJson?, record?_object_bind (by simp) (by simp)]
      simp

end Matcher

namespace Acceptor

theorem storable_toJson {a : Acceptor} (h : a.matcher.InRange) : Storable (depth + 7) a.toJson := by
  simp [toJson, Matcher.storable_toJson h]

theorem ofJson?_toJson {a : Acceptor} (h : a.matcher.InRange) : ofJson? a.toJson = some a := by
  rw [ofJson?, toJson, record?_object_bind (by simp) (by simp)]
  simp [Matcher.ofJson?_toJson h]

end Acceptor

/-- Do the times of the waiter fit 32 bits, and what its acceptors look for fits
too? -/
structure Waiter.InRange (w : Waiter) : Prop where
  delay : w.delay < UInt32.size
  maxAttempts : w.maxAttempts < UInt32.size
  acceptors : ∀ a ∈ w.acceptors, a.matcher.InRange

namespace Waiter

theorem storable_toJson {w : Waiter} (h : w.InRange) : Storable (depth + 9) w.toJson := by
  have hacceptors : ∀ a ∈ w.acceptors, Storable (depth + 7) a.toJson :=
    fun a ha => Acceptor.storable_toJson (h.acceptors a ha)
  simpa [toJson, storable_ofNat h.delay, storable_ofNat h.maxAttempts] using hacceptors

theorem ofJson?_toJson {w : Waiter} (h : w.InRange) : ofJson? w.toJson = some w := by
  have hacceptors : list? Acceptor.ofJson? (.array (w.acceptors.map Acceptor.toJson)) = _ :=
    list?_map fun a ha => Acceptor.ofJson?_toJson (h.acceptors a ha)
  rw [ofJson?, toJson, record?_object_bind (by simp) (by simp)]
  simp [nat32?_ofNat h.delay, nat32?_ofNat h.maxAttempts, hacceptors]

end Waiter

/-! ## Services -/

/-- Does every number of the service fit the word in which it is kept? -/
structure Service.InRange (s : Service) : Prop where
  operations : ∀ o ∈ s.operations.values, o.http.InRange
  paginators : ∀ p ∈ s.paginators.values, p.InRange
  waiters : ∀ w ∈ s.waiters.values, w.InRange

namespace Service

theorem storable_toJson {s : Service} (h : s.InRange) : Storable (depth + 11) s.toJson := by
  have hoperations : ∀ o ∈ s.operations.values, Storable (depth + 9) o.toJson :=
    fun o ho => Operation.storable_toJson (h.operations o ho)
  have hpaginators : ∀ p ∈ s.paginators.values, Storable (depth + 9) p.toJson :=
    fun p hp => Pagination.storable_toJson (h.paginators p hp)
  have hwaiters : ∀ w ∈ s.waiters.values, Storable (depth + 9) w.toJson :=
    fun w hw => Waiter.storable_toJson (h.waiters w hw)
  simpa [toJson] using ⟨hoperations, hpaginators, hwaiters⟩

theorem ofJson?_toJson {s : Service} (h : s.InRange) : ofJson? s.toJson = some s := by
  have hoperations : table? Operation.ofJson? (s.operations.toJson Operation.toJson) = _ :=
    table?_toJson fun o ho => Operation.ofJson?_toJson (h.operations o ho)
  have hpaginators : table? Pagination.ofJson? (s.paginators.toJson Pagination.toJson) = _ :=
    table?_toJson fun p hp => Pagination.ofJson?_toJson (h.paginators p hp)
  have hwaiters : table? Waiter.ofJson? (s.waiters.toJson Waiter.toJson) = _ :=
    table?_toJson fun w hw => Waiter.ofJson?_toJson (h.waiters w hw)
  rw [ofJson?, toJson, record?_object_bind (by simp) (by simp)]
  simp [hoperations, hpaginators, hwaiters]

/-- A service that is stored and read back is the same service. -/
theorem ofStored?_stored {s : Service} (h : s.InRange) : ofStored? s.stored = some s := by
  have hstorable : Storable 11 s.toJson := storable_toJson h
  rw [ofStored?, stored, ofText?_text hstorable]
  exact ofJson?_toJson h

/-- A service whose numbers are the greatest that fit, with a matcher that cannot
be turned into code and texts that have to be escaped. -/
def ferries : Service where
  name := "ferries"
  metadata := ⟨"2020-02-29", "ferries", "Ferries", "Ferry \"Times\"", .restJson, some "1.1", none,
    none, some "ferries", none⟩
  documentation := some "Sails\tat\x01noon\n\\"
  operations := ⟨[("ListSailings", {
    name := "ListSailings"
    http := ⟨"GET", "/sailings/\x7bPort+\x7d", some 65535⟩
    input := none
    output := some "Sailings"
    resultWrapper := none
    errors := ["Storm"]
    documentation := none
    deprecated := true })], by simp⟩
  shapes := ⟨[
    ("Days", .map ⟨"Days", ⟨"Port", some "day"⟩, ⟨"Sailings", none⟩, true, none⟩),
    ("Port", .scalar ⟨"Port", .string, ["North", "Süd"], none, false, true, none⟩),
    ("Ports", .list ⟨"Ports", ⟨"Port", none⟩, false, some ""⟩),
    ("Sailings", .structure ⟨"Sailings",
      [⟨"At", "Port", true, .headers, some "at-", none, false, false, false, true,
        some ⟨"urn:ferries", some "f"⟩, some .rfc822, none, false⟩],
      none, false, none, none, none, true, none, false⟩)], by decide⟩
  paginators := ⟨[("ListSailings", {
    operation := "ListSailings"
    inputTokens := ["After"]
    outputTokens := [⟨[[.field "Sailings", .index (-0x8000000000000000), .project]]⟩]
    limitKey := none
    resultKeys := [⟨[[.field "Sailings"], []]⟩]
    moreResults := some ⟨[]⟩ })], by simp⟩
  waiters := ⟨[("Calm", {
    name := "Calm"
    operation := "ListSailings"
    delay := 4294967295
    maxAttempts := 0
    description := some ""
    acceptors := [
      ⟨.success, .pathAll ⟨[[.project, .index 0]]⟩ (.number "1e3")⟩,
      ⟨.failure, .status 65535⟩,
      ⟨.retry, .unsupported "path" "a call"⟩] })], by simp⟩

theorem inRange_ferries : ferries.InRange := by
  refine ⟨?operations, ?paginators, ?waiters⟩
  case operations => simp [ferries, Table.values, HttpBinding.InRange, UInt16.size]
  case paginators =>
    intro p hp
    obtain rfl := List.mem_singleton.mp hp
    have hindex : fitsInt64 (-0x8000000000000000) = true := by decide
    constructor <;> simp [Selector.InRange, Step.InRange, hindex]
  case waiters =>
    intro w hw
    obtain rfl := List.mem_singleton.mp hw
    have hindex : fitsInt64 0 = true := by decide
    refine ⟨by decide, by decide, ?acceptors⟩
    simp [Matcher.InRange, Selector.InRange, Step.InRange, hindex, UInt16.size]

theorem ofStored?_ferries : ferries.InRange ∧ ofStored? ferries.stored = some ferries :=
  ⟨inRange_ferries, ofStored?_stored inRange_ferries⟩

end Service

end Clientwright
