import Clientwright.Proofs.ClientFiles
import Clientwright.Proofs.ResponseCalls

/-!
# Calls in files

Conversions are called where values are written or read, which is in inputs,
outputs and the structures that are types. The other files only pass inputs and
outputs on, so they call nothing, whatever they are made of.

A structure that is a type has two methods, and each calls what the other
structures need for the same direction. That is why the statement about its file
asks for one direction only where the usage has it.
-/

namespace Clientwright

open Outcome

variable {b : Blueprint} {S : Call → Prop} {t : StructureShape} {o : Operation}
  {code : Code}

theorem ValueType.expr_calls {type : ValueType} : type.expr.Calls S := by
  induction type with
  | scalar kind => exact fun q => by simp [expr]
  | generated name => exact fun q => by simp [expr]
  | list item ih => exact fun q => by simp [expr, ih]
  | map value ih => exact fun q => by simp [expr, ih]
  | boxed inner ih => exact fun q => by simp [expr, ih]

namespace Crate

@[simp]
theorem documented_calls {html : Option String} : (documented html).Calls S ↔ True := by
  simp [documented]

@[simp]
theorem usingRuntime_calls : usingRuntime.Calls S ↔ True := by
  simp [usingRuntime]

/-! ## Structures in general -/

theorem Field.declaration_calls {f : Field} : f.declaration.Calls S := by
  simp [declaration, ValueType.expr_calls (S := S) _]

theorem Field.method_calls {f : Field} : f.method.Calls S := by
  dsimp only [method]
  split <;> simp [ValueType.expr_calls (S := S) _]

/-- What is called in a structure is called in its methods. -/
theorem structCode_calls {name : String} {fields : List Field} {methods : Option Code} :
    (structCode name fields methods).Calls S ↔ ∀ c, methods = some c → c.Calls S := by
  simp [structCode, Field.declaration_calls, Field.method_calls]

theorem operationCode_calls {title name : String} {fields : List Field} {methods : Code} :
    (Code.all [usingRuntime, .text title, structCode name fields methods]).Calls S ↔
      methods.Calls S := by
  simp [structCode_calls]

/-! ## Inputs and outputs -/

theorem inputMethods_calls {input : Option StructureShape} {request : Code} :
    (inputMethods input request).Calls S ↔ request.Calls S := by
  rw [inputMethods]
  split
  next validation hv =>
    obtain ⟨t, -, hv⟩ := Option.bind_eq_some_iff.mp hv
    simp [Request.validation?_calls hv]
  next => rfl

theorem inputFile_calls (hcode : inputFile b o = .ok code)
    (h : ∀ t, b.service.inputOf? o = some t → Request.Calling b S t) : code.Calls S := by
  obtain ⟨request, fields, hrequest, rfl⟩ := inputFile_ok hcode
  exact operationCode_calls.mpr
    (inputMethods_calls.mpr ((Request.method_calls h).value hrequest))

/-- A payload that is no scalar is converted. -/
theorem inputFile_converts {m : Member} (hcode : inputFile b o = .ok code)
    (hrest : b.protocol.isRest = true) (ht : b.service.inputOf? o = some t)
    (hm : t.payloadMember? = some m) (hv : ∀ k s, b.value m.shape ≠ .scalar k s)
    (hc : code.Calls S) : S (.method b.protocol.writing (Request.payloadName b m)) := by
  obtain ⟨request, fields, hrequest, rfl⟩ := inputFile_ok hcode
  rw [operationCode_calls, inputMethods_calls] at hc
  rw [ht] at hrequest
  exact Request.method_converts hrest hm hv hrequest hc

theorem outputFile?_calls (hcode : outputFile? b o = .ok (some code))
    (h : ∀ t, b.service.outputOf? o = some t → Response.Calling b S t) :
    code.Calls S := by
  rw [outputFile?] at hcode
  split at hcode
  next t ht =>
    obtain ⟨method, hmethod, hcode⟩ := bind_eq_ok.mp hcode
    obtain ⟨fields, -, hcode⟩ := bind_eq_ok.mp hcode
    obtain rfl := Option.some.inj (pure_eq_ok.mp hcode)
    exact operationCode_calls.mpr ((Response.method_calls (h t ht)).value hmethod)
  next => cases hcode

/-! ## Types -/

theorem writer_calls (h : b.Holds (fun n => S (.method b.protocol.writing n)) t.members) :
    Yields (Code.Calls S) (writer b t) := by
  have hvalidated : (Request.validated t).Calls S := Request.validated_calls
  rw [Protocol.writing] at h
  rw [writer]
  split
  next hencoding =>
    rw [hencoding] at h
    refine meets_bind (Request.JsonBody.members_calls h) fun object hobject => ?_
    exact meets_pure (by simp [hvalidated, hobject])
  next hencoding =>
    rw [hencoding] at h
    refine meets_bind (Request.XmlBody.attributes_calls (S := S)) fun attributes ha => ?_
    refine meets_bind (Request.XmlBody.elements_calls h) fun elements he => ?_
    exact meets_pure (by simp [hvalidated, ha, he])
  next hencoding =>
    rw [hencoding] at h
    refine meets_bind (Request.QueryBody.members_calls h) fun statements hs => ?_
    exact meets_pure (by simp [hvalidated, hs])

theorem fieldValue_calls {m : Member} {value : Expr} (h : value.Calls S) :
    (fieldValue m value).Calls S := by
  simp [fieldValue, h]

theorem readValue_calls {fields : List Code} (h : ∀ c ∈ fields, c.Calls S) :
    (readValue fields).Calls S := by
  simp [readValue, Code.calls_all.mpr h]

theorem jsonReader_calls (hv : ∀ m ∈ t.members, (b.value m.shape).Named)
    (h : b.Holds (fun n => S (b.readingCall .fromJson n)) t.members) :
    Yields (Code.Calls S) (jsonReader b t) := by
  refine meets_bind (meets_mapM (S := Code.Calls S) fun m hm => ?_) fun fields hf => ?_
  · exact meets_map (Response.JsonBody.member_calls (hv m hm) (h m hm))
      fun e => fieldValue_calls
  · refine meets_pure ?_
    split <;> simp [readValue_calls hf]

theorem xmlReader_calls (hv : ∀ m ∈ t.members, (b.value m.shape).Named)
    (h : b.Holds (fun n => S (b.readingCall .fromXml n)) t.members) :
    Yields (Code.Calls S) (xmlReader b t) := by
  refine meets_bind (meets_mapM (S := Code.Calls S) fun m hm => ?_) fun fields hf => ?_
  · exact meets_map (Response.XmlBody.member_calls (hv m hm) (h m hm))
      fun e => fieldValue_calls
  · refine meets_pure ?_
    split <;> simp [readValue_calls hf]

theorem reader_calls (h : Response.Calling b S t) :
    Yields (Code.Calls S) (reader b t) := by
  obtain ⟨hv, h⟩ := h
  rw [Protocol.reading] at h
  rw [reader]
  split
  next hencoding =>
    rw [hencoding] at h
    exact jsonReader_calls hv h
  next hencoding =>
    rw [hencoding] at h
    exact xmlReader_calls hv h
  next hencoding =>
    rw [hencoding] at h
    exact xmlReader_calls hv h

theorem structureFile_calls (hcode : structureFile b t = .ok code)
    (hwriting : t.name ∈ b.usage.serialized →
      b.Holds (fun n => S (.method b.protocol.writing n)) t.members)
    (hreading : t.name ∈ b.usage.parsed → Response.Calling b S t) : code.Calls S := by
  obtain ⟨fields, methods, rfl, -, -, hmem⟩ := structureFile_ok hcode
  have hmethods : ∀ c ∈ methods, c.Calls S := by
    intro c hc
    rcases (hmem c).mp hc with hc | ⟨hserialized, hc⟩ | ⟨hparsed, hc⟩
    · exact Request.validation?_calls hc
    · exact (writer_calls (hwriting hserialized)).value hc
    · exact (reader_calls (hreading hparsed)).value hc
  simp only [structureCode, Code.calls_all_cons, Code.calls_all_nil, usingRuntime_calls,
    documented_calls, Code.calls_when, Code.calls_append, Code.calls_text, structCode_calls,
    implies_true, and_true, true_and]
  intro c hc
  split at hc
  · cases hc
  · exact Option.some.inj hc ▸ Code.calls_spaced.mpr hmethods

/-! ## Files that call nothing -/

theorem enumFile_calls {n : String} : Yields (Code.Calls S) (enumFile b n) := by
  rw [enumFile]
  split
  · exact meets_ok (by simp [enumCode])
  · exact meets_error trivial
  · exact meets_error trivial

theorem operationMethod_calls {s : Service} : (operationMethod s o).Calls S := by
  dsimp only [operationMethod]
  split <;> simp [errorDocumentation, outputItem, inputItem]

theorem clientFile_calls : (clientFile b).Calls S := by
  simp [clientFile, sendMethod, operationMethod_calls]

end Crate

theorem AccessStep.expr_calls {step : AccessStep} : step.expr.Calls S := by
  intro q
  cases step <;> simp [AccessStep.expr]

theorem Access.tokenExpr_calls {a : Access} : a.tokenExpr.Calls S := by
  rw [Access.tokenExpr]
  split
  · exact fun q => by simp
  · refine Expr.calls_of (List.forall_mem_cons.mpr ⟨?_, List.forall_mem_map.mpr ?_⟩)
    · split
      · exact fun q => by simp
      · exact AccessStep.expr_calls
    · exact fun step _ q => by simp [AccessStep.expr_calls (S := S) _]

theorem Access.valuesExpr_calls {a : Access} : a.valuesExpr.Calls S := by
  refine Expr.calls_of (List.forall_mem_cons.mpr ⟨?_, List.forall_mem_map.mpr ?_⟩)
  · exact fun q => by simp
  · intro step _ q
    split <;> simp [AccessStep.expr_calls (S := S) _]

namespace Crate

theorem Token.expr_calls {t : Token} : t.expr.Calls S := by
  rw [Token.expr]
  split
  · exact fun q => by simp
  next first rest _ =>
    have hfold : ∀ (ways : List Access) (e : Expr), e.Calls S →
        (ways.foldl (fun e way => .of [e, ".or_else(|| ", way.tokenExpr, ")"]) e).Calls
          S := by
      intro ways
      induction ways with
      | nil => exact fun e he => he
      | cons way ways ih =>
          exact fun e he => ih _ fun q => by simp [he, Access.tokenExpr_calls (S := S) _]
    exact hfold rest _ Access.tokenExpr_calls

namespace Pages

variable {p : Pages}

theorem condition_calls : p.condition.Calls S := by
  refine Expr.calls_separated fun e he => ?_
  rcases List.mem_append.mp he with he | he
  · obtain ⟨t, -, rfl⟩ := List.mem_map.mp he
    exact fun q => by simp [Token.expr_calls (S := S) _]
  · rcases List.mem_cons.mp he with rfl | he
    · intro q
      split <;> simp
    · obtain rfl := List.mem_singleton.mp he
      exact fun q => by simp

theorem code_calls {client : String} : (p.code client).Calls S := by
  have hnext : p.next.Calls S := by
    simp [next, condition_calls (S := S) _, Token.expr_calls (S := S) _]
  have hiterator : (p.iterator client).Calls S := by
    simp [iterator, hnext, inputItem, outputItem]
  have hpages : p.pagesMethod.Calls S := by
    dsimp only [pagesMethod]
    split <;> simp [inputItem]
  have hitems : ((p.items.map p.itemsMethod).getD .empty).Calls S := by
    cases p.items with
    | none => simp
    | some items => simp [itemsMethod, inputItem, ValueType.expr_calls (S := S) _]
  simp [code, hiterator, hpages, hitems]

end Pages

theorem pagesFile_calls {pages : List Pages} : (pagesFile b pages).Calls S := by
  have hpages : (Code.spaced (pages.map fun p => p.code (clientType b.service))).Calls S :=
    Code.calls_spaced.mpr (List.forall_mem_map.mpr fun _ _ => Pages.code_calls)
  simp [pagesFile, hpages]

theorem Guarded.code_calls {g : Guarded} {index : Nat} : (g.code index).Calls S := by
  dsimp only [Guarded.code]
  split <;> simp [endIn, collect, Access.valuesExpr_calls (S := S) _]

theorem questionsCode_calls {index : Nat} {l : List Guarded} :
    (questionsCode index l).Calls S := by
  induction l generalizing index with
  | nil => exact Code.calls_empty.mpr trivial
  | cons g l ih => exact Code.calls_append.mpr ⟨Guarded.code_calls, ih⟩

theorem waiterCode_calls {w : Waiter} {p : Poll} : (waiterCode b w o p).Calls S := by
  have hpoll : (p.code b o (Naming.snake w.name)).Calls S := by
    simp [Poll.code, Poll.failedCode, Poll.succeededCode, questionsCode_calls, inputItem,
      outputItem]
  simp [waiterCode, waiterDocumentation, inputItem, hpoll]

theorem waitersFile_calls : (waitersFile b ((allWaiters b).map (·.2))).Calls S := by
  have hwaiters : (Code.spaced ((allWaiters b).map (·.2))).Calls S := by
    rw [Code.calls_spaced, List.forall_mem_map]
    intro ⟨w, c⟩ hw
    obtain ⟨o, p, -, -, rfl⟩ := exists_of_waiterAttempt (mem_allWaiters hw).2
    exact waiterCode_calls
  simp [waitersFile, hwaiters]

end Crate

end Clientwright
