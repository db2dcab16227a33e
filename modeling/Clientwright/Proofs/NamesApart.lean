import Clientwright.Proofs.FieldNames
import Clientwright.Proofs.SkippedEntries

/-!
# Names in a crate that are different

The methods of the client are only known once all files of a crate are, and the same goes for what
keeps them apart. The methods of operations are different where their words do not meet. The
methods that come with paginators and waiters are then different among themselves, up to an ending
that a waiter may have in its own name; and none of all these is one that every client has. What is
left is that an operation may be named like the method of an iterator or of a waiter, and nothing
can be said of that but that it must not be.
-/

namespace Clientwright

open Outcome

namespace Crate

variable {b : Blueprint} {o : Options} {client name : String} {fields : List Field}
  {methods : Option Code} {t : StructureShape}

/-! ## Which names of methods are different -/

/-- The words of two waiters make one of their methods the same. -/
def WaitersMeet (v w : String) : Prop := v = w ∨ v = w ++ "_with" ∨ w = v ++ "_with"

instance (v w : String) : Decidable (WaitersMeet v w) := by
  unfold WaitersMeet
  infer_instance

theorem wait_ne_poll (v w : String) : "wait_until_" ++ v ≠ "poll_" ++ w := by
  intro h
  have hhead := congrArg (fun s => s.toList.head?) h
  simp at hhead

theorem ne_append_with (v : String) : v ≠ v ++ "_with" := by
  intro h
  have hlength := congrArg String.length h
  simp at hlength

theorem nodup_waiterNames (w : String) : (waiterNames w).Nodup := by
  rw [waiterNames, List.nodup_cons, List.nodup_cons]
  refine ⟨?_, ?_, List.nodup_singleton _⟩
  · rw [List.mem_cons, List.mem_singleton, not_or]
    exact ⟨ne_append_with _, wait_ne_poll w w⟩
  · rw [List.mem_singleton, String.append_assoc]
    exact wait_ne_poll _ w

theorem disjoint_waiterNames_iff {v w : String} :
    (waiterNames v).Disjoint (waiterNames w) ↔ ¬ WaitersMeet v w := by
  constructor
  · rintro hdisjoint (rfl | rfl | rfl)
    · exact hdisjoint List.mem_cons_self List.mem_cons_self
    · exact hdisjoint List.mem_cons_self (by simp [waiterNames, String.append_assoc])
    · exact hdisjoint (by simp [waiterNames, String.append_assoc]) List.mem_cons_self
  · intro hmeet n hv hw
    simp only [waiterNames, List.mem_cons, List.not_mem_nil, or_false] at hv hw
    rcases hv with rfl | rfl | rfl <;> rcases hw with hw | hw | hw
    · exact hmeet (.inl ((String.append_right_inj _).mp hw))
    · rw [String.append_assoc] at hw
      exact hmeet (.inr (.inl ((String.append_right_inj _).mp hw)))
    · exact wait_ne_poll _ _ hw
    · rw [String.append_assoc] at hw
      exact hmeet (.inr (.inr ((String.append_right_inj _).mp hw).symm))
    · rw [String.append_left_inj] at hw
      exact hmeet (.inl ((String.append_right_inj _).mp hw))
    · rw [String.append_assoc] at hw
      exact wait_ne_poll _ _ hw
    · exact wait_ne_poll _ _ hw.symm
    · rw [String.append_assoc] at hw
      exact wait_ne_poll _ _ hw.symm
    · exact hmeet (.inl ((String.append_right_inj _).mp hw))

theorem mem_names_iff {p : Pages} {n : String} : n ∈ p.names ↔
    n = bareIdent p.method ++ "_pages" ∨
      p.items.isSome = true ∧ n = bareIdent p.method ++ "_items" := by
  cases hitems : p.items <;> simp [Pages.names, hitems]

theorem pages_ne_items (v w : String) : v ++ "_pages" ≠ w ++ "_items" :=
  append_ne_append (by decide) (by decide)

theorem nodup_names (p : Pages) : p.names.Nodup := by
  rw [Pages.names, List.nodup_cons]
  cases p.items with
  | none => exact ⟨List.not_mem_nil, List.nodup_nil⟩
  | some items =>
      exact ⟨fun h => pages_ne_items _ _ (List.mem_singleton.mp h), List.nodup_singleton _⟩

theorem disjoint_names {p q : Pages} (h : bareIdent p.method ≠ bareIdent q.method) :
    p.names.Disjoint q.names := by
  intro n hp hq
  rcases mem_names_iff.mp hp with rfl | ⟨-, rfl⟩ <;> rcases mem_names_iff.mp hq with hq | ⟨-, hq⟩
  · exact h ((String.append_left_inj _).mp hq)
  · exact pages_ne_items _ _ hq
  · exact pages_ne_items _ _ hq.symm
  · exact h ((String.append_left_inj _).mp hq)

/-! ## The methods of the client -/

/-- The names of the methods for page iterators. -/
def pageNames (b : Blueprint) (o : Options) : List String :=
  (wantedPages b o).flatMap fun x => x.2.names

/-- The names of the methods for waiters. -/
def waitingNames (b : Blueprint) (o : Options) : List String :=
  (wantedWaiters b o).flatMap fun x => waiterNames (Naming.snake x.1.name)

/-- The names of the methods of the client. -/
def clientNames (b : Blueprint) (o : Options) : List String :=
  ["new", "transport", "send"] ++
    (b.operations.map methodName ++ (pageNames b o ++ waitingNames b o))

/-- Nothing that is named in a definition makes two methods of the client the same. -/
structure ClientApart (b : Blueprint) (o : Options) : Prop where
  operations : b.operations.Pairwise fun x y =>
    ¬ MethodsMeet (Naming.snake x.name) (Naming.snake y.name)
  waiters : (wantedWaiters b o).Pairwise fun x y =>
    ¬ WaitersMeet (Naming.snake x.1.name) (Naming.snake y.1.name)
  methods : ∀ x ∈ b.operations, methodName x ∉ pageNames b o ++ waitingNames b o
  pages : (pageNames b o).Disjoint (waitingNames b o)

theorem nodup_methods_iff : (b.operations.map methodName).Nodup ↔
    b.operations.Pairwise fun x y =>
      ¬ MethodsMeet (Naming.snake x.name) (Naming.snake y.name) := by
  rw [List.Nodup, List.pairwise_map]
  simp only [ne_eq, methodName_eq_iff]

theorem nodup_waitingNames_iff : (waitingNames b o).Nodup ↔
    (wantedWaiters b o).Pairwise fun x y =>
      ¬ WaitersMeet (Naming.snake x.1.name) (Naming.snake y.1.name) := by
  rw [waitingNames, List.nodup_flatMap]
  refine (and_iff_right fun x _ => nodup_waiterNames _).trans ⟨fun h => ?_, fun h => ?_⟩
  · exact h.imp fun hdisjoint => disjoint_waiterNames_iff.mp hdisjoint
  · exact h.imp fun hmeet => disjoint_waiterNames_iff.mpr hmeet

theorem method_of_pagesOf {op : Operation} {p : Pagination} {pages : Pages}
    (h : pagesOf b op p = .ok pages) : pages.method = methodName op := by
  rw [pagesOf] at h
  generalize methodName op = method at h ⊢
  split at h
  next =>
    obtain ⟨assignments, -, h⟩ := bind_eq_ok.mp h
    obtain ⟨more, -, h⟩ := bind_eq_ok.mp h
    obtain rfl := pure_eq_ok.mp h
    rfl
  next => cases h

/-- What an iterator is wanted for: a selected operation, found under the name that its paginator
has. -/
theorem exists_of_mem_wantedPages {x : Pagination × Pages} (h : x ∈ wantedPages b o) :
    x.1.operation ∈ b.usage.operations ∧
      ∃ op, b.service.operation? x.1.operation = some op ∧ x.2.method = methodName op := by
  obtain ⟨p, pages⟩ := x
  have hattempt := mem_pagesAttempts_of_mem_allPages (List.mem_ite_nil_right.mp h).2
  obtain ⟨r, -, hattempt⟩ := List.mem_filterMap.mp hattempt
  obtain ⟨hselected, hattempt⟩ := Option.ite_none_right_eq_some.mp hattempt
  obtain ⟨op, hop, hattempt⟩ := Option.map_eq_some_iff.mp hattempt
  obtain ⟨rfl, hpages⟩ := Prod.mk.inj hattempt
  exact ⟨List.contains_iff_mem.mp hselected, op, hop, method_of_pagesOf hpages⟩

/-- Paginators know the names that they are kept under, so no two are for one operation. -/
theorem pairwise_wantedPages
    (hkeyed : ∀ k p, b.service.paginators.get? k = some p → p.operation = k) :
    (wantedPages b o).Pairwise fun x y => x.1.operation ≠ y.1.operation := by
  have hvalues : b.service.paginators.values.Pairwise fun p q => p.operation ≠ q.operation := by
    rw [← List.pairwise_map, Table.map_values hkeyed]
    exact b.service.paginators.nodup_keys
  have hattempts : (pagesAttempts b).Pairwise fun x y => x.1.operation ≠ y.1.operation := by
    refine List.pairwise_filterMap.mpr (hvalues.imp fun {p q} hne x hx y hy => ?_)
    obtain ⟨-, hx⟩ := Option.ite_none_right_eq_some.mp hx
    obtain ⟨-, hy⟩ := Option.ite_none_right_eq_some.mp hy
    obtain ⟨_, -, rfl⟩ := Option.map_eq_some_iff.mp hx
    obtain ⟨_, -, rfl⟩ := Option.map_eq_some_iff.mp hy
    exact hne
  have hall : (allPages b).Pairwise fun x y => x.1.operation ≠ y.1.operation := by
    refine List.pairwise_filterMap.mpr (hattempts.imp fun {x y} hne r hr r' hr' => ?_)
    obtain ⟨_, -, rfl⟩ := Option.map_eq_some_iff.mp hr
    obtain ⟨_, -, rfl⟩ := Option.map_eq_some_iff.mp hr'
    exact hne
  rw [wantedPages]
  split
  · exact hall
  · exact .nil

/-- If the methods of the operations are different, so are those of their iterators. -/
theorem nodup_pageNames
    (hkeyed : ∀ k p, b.service.paginators.get? k = some p → p.operation = k)
    (h : (b.operations.map methodName).Nodup) : (pageNames b o).Nodup := by
  -- Two names under which operations are found lead to two methods.
  have hmethods : b.usage.operations.Pairwise fun m n => ∀ x, b.service.operation? m = some x →
      ∀ y, b.service.operation? n = some y → methodName x ≠ methodName y :=
    List.pairwise_filterMap.mp (List.pairwise_map.mp h)
  have : Std.Symm fun m n => ∀ x, b.service.operation? m = some x →
      ∀ y, b.service.operation? n = some y → methodName x ≠ methodName y :=
    ⟨fun _ _ h x hx y hy => (h y hy x hx).symm⟩
  rw [pageNames, List.nodup_flatMap]
  refine ⟨fun x _ => nodup_names x.2, ?_⟩
  refine (pairwise_wantedPages hkeyed).imp_of_mem fun {x y} hx hy hne => ?_
  obtain ⟨hmem, op, hop, hmethod⟩ := exists_of_mem_wantedPages hx
  obtain ⟨hmem', op', hop', hmethod'⟩ := exists_of_mem_wantedPages hy
  refine disjoint_names fun heq => hmethods.forall hmem hmem' hne op hop op' hop' ?_
  rw [hmethod, hmethod'] at heq
  exact bareIdent_methodName_inj heq

/-- All names but those that every client has are longer than a word. -/
theorem mem_underscore {n : String} (h : n ∈ pageNames b o ++ waitingNames b o) :
    '_' ∈ n.toList := by
  rcases List.mem_append.mp h with h | h
  · obtain ⟨x, -, h⟩ := List.mem_flatMap.mp h
    rcases mem_names_iff.mp h with rfl | ⟨-, rfl⟩ <;> simp
  · obtain ⟨x, -, h⟩ := List.mem_flatMap.mp h
    simp only [waiterNames, List.mem_cons, List.not_mem_nil, or_false] at h
    rcases h with rfl | rfl | rfl <;> simp

/-- The methods of the client have different names exactly if nothing makes two of them the
same. -/
theorem nodup_clientNames_iff
    (hkeyed : ∀ k p, b.service.paginators.get? k = some p → p.operation = k) :
    (clientNames b o).Nodup ↔ ClientApart b o := by
  have hfixed : (["new", "transport", "send"] : List String).Disjoint
      (b.operations.map methodName ++ (pageNames b o ++ waitingNames b o)) := by
    have hclient : ∀ n ∈ ["new", "transport", "send"], n ∈ clientMethods ∧ '_' ∉ n.toList := by
      decide
    intro n hn h
    rcases List.mem_append.mp h with h | h
    · obtain ⟨x, -, rfl⟩ := List.mem_map.mp h
      exact methodName_not_mem_clientMethods x (hclient _ hn).1
    · exact (hclient n hn).2 (mem_underscore h)
  have hmethods : (b.operations.map methodName).Disjoint (pageNames b o ++ waitingNames b o) ↔
      ∀ x ∈ b.operations, methodName x ∉ pageNames b o ++ waitingNames b o := by
    simp only [List.Disjoint, List.mem_map, forall_exists_index, and_imp,
      forall_apply_eq_imp_iff₂]
  rw [clientNames, List.nodup_append', List.nodup_append', List.nodup_append', hmethods,
    nodup_waitingNames_iff]
  constructor
  · rintro ⟨-, ⟨hops, ⟨-, hwaiters, hpages⟩, hothers⟩, -⟩
    exact ⟨nodup_methods_iff.mp hops, hwaiters, hothers, hpages⟩
  · intro h
    have hops := nodup_methods_iff.mpr h.operations
    exact ⟨by decide, ⟨hops, ⟨nodup_pageNames hkeyed hops, h.waiters, h.pages⟩, h.methods⟩,
      hfixed⟩

/-! ## The files of a crate -/

/-- The names of the methods that a product gives to a client. -/
def Product.clientFunctions (client : String) : Product → List String
  | .file _ (.code c) => c.clientFunctions client
  | .folder _ | .file _ _ | .warning _ => []

theorem HasStructure.clientFunctions {code : Code} {type : String}
    (h : HasStructure code type fields) : code.clientFunctions client = [] := by
  obtain ⟨methods, hblocks⟩ := h
  rw [Code.clientFunctions, hblocks]
  exact clientFunctions_structCode

theorem clientFunctions_operationFile {op : Operation} {f : File} {code : Code}
    (h : OperationFile b op f (.code code)) : code.clientFunctions client = [] := by
  cases h with
  | input h =>
      obtain ⟨fields, -, hcode⟩ := hasStructure_inputFile h
      exact hcode.clientFunctions
  | output h =>
      obtain ⟨t, fields, -, -, hcode⟩ := hasStructure_outputFile? h
      exact hcode.clientFunctions

theorem clientFunctions_typeFile {f : File} {code : Code} (h : TypeFile b f (.code code)) :
    code.clientFunctions client = [] := by
  cases h with
  | ofStructure hn ht h =>
      obtain ⟨fields, -, hcode⟩ := hasStructure_structureFile h
      exact hcode.clientFunctions
  | ofEnum hn h =>
      rw [enumFile] at h
      split at h
      next t ht =>
        obtain rfl := Except.ok.inj h
        exact clientFunctions_enumCode
      next => cases h
      next => cases h

theorem clientFunctions_generateOperations (h : (generateOperations b).result = .ok ()) :
    (generateOperations b).events.flatMap (Product.clientFunctions client) = [] := by
  refine List.flatMap_eq_nil_iff.mpr fun x hx => ?_
  match x with
  | .folder _ | .warning _ | .file _ (.lines _) | .file _ (.text _) => rfl
  | .file f (.code c) =>
      rcases ((generateOperations_ok h).2 f (.code c)).mp hx with
        ⟨op, -, hfile⟩ | ⟨-, hc⟩ | ⟨-, hc⟩
      · exact clientFunctions_operationFile hfile
      · exact Contents.code.inj hc ▸ clientFunctions_moduleFile
      · exact Contents.code.inj hc ▸ clientFunctions_moduleFile

theorem clientFunctions_generateTypes (h : (generateTypes b).result = .ok ()) :
    (generateTypes b).events.flatMap (Product.clientFunctions client) = [] := by
  refine List.flatMap_eq_nil_iff.mpr fun x hx => ?_
  match x with
  | .folder _ | .warning _ | .file _ (.lines _) | .file _ (.text _) => rfl
  | .file f (.code c) =>
      rcases ((generateTypes_ok h).2.2 f (.code c)).mp hx with hfile | ⟨-, hc⟩
      · exact clientFunctions_typeFile hfile
      · exact Contents.code.inj hc ▸ clientFunctions_moduleFile

/-- A file that is there if there is anything to put into it gives the methods of all that is put
into it. -/
theorem clientFunctions_noted {α β : Type} {warnings : List Warning} {l : List α} {g : File}
    {code : Code} {r : β} {names : α → List String}
    (h : code.clientFunctions client = l.flatMap names) :
    (noted warnings l g code r).events.flatMap (Product.clientFunctions client) =
      l.flatMap names := by
  have hwarnings : (warnings.map Product.warning).flatMap (Product.clientFunctions client) = [] :=
    List.flatMap_eq_nil_iff.mpr (List.forall_mem_map.mpr fun _ _ => rfl)
  rw [noted, List.flatMap_append, hwarnings, List.nil_append]
  cases l with
  | nil => rfl
  | cons a l => exact (List.flatMap_singleton ..).trans h

theorem clientFunctions_wantedPages :
    (pagesFile b ((wantedPages b o).map (·.2))).clientFunctions (clientType b.service) =
      pageNames b o := by
  rw [clientFunctions_pagesFile, List.flatMap_map]
  · rfl
  · refine List.forall_mem_map.mpr fun x hx => ?_
    obtain ⟨-, op, -, hmethod⟩ := exists_of_mem_wantedPages hx
    rw [hmethod]
    exact not_mem_bareIdent (not_mem_methodName op)

theorem clientFunctions_wantedWaiters :
    (waitersFile b ((wantedWaiters b o).map (·.2))).clientFunctions (clientType b.service) =
      waitingNames b o := by
  refine clientFunctions_waitersFile fun ⟨w, c⟩ hx => ?_
  obtain ⟨-, hattempt⟩ := mem_allWaiters (List.mem_ite_nil_right.mp hx).2
  obtain ⟨op, p, -, -, rfl⟩ := exists_of_waiterAttempt hattempt
  exact functions_waiterCode

theorem clientFunctions_generatePackage {p : Package} :
    (generatePackage p).events.flatMap (Product.clientFunctions client) = [] := by
  show p.library.clientFunctions client ++ _ = _
  rw [clientFunctions_library]
  rfl

/-- The files of a crate give the client these methods, and no others. -/
theorem clientFunctions_generate (h : (generate b o).result = .ok ()) :
    (generate b o).events.flatMap (Product.clientFunctions (clientType b.service)) =
      clientNames b o := by
  rw [generate_eq] at h ⊢
  obtain ⟨⟨⟩, hfolders, h⟩ := Trace.bind_result_eq_ok.mp h
  obtain ⟨⟨⟩, hruntime, h⟩ := Trace.bind_result_eq_ok.mp h
  obtain ⟨⟨⟩, hclient, h⟩ := Trace.bind_result_eq_ok.mp h
  obtain ⟨⟨⟩, hoperations, h⟩ := Trace.bind_result_eq_ok.mp h
  obtain ⟨⟨⟩, htypes, -⟩ := Trace.bind_result_eq_ok.mp h
  rw [Trace.events_bind hfolders, Trace.events_bind hruntime, Trace.events_bind hclient,
    Trace.events_bind hoperations, Trace.events_bind htypes, Trace.events_bind rfl,
    Trace.events_bind rfl]
  simp only [List.flatMap_append]
  rw [clientFunctions_generateOperations hoperations, clientFunctions_generateTypes htypes,
    clientFunctions_noted clientFunctions_wantedPages,
    clientFunctions_noted clientFunctions_wantedWaiters, clientFunctions_generatePackage]
  have hfixed : (Trace.emitAll (folders.map Product.folder)).events.flatMap
      (Product.clientFunctions (clientType b.service)) = [] := rfl
  have hruntime : (writeFile .runtime (.text runtimeText)).events.flatMap
      (Product.clientFunctions (clientType b.service)) = [] := rfl
  have hclient : (writeCode .client (clientFile b)).events.flatMap
      (Product.clientFunctions (clientType b.service)) =
        ["new", "transport", "send"] ++ b.operations.map methodName :=
    (List.flatMap_singleton ..).trans clientFunctions_clientFile
  rw [hfixed, hruntime, hclient, List.nil_append, List.nil_append, List.nil_append,
    List.nil_append, List.append_nil, List.append_assoc]
  rfl

end Crate

/-! ## Runs -/

namespace Definition

/-- Paginators know the names that they are kept under. -/
theorem operation_of_convertPaginators {service : Service}
    {entries : List (String × PaginatorEntry)} {t : Table Pagination}
    (h : (convertPaginators service entries).result = .ok t) {k : String} {p : Pagination}
    (hp : t.get? k = some p) : p.operation = k := by
  induction entries generalizing t with
  | nil =>
      obtain rfl := Except.ok.inj h
      cases hp
  | cons e rest ih =>
      obtain ⟨n, e⟩ := e
      unfold convertPaginators at h
      split at h
      next => cases h
      next =>
        rw [Trace.result_bind] at h
        exact ih h hp
      next => exact ih h hp
      next q hconvert =>
        obtain ⟨t', ht', h⟩ := Trace.bind_result_eq_ok.mp h
        obtain rfl := Except.ok.inj h
        rw [Table.get?_insert] at hp
        split at hp
        next hk =>
          obtain rfl := Option.some.inj hp
          exact (PaginatorEntry.convert_eq_kept_iff.mp hconvert).2.operation.trans hk.symm
        next => exact ih ht' hp

end Definition

theorem Sources.operation_of_toService {src : Sources} {s : Service}
    (h : src.toService.result = .ok s) {k : String} {p : Pagination}
    (hp : s.paginators.get? k = some p) : p.operation = k := by
  obtain ⟨base, hbase, t, ht, w, hw, rfl⟩ := toService_eq_ok_iff.mp h
  have hp : t.get? k = some p := hp
  unfold paginatorsOf at ht
  split at ht
  next d hd => exact Definition.operation_of_convertPaginators ht hp
  next =>
    obtain rfl := Except.ok.inj ht
    obtain ⟨metadata, -, hbase⟩ := bind_eq_ok.mp hbase
    obtain ⟨shapes, -, hbase⟩ := bind_eq_ok.mp hbase
    obtain ⟨operations, -, hbase⟩ := bind_eq_ok.mp hbase
    obtain rfl := pure_eq_ok.mp hbase
    cases hp

namespace Generator

/-- When the names in a crate are different: of the fields in a structure, of the functions that
set them, and of the methods that all files together give to the client. -/
theorem names_apart_iff {src : Sources} {s : Service} {o : Options} {g : Generator} {out : String}
    (h : src.toService.result = .ok s) (hg : Generator.of s o = .ok g)
    (hrun : (g.generate out).result = .ok ()) :
    ∃ products : List Crate.Product,
      (g.generate out).events = products.map (Crate.Product.event out) ∧
      Crate.Complete g.blueprint ∧
      (∀ f code type members, Crate.MadeOf g.blueprint f code type members →
        .file f (.code code) ∈ products ∧
        ∃ fields, Crate.Fielded code type fields ∧ Crate.NamedBy members fields ∧
          ((fields.map (·.ident)).Nodup ↔ Crate.MembersApart members) ∧
          ((fields.map (·.setter)).Nodup ↔ members.Pairwise fun m n =>
            Naming.snake m.name ≠ Naming.snake n.name)) ∧
      ((products.flatMap (Crate.Product.clientFunctions (Crate.clientType s))).Nodup ↔
        Crate.ClientApart g.blueprint g.options) := by
  obtain ⟨hb, -⟩ := of_eq_ok hg
  obtain ⟨-, hservice⟩ := Blueprint.ready_of_of h hb
  obtain ⟨hcomplete, hwritten⟩ := Crate.generate_ok hrun
  refine ⟨(Crate.generate g.blueprint g.options).events, rfl, hcomplete, ?_, ?_⟩
  · exact fun f code type members hmade =>
      ⟨(hwritten _ _).mpr hmade.written, hmade.apart_iff⟩
  · rw [← hservice, Crate.clientFunctions_generate hrun]
    refine Crate.nodup_clientNames_iff fun k p hp => ?_
    rw [hservice] at hp
    exact Sources.operation_of_toService h hp

end Generator

/-! ## Examples

The library has an iterator and a waiter, and no two names in it are the same. At the post office a
letter has two codes with the same words, and the operation that is named like a method of every
client gives way to the other one. -/

/-- The definition of the post office. -/
def Definition.post : Definition where
  version := none
  metadata :=
    { apiVersion := "1", endpointPrefix := "post",
      protocol := some "query", protocols := [], serviceId := none,
      serviceAbbreviation := none, serviceFullName := none, jsonVersion := none,
      targetPrefix := none, xmlNamespace := none, signingName := none,
      signatureVersion := none }
  operations := ["Send", "SendOperation"].map fun name =>
    (name,
      { name := none, http := { method := "POST", requestUri := "/" },
        input := some ⟨"Letter", none⟩, output := none,
        errors := [], documentation := none, deprecated := false })
  shapes :=
    [("Letter", { ShapeEntry.bare "structure" with
        members :=
          [("HTTPCode", MemberEntry.bare "Text"), ("HttpCode", MemberEntry.bare "Text")] }),
      ("Text", ShapeEntry.bare "string")]
  documentation := none

/-- The documents of the post office. -/
def Sources.post : Sources where
  definition := Definition.post
  givenName := none
  paginators := none
  waiters := none

namespace Generator

/-- The generator of the library. -/
def ofLibrary (s : Service) : Generator :=
  ⟨⟨s, Sources.usageOfBooks, TypeNames.assign s, s.boxedMembers⟩, {}⟩

/-- The crate of the library is generated to its end, and no names meet in it. -/
theorem generate_ofLibrary : ∃ s, Sources.library.toService.result = .ok s ∧
    Generator.of s {} = .ok (ofLibrary s) ∧ ((ofLibrary s).generate "out").result = .ok () ∧
    (∀ n t, s.structure? n = some t → Crate.MembersApart t.members) ∧
    (Crate.clientNames (ofLibrary s).blueprint {}).Nodup := by
  have husage : (Sources.library.toService.result.map fun s => Usage.analyze s []) =
      .ok (.ok Sources.usageOfBooks) := by
    cbv
  have hseen : (Sources.library.toService.result.map fun s =>
      ((Crate.generate (ofLibrary s).blueprint {}).result,
        s.shapes.keys.all fun n =>
          (s.structure? n).all fun t => decide (Crate.MembersApart t.members),
        Crate.clientNames (ofLibrary s).blueprint {})) =
      .ok (.ok (), true, ["new", "transport", "send", "get_book", "list_books",
        "list_books_pages", "list_books_items", "wait_until_book_listed",
        "wait_until_book_listed_with", "poll_book_listed"]) := by
    decide +kernel
  obtain ⟨s, hs, husage⟩ := map_eq_ok.mp husage
  rw [hs] at hseen
  obtain ⟨hrun, hseen⟩ := Prod.mk.inj (Except.ok.inj hseen)
  obtain ⟨hmembers, hnames⟩ := Prod.mk.inj hseen
  refine ⟨s, hs, bind_eq_ok.mpr ⟨_, bind_eq_ok.mpr ⟨_, husage, rfl⟩, rfl⟩, hrun,
    fun n t ht => ?_, ?_⟩
  · have hkey : n ∈ s.shapes.keys :=
      Table.mem_keys_iff.mpr ⟨_, Service.structure?_eq_some_iff.mp ht⟩
    have hall := List.all_eq_true.mp hmembers n hkey
    rw [ht] at hall
    exact of_decide_eq_true hall
  · rw [hnames]
    decide

theorem library_apart : ∃ s g, ∃ products : List Crate.Product,
    Sources.library.toService.result = .ok s ∧
    Generator.of s {} = .ok g ∧ (g.generate "out").result = .ok () ∧
    (g.generate "out").events = products.map (Crate.Product.event "out") ∧
    (∀ f code type members, Crate.MadeOf g.blueprint f code type members →
      .file f (.code code) ∈ products ∧ ∃ fields, Crate.Fielded code type fields ∧
        (fields.map (·.ident)).Nodup ∧ (fields.map (·.setter)).Nodup) ∧
    (products.flatMap (Crate.Product.clientFunctions (Crate.clientType s))).Nodup := by
  obtain ⟨s, hs, hg, hrun, hmembers, hnames⟩ := generate_ofLibrary
  obtain ⟨products, hevents, -, hstructures, hclient⟩ := names_apart_iff hs hg hrun
  have hkeyed : ∀ k p, s.paginators.get? k = some p → p.operation = k :=
    fun k p => Sources.operation_of_toService hs
  refine ⟨s, ofLibrary s, products, hs, hg, hrun, hevents, fun f code type members hmade => ?_,
    hclient.mpr ((Crate.nodup_clientNames_iff hkeyed).mp hnames)⟩
  obtain ⟨hmem, fields, hfielded, -, hidents, hsetters⟩ := hstructures f code type members hmade
  have hapart : Crate.MembersApart members := by
    rcases hmade.members_eq with rfl | ⟨n, t, ht, rfl⟩
    · exact .nil
    · exact hmembers n t ht
  exact ⟨hmem, fields, hfielded, hidents.mpr hapart,
    hsetters.mpr (hapart.imp fun h heq => h (.inl heq))⟩

/-- The generator of the post office. -/
def ofPost (s : Service) : Generator :=
  ⟨⟨s, ⟨["Send", "SendOperation"], [], [], []⟩, TypeNames.assign s, s.boxedMembers⟩, {}⟩

/-- What is seen of an operation: the module and the type of its input, and the members. -/
structure Parcel where
  moduleName : String
  type : String
  members : Option (List String)
  deriving DecidableEq

/-- What is seen of an operation of the service. -/
def parcel (s : Service) (op : Operation) : Parcel where
  moduleName := Naming.moduleName op.name
  type := Crate.inputType op
  members := (s.inputOf? op).map fun t => t.members.map (·.name)

/-- The crate of the post office is generated to its end too. -/
theorem generate_ofPost : ∃ s op t, Sources.post.toService.result = .ok s ∧
    Generator.of s {} = .ok (ofPost s) ∧ ((ofPost s).generate "out").result = .ok () ∧
    op ∈ (ofPost s).blueprint.operations ∧ (ofPost s).blueprint.service.inputOf? op = some t ∧
    Naming.moduleName op.name = "send" ∧ Crate.inputType op = "SendInput" ∧
    t.members.map (·.name) = ["HTTPCode", "HttpCode"] ∧
    Crate.clientNames (ofPost s).blueprint {} =
      ["new", "transport", "send", "send_operation", "send_operation"] := by
  have husage : (Sources.post.toService.result.map fun s => Usage.analyze s []) =
      .ok (.ok ⟨["Send", "SendOperation"], [], [], []⟩) := by
    cbv
  have hseen : (Sources.post.toService.result.map fun s =>
      ((Crate.generate (ofPost s).blueprint {}).result, Crate.clientNames (ofPost s).blueprint {},
        (s.operation? "Send").map (parcel s))) =
      .ok (.ok (), ["new", "transport", "send", "send_operation", "send_operation"],
        some ⟨"send", "SendInput", some ["HTTPCode", "HttpCode"]⟩) := by
    decide +kernel
  obtain ⟨s, hs, husage⟩ := map_eq_ok.mp husage
  rw [hs] at hseen
  obtain ⟨hrun, hseen⟩ := Prod.mk.inj (Except.ok.inj hseen)
  obtain ⟨hnames, hsend⟩ := Prod.mk.inj hseen
  obtain ⟨op, hop, hsend⟩ := Option.map_eq_some_iff.mp hsend
  obtain ⟨hmodule, htype, hmembers⟩ := Parcel.mk.inj hsend
  obtain ⟨t, ht, hmembers⟩ := Option.map_eq_some_iff.mp hmembers
  exact ⟨s, op, t, hs, bind_eq_ok.mpr ⟨_, bind_eq_ok.mpr ⟨_, husage, rfl⟩, rfl⟩, hrun,
    Blueprint.mem_operations_iff.mpr ⟨"Send", List.mem_cons_self, hop⟩, ht, hmodule, htype,
    hmembers, hnames⟩

theorem post_clashing : ∃ s g code fields, ∃ products : List Crate.Product,
    Sources.post.toService.result = .ok s ∧ Generator.of s {} = .ok g ∧
    (g.generate "out").result = .ok () ∧
    (g.generate "out").events = products.map (Crate.Product.event "out") ∧
    .file (.item .input "send") (.code code) ∈ products ∧ Crate.Fielded code "SendInput" fields ∧
    ¬ (fields.map (·.ident)).Nodup ∧ ¬ (fields.map (·.setter)).Nodup ∧
    ¬ (products.flatMap (Crate.Product.clientFunctions (Crate.clientType s))).Nodup := by
  obtain ⟨s, op, t, hs, hg, hrun, hop, ht, hmodule, htype, hmembers, hnames⟩ := generate_ofPost
  obtain ⟨hcomplete, hwritten⟩ := Crate.generate_ok hrun
  obtain ⟨⟨code, hcode⟩, -⟩ := hcomplete.operations op hop
  have hmade := Crate.MadeOf.input hop hcode
  rw [hmodule, htype, ht, Option.elim_some] at hmade
  obtain ⟨fields, hfielded, hnamed⟩ := hmade.fielded
  have hidents : fields.map (·.ident) = ["HTTPCode", "HttpCode"].map Naming.fieldIdent := by
    simp only [hnamed.idents, ← hmembers, List.map_map, Function.comp_def]
  have hsetters : fields.map (·.setter) =
      ["HTTPCode", "HttpCode"].map fun name => "with_" ++ Naming.snake name := by
    simp only [hnamed.setters, ← hmembers, List.map_map, Function.comp_def]
  have hclient : (Crate.generate (ofPost s).blueprint {}).events.flatMap
      (Crate.Product.clientFunctions (Crate.clientType s)) =
        ["new", "transport", "send", "send_operation", "send_operation"] :=
    (Crate.clientFunctions_generate hrun).trans hnames
  refine ⟨s, ofPost s, code, fields, (Crate.generate (ofPost s).blueprint {}).events, hs, hg, hrun,
    rfl, (hwritten _ _).mpr hmade.written, hfielded, ?_, ?_, ?_⟩
  · rw [hidents]
    decide
  · rw [hsetters]
    decide
  · rw [hclient]
    decide

end Generator

end Clientwright
