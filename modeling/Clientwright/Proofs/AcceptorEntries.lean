import Clientwright.Proofs.PaginatorEntries
import Clientwright.Proofs.SelectorTexts

/-!
# What acceptors stand for

A waiter may ask for things that no code is generated for, and the document is
then not wrong: the acceptor is kept, marked as unsupported. An acceptor that
makes no sense is wrong, and then there is no waiter at all. Between the two runs
a line, and each matcher has its own piece of it.

`Sensible` is one side of the line and `Unsupported` what lies beyond the
language on that side, both said of an entry as it stands in the document. What
an entry then `Means` is a matcher with everything in it that the generator
relies on: one alternative and not several, no projection where one value is
compared, a status that is one. The theorem at the end says that a document is
converted exactly if its acceptors are sensible, and that each of them keeps its
place and means what is kept.
-/

namespace Clientwright

open Outcome

/-! ## Marked acceptors -/

theorem Waiter.isSupported_iff {w : Waiter} :
    w.isSupported = true ↔ ∀ a ∈ w.acceptors, ∀ matcher reason,
      a.matcher ≠ .unsupported matcher reason := by
  rw [Waiter.isSupported, List.all_eq_true]
  refine forall₂_congr fun a _ => ?_
  cases a.matcher <;> simp [Matcher.unsupported?]

namespace Definition

/-! ## What an acceptor says -/

/-- The matchers that look at values. -/
def pathMatchers : List String := ["path", "pathAll", "pathAny"]

/-- The words for states. -/
def stateWords : List (String × AcceptorState) :=
  [("success", .success), ("failure", .failure), ("retry", .retry)]

/-- The literal that stands for a value in comparisons. -/
inductive Compares : Json → Expected → Prop where
  | string (s : String) : Compares (.string s) (.string s)
  | boolean (b : Bool) : Compares (.bool b) (.boolean b)
  | number {n : JsonNumber} {text : String} :
    n.text? = some text → Compares (.number n) (.number text)

theorem Compares.isSound {v : Json} {e : Expected} (h : Compares v e) : v.isSound = true := by
  cases h with
  | string s | boolean b => rfl
  | number htext => rw [Json.isSound, htext, Option.isSome_some]

theorem AcceptorEntry.literal?_eq_some {v : Json} {e : Expected} :
    literal? v = some e ↔ Compares v e := by
  constructor
  · intro h
    cases v with
    | string s => exact Option.some.inj h ▸ .string s
    | bool b => exact Option.some.inj h ▸ .boolean b
    | number n =>
        obtain ⟨text, htext, rfl⟩ := Option.map_eq_some_iff.mp h
        exact .number htext
    | null | array items | object members | garbled => cases h
  · rintro (s | b | htext)
    · rfl
    · rfl
    · exact Option.map_eq_some_iff.mpr ⟨_, htext, rfl⟩

namespace AcceptorEntry

/-- The acceptor has what its matcher needs. -/
structure Complete (a : AcceptorEntry) : Prop where
  argument : a.matcher ∈ pathMatchers → ∃ text, a.argument = some text
  status : a.matcher = "status" → ∃ n code, a.expected = .number n ∧
    n.toInt? = some (Int.ofNat code) ∧ code ≤ 65535
  error : a.matcher = "error" →
    (∃ code, a.expected = .string code) ∨ ∃ failed, a.expected = .bool failed

/-- The acceptor can be understood, be it supported or not. -/
structure Sensible (a : AcceptorEntry) : Prop extends Complete a where
  state : a.state ∈ stateWords.map (·.1)

/-- The argument is a selector. -/
def Selects (a : AcceptorEntry) (s : Selector) : Prop :=
  ∃ text, a.argument = some text ∧ Selector.parse text = .ok s

/-- The acceptor asks for something outside the supported language. -/
inductive Unsupported (a : AcceptorEntry) : Prop where
  | matcher (unknown : a.matcher ∉ "status" :: "error" :: pathMatchers)
  | argument {text : String} (matcher : a.matcher ∈ pathMatchers)
    (argument : a.argument = some text) (unreadable : ¬ Readable text)
  | alternatives {s : Selector} (matcher : a.matcher ∈ pathMatchers) (selects : a.Selects s)
    (several : 1 < s.alternatives.length)
  | projection {s : Selector} (matcher : a.matcher = "path") (selects : a.Selects s)
    (projects : ∃ steps ∈ s.alternatives, .project ∈ steps)
  | null (matcher : a.matcher ∈ pathMatchers) (expected : a.expected = .null)
  | array {items : List Json} (matcher : a.matcher ∈ pathMatchers)
    (expected : a.expected = .array items)
  | object {members : List (String × Json)} (matcher : a.matcher ∈ pathMatchers)
    (expected : a.expected = .object members)
  /-- such a value does not come out of a document -/
  | unsound (matcher : a.matcher ∈ pathMatchers) (expected : a.expected.isSound = false)

/-- The matcher that an acceptor stands for. -/
inductive Means (a : AcceptorEntry) : Matcher → Prop where
  | path {s : Selector} {steps : List Step} {e : Expected} (matcher : a.matcher = "path")
    (selects : a.Selects s) (one : s.alternatives = [steps]) (single : .project ∉ steps)
    (expected : Compares a.expected e) : Means a (.path s e)
  | pathAll {s : Selector} {steps : List Step} {e : Expected} (matcher : a.matcher = "pathAll")
    (selects : a.Selects s) (one : s.alternatives = [steps])
    (expected : Compares a.expected e) : Means a (.pathAll s e)
  | pathAny {s : Selector} {steps : List Step} {e : Expected} (matcher : a.matcher = "pathAny")
    (selects : a.Selects s) (one : s.alternatives = [steps])
    (expected : Compares a.expected e) : Means a (.pathAny s e)
  | status {n : JsonNumber} {code : Nat} (matcher : a.matcher = "status")
    (expected : a.expected = .number n) (integer : n.toInt? = some (Int.ofNat code))
    (fits : code ≤ 65535) : Means a (.status code)
  | errorCode {code : String} (matcher : a.matcher = "error")
    (expected : a.expected = .string code) : Means a (.errorCode code)
  | anyError {failed : Bool} (matcher : a.matcher = "error")
    (expected : a.expected = .bool failed) : Means a (.anyError failed)
  | unsupported {reason : String} (unsupported : a.Unsupported) :
    Means a (.unsupported a.matcher reason)

/-- The acceptor is the one that the entry describes: it means what it has, and it is
marked as unsupported whenever it is. -/
structure Describes (a : AcceptorEntry) (x : Acceptor) : Prop where
  state : (a.state, x.state) ∈ stateWords
  matcher : a.Means x.matcher
  unsupported : a.Unsupported → ∃ reason, x.matcher = .unsupported a.matcher reason

/-! ## What becomes of an acceptor -/

variable {a : AcceptorEntry} {waiter text : String} {state : AcceptorState} {m : Matcher}
  {x : Acceptor} {s : Selector}

theorem state?_eq_ok (h : a.state? waiter = .ok state) : (a.state, state) ∈ stateWords := by
  unfold state? at h
  split at h
  all_goals first
    | (obtain rfl := Except.ok.inj h; simp_all [stateWords])
    | cases h

theorem state?_succeeds : Succeeds (a.state? waiter) ↔ a.state ∈ stateWords.map (·.1) := by
  unfold state?
  split
  · next h => exact iff_of_true (succeeds_ok _) (by simp [h, stateWords])
  · next h => exact iff_of_true (succeeds_ok _) (by simp [h, stateWords])
  · next h => exact iff_of_true (succeeds_ok _) (by simp [h, stateWords])
  · next hsuccess hfailure hretry =>
    refine iff_of_false (not_succeeds_error _) ?_
    simp only [stateWords, List.map_cons, List.map_nil, List.mem_cons, List.not_mem_nil, or_false]
    rintro (h | h | h)
    · exact hsuccess h
    · exact hfailure h
    · exact hretry h

/-- What there is no literal for is outside the language of paths. -/
theorem unsupported_of_literal? (hmatcher : a.matcher ∈ pathMatchers)
    (h : literal? a.expected = none) : a.Unsupported := by
  cases hexpected : a.expected with
  | null => exact .null hmatcher hexpected
  | array items => exact .array hmatcher hexpected
  | object members => exact .object hmatcher hexpected
  | garbled => exact .unsound hmatcher (by rw [hexpected, Json.isSound])
  | number n =>
      rw [hexpected] at h
      refine .unsound hmatcher ?_
      rw [hexpected, Json.isSound, Option.map_eq_none_iff.mp h, Option.isSome_none]
  | string s | bool b =>
      rw [hexpected] at h
      cases h

theorem hasProjection_iff :
    s.hasProjection = true ↔ ∃ steps ∈ s.alternatives, .project ∈ steps := by
  simp [Selector.hasProjection]

/-- A comparison has what it means, or it is marked as unsupported because it is. -/
theorem means_comparison (hmatcher : a.matcher ∈ pathMatchers)
    (hargument : a.argument = some text) : a.Means (a.comparison text) := by
  unfold comparison
  split
  · next error hparse =>
    refine .unsupported (.argument hmatcher hargument ?_)
    rintro ⟨s, hs⟩
    cases hs.symm.trans hparse
  · next s hparse =>
    have hselects : a.Selects s := ⟨text, hargument, hparse⟩
    split
    · next hseveral => exact .unsupported (.alternatives hmatcher hselects hseveral)
    · next hfew =>
      obtain ⟨steps, hone⟩ := List.length_eq_one_iff.mp
        (Nat.le_antisymm (Nat.le_of_not_lt hfew)
          (List.length_pos_iff.mpr (Selector.alternatives_ne_nil hparse)))
      split
      · next hliteral => exact .unsupported (unsupported_of_literal? hmatcher hliteral)
      · next expected hliteral =>
        have hexpected := literal?_eq_some.mp hliteral
        split
        · next hpath =>
          split
          · next hprojects =>
            exact .unsupported (.projection hpath hselects (hasProjection_iff.mp hprojects))
          · next hsingle =>
            refine .path hpath hselects hone (fun hproject => hsingle ?_) hexpected
            exact hasProjection_iff.mpr ⟨steps, hone ▸ List.mem_singleton_self steps, hproject⟩
        · next hall => exact .pathAll hall hselects hone hexpected
        · next hpath hall =>
          refine .pathAny ?_ hselects hone hexpected
          simp only [pathMatchers, List.mem_cons, List.not_mem_nil, or_false] at hmatcher
          exact (hmatcher.resolve_left hpath).resolve_left hall

theorem complete_of_path (hmatcher : a.matcher ∈ pathMatchers)
    (hargument : a.argument = some text) : a.Complete where
  argument _ := ⟨text, hargument⟩
  status h := by
    rw [h] at hmatcher
    exact absurd hmatcher (by decide)
  error h := by
    rw [h] at hmatcher
    exact absurd hmatcher (by decide)

theorem nat16?_eq_some {v : Json} {code : Nat} : Json.nat16? v = some code ↔
    ∃ n, v = .number n ∧ n.toInt? = some (Int.ofNat code) ∧ code ≤ 65535 := by
  constructor
  · intro h
    cases v with
    | number n =>
        have h : n.toNatBelow? UInt16.size = some code := h
        unfold JsonNumber.toNatBelow? at h
        split at h
        · next k hk =>
          obtain ⟨hlt, h⟩ := Option.ite_none_right_eq_some.mp h
          obtain rfl := Option.some.inj h
          exact ⟨n, rfl, hk, Nat.le_of_lt_succ hlt⟩
        · cases h
    | null | string s | bool b | array items | object members | garbled => cases h
  · rintro ⟨n, rfl, hn, hle⟩
    show n.toNatBelow? UInt16.size = some code
    rw [JsonNumber.toNatBelow?, hn]
    exact if_pos (Nat.lt_succ_of_le hle)

/-- A path matcher is complete with its argument, and then it is what the comparison is. -/
theorem meets_path {fault : WaiterFault} (hmatcher : a.matcher ∈ pathMatchers) :
    Meets (fun m => a.Means m ∧ a.Complete) (fun _ => ¬ a.Complete)
      (match a.argument with
      | some argument => .ok (a.comparison argument)
      | none => .error fault) := by
  split
  · next argument hargument =>
    exact meets_ok ⟨means_comparison hmatcher hargument, complete_of_path hmatcher hargument⟩
  · next hnone =>
    refine meets_error fun h => ?_
    obtain ⟨text, htext⟩ := h.argument hmatcher
    cases hnone.symm.trans htext

/-- Each matcher makes its own demands, and its name alone says which. -/
theorem matcher?_meets (waiter : String) (a : AcceptorEntry) :
    Meets (fun m => a.Means m ∧ a.Complete) (fun _ => ¬ a.Complete) (a.matcher? waiter) := by
  unfold matcher?
  split
  · next h => exact meets_path (h ▸ by decide)
  · next h => exact meets_path (h ▸ by decide)
  · next h => exact meets_path (h ▸ by decide)
  · next h =>
    split
    · next code hcode =>
      obtain ⟨n, hn, hint, hle⟩ := nat16?_eq_some.mp hcode
      refine meets_ok ⟨.status h hn hint hle, ?_, fun _ => ⟨n, code, hn, hint, hle⟩, ?_⟩
      · simp [h, pathMatchers]
      · simp [h]
    · next hnone =>
      refine meets_error fun hcomplete => ?_
      obtain ⟨n, code, hn, hint, hle⟩ := hcomplete.status h
      cases hnone.symm.trans (nat16?_eq_some.mpr ⟨n, hn, hint, hle⟩)
  · next h =>
    split
    · next code hcode =>
      refine meets_ok ⟨.errorCode h hcode, ?_, ?_, fun _ => .inl ⟨code, hcode⟩⟩
      · simp [h, pathMatchers]
      · simp [h]
    · next failed hfailed =>
      refine meets_ok ⟨.anyError h hfailed, ?_, ?_, fun _ => .inr ⟨failed, hfailed⟩⟩
      · simp [h, pathMatchers]
      · simp [h]
    · next hcode hfailed =>
      refine meets_error fun hcomplete => ?_
      rcases hcomplete.error h with ⟨code, h⟩ | ⟨failed, h⟩
      · exact hcode _ h
      · exact hfailed _ h
  · next hpath hall hany hstatus herror =>
    have hother : ∀ word ∈ "status" :: "error" :: pathMatchers, a.matcher ≠ word := by
      simp only [pathMatchers, List.forall_mem_cons, List.not_mem_nil, false_imp_iff, implies_true,
        and_true]
      exact ⟨hstatus, herror, hpath, hall, hany⟩
    refine meets_ok ⟨.unsupported (.matcher fun h => hother _ h rfl), ?_, ?_, ?_⟩
    · exact fun h => absurd rfl (hother _ (List.mem_cons_of_mem _ (List.mem_cons_of_mem _ h)))
    · exact fun h => absurd h (hother _ (by decide))
    · exact fun h => absurd h (hother _ (by decide))

theorem Selects.unique {s' : Selector} (h : a.Selects s) (h' : a.Selects s') : s' = s := by
  obtain ⟨text, htext, hs⟩ := h
  obtain ⟨text', htext', hs'⟩ := h'
  obtain rfl := Option.some.inj (htext.symm.trans htext')
  exact Except.ok.inj (hs'.symm.trans hs)

theorem not_unsupported_of_path {steps : List Step} {e : Expected}
    (hmatcher : a.matcher ∈ pathMatchers) (hselects : a.Selects s)
    (hone : s.alternatives = [steps]) (hsingle : a.matcher = "path" → .project ∉ steps)
    (hexpected : Compares a.expected e) : ¬ a.Unsupported := by
  intro h
  cases h with
  | matcher hunknown => exact hunknown (List.mem_cons_of_mem _ (List.mem_cons_of_mem _ hmatcher))
  | argument _ hargument hunreadable =>
      obtain ⟨text, htext, hs⟩ := hselects
      obtain rfl := Option.some.inj (htext.symm.trans hargument)
      exact hunreadable ⟨s, hs⟩
  | alternatives _ hselects' hseveral =>
      obtain rfl := hselects.unique hselects'
      rw [hone] at hseveral
      exact absurd hseveral (Nat.lt_irrefl 1)
  | projection hpath hselects' hprojects =>
      obtain rfl := hselects.unique hselects'
      obtain ⟨steps', hsteps', hproject⟩ := hprojects
      obtain rfl := List.mem_singleton.mp (hone ▸ hsteps')
      exact hsingle hpath hproject
  | null _ h | array _ h | object _ h =>
      rw [h] at hexpected
      cases hexpected
  | unsound _ h => exact absurd (h.symm.trans hexpected.isSound) Bool.false_ne_true

/-- The language of statuses and errors has no gaps. -/
theorem not_unsupported_of_mem (hmatcher : a.matcher ∈ ["status", "error"]) :
    ¬ a.Unsupported := by
  have hname : a.matcher ∉ pathMatchers := by
    simp only [List.mem_cons, List.not_mem_nil, or_false] at hmatcher
    rcases hmatcher with h | h
    all_goals rw [h]; decide
  intro h
  cases h with
  | matcher hunknown =>
      exact hunknown (List.mem_append_left pathMatchers hmatcher)
  | projection h =>
      rw [h] at hname
      exact hname (by decide)
  | argument h | alternatives h | null h | array h | object h | unsound h => exact hname h

/-- Whatever an acceptor asks for that is not supported, it is marked for it. -/
theorem Means.marked (h : a.Means m) (hunsupported : a.Unsupported) :
    ∃ reason, m = .unsupported a.matcher reason := by
  cases h with
  | path hmatcher hselects hone hsingle hexpected =>
      exact absurd hunsupported (not_unsupported_of_path (hmatcher ▸ by decide) hselects hone
        (fun _ => hsingle) hexpected)
  | pathAll hmatcher hselects hone hexpected =>
      exact absurd hunsupported (not_unsupported_of_path (hmatcher ▸ by decide) hselects hone
        (fun h => absurd (hmatcher.symm.trans h) (by decide)) hexpected)
  | pathAny hmatcher hselects hone hexpected =>
      exact absurd hunsupported (not_unsupported_of_path (hmatcher ▸ by decide) hselects hone
        (fun h => absurd (hmatcher.symm.trans h) (by decide)) hexpected)
  | status hmatcher =>
      exact absurd hunsupported (not_unsupported_of_mem (by simp [hmatcher]))
  | errorCode hmatcher | anyError hmatcher =>
      exact absurd hunsupported (not_unsupported_of_mem (by simp [hmatcher]))
  | unsupported => exact ⟨_, rfl⟩

theorem convert_succeeds : Succeeds (a.convert waiter) ↔ a.Sensible := by
  have hmatcher := matcher?_meets waiter a
  rw [convert, succeeds_bind]
  simp only [succeeds_bind_pure]
  constructor
  · rintro ⟨state, hstate, m, hm⟩
    exact ⟨(hmatcher.value hm).2, state?_succeeds.mp ⟨state, hstate⟩⟩
  · intro h
    obtain ⟨state, hstate⟩ := (@state?_succeeds a waiter).mpr h.state
    refine ⟨state, hstate, ?_⟩
    cases hm : a.matcher? waiter with
    | ok m => exact succeeds_ok m
    | error fault => exact absurd h.toComplete (hmatcher.fault hm)

theorem describes_of_convert (h : a.convert waiter = .ok x) : a.Describes x := by
  obtain ⟨state, hstate, h⟩ := bind_eq_ok.mp h
  obtain ⟨m, hm, h⟩ := bind_eq_ok.mp h
  obtain rfl := pure_eq_ok.mp h
  have hmeans := ((matcher?_meets waiter a).value hm).1
  exact ⟨state?_eq_ok hstate, hmeans, hmeans.marked⟩

end AcceptorEntry

/-! ## What becomes of a waiter -/

namespace WaiterEntry

/-- There is the operation to poll, and the acceptors make sense. -/
structure Fits (service : Service) (w : WaiterEntry) : Prop where
  operation : ∃ o, service.operation? w.operation = some o
  acceptors : ∀ a ∈ w.acceptors, a.Sensible

/-- The waiter is the one that the entry describes, acceptor by acceptor. -/
structure Describes (w : WaiterEntry) (name : String) (x : Waiter) : Prop where
  name : x.name = name
  operation : x.operation = w.operation
  delay : x.delay = w.delay
  maxAttempts : x.maxAttempts = w.maxAttempts
  description : x.description = w.description
  acceptors : List.Forall₂ AcceptorEntry.Describes w.acceptors x.acceptors

variable {service : Service} {name : String} {w : WaiterEntry} {x : Waiter}

theorem convert_eq_ok_iff : w.convert service name = .ok x ↔
    (∃ o, service.operation? w.operation = some o) ∧
      ∃ acceptors, w.acceptors.mapM (AcceptorEntry.convert name) = .ok acceptors ∧
        ⟨name, w.operation, w.delay, w.maxAttempts, w.description, acceptors⟩ = x := by
  unfold convert
  cases ho : service.operation? w.operation with
  | none => exact iff_of_false nofun fun h => nomatch h.1
  | some o =>
      rw [and_iff_right ⟨o, rfl⟩]
      refine bind_eq_ok.trans (exists_congr fun acceptors => and_congr_right fun _ => ?_)
      exact pure_eq_ok

theorem convert_succeeds : Succeeds (w.convert service name) ↔ w.Fits service := by
  have hacceptors : Succeeds (w.acceptors.mapM (AcceptorEntry.convert name)) ↔
      ∀ a ∈ w.acceptors, a.Sensible := by
    rw [succeeds_mapM]
    exact forall₂_congr fun _ _ => AcceptorEntry.convert_succeeds
  constructor
  · rintro ⟨x, hx⟩
    obtain ⟨ho, acceptors, h, -⟩ := convert_eq_ok_iff.mp hx
    exact ⟨ho, hacceptors.mp ⟨acceptors, h⟩⟩
  · rintro ⟨ho, h⟩
    obtain ⟨acceptors, h⟩ := hacceptors.mpr h
    exact ⟨_, convert_eq_ok_iff.mpr ⟨ho, acceptors, h, rfl⟩⟩

theorem describes_of_convert (h : w.convert service name = .ok x) : w.Describes name x := by
  obtain ⟨-, acceptors, hacceptors, rfl⟩ := convert_eq_ok_iff.mp h
  refine ⟨rfl, rfl, rfl, rfl, rfl, ?_⟩
  exact (mapM_eq_ok.mp hacceptors).imp fun a x => AcceptorEntry.describes_of_convert

/-- A waiter is supported exactly if its entry asks for nothing that is not. -/
theorem Describes.isSupported_iff (h : w.Describes name x) :
    x.isSupported = true ↔ ∀ a ∈ w.acceptors, ¬ a.Unsupported := by
  rw [Waiter.isSupported_iff]
  constructor
  · intro hx a ha hunsupported
    obtain ⟨x, hmem, hdescribes⟩ := exists_right_of_forall₂ h.acceptors ha
    obtain ⟨reason, hmatcher⟩ := hdescribes.unsupported hunsupported
    exact hx x hmem _ _ hmatcher
  · intro ha x hmem matcher reason hmatcher
    obtain ⟨a, hentry, hdescribes⟩ := exists_left_of_forall₂ h.acceptors hmem
    have hmeans := hdescribes.matcher
    rw [hmatcher] at hmeans
    cases hmeans with
    | unsupported hunsupported => exact ha a hentry hunsupported

end WaiterEntry

namespace WaiterDocument

variable {service : Service} {d : WaiterDocument}

theorem convert_succeeds : Succeeds (d.convert service) ↔
    d.version = waiterVersion ∧ ∀ e ∈ d.entries, e.2.Fits service := by
  rw [convert]
  by_cases hversion : d.version = waiterVersion
  · rw [if_neg (not_not.mpr hversion), and_iff_right hversion]
    refine succeeds_bind_pure.trans (succeeds_mapM.trans (forall₂_congr fun e _ => ?_))
    exact succeeds_map.trans WaiterEntry.convert_succeeds
  · rw [if_pos hversion]
    exact iff_of_false (not_succeeds_error _) fun h => hversion h.1

theorem convert_of_mem {t : Table Waiter} (hd : (d.entries.map (·.1)).Nodup)
    (h : d.convert service = .ok t) {name : String} {e : WaiterEntry} {w : Waiter}
    (he : (name, e) ∈ d.entries) (hw : t.get? name = some w) :
    e.convert service name = .ok w := by
  obtain ⟨e', he', hconvert⟩ := (((convert_eq_ok_iff hd).mp h).2.holds _ _).mp hw
  obtain rfl := Table.eq_of_mem_of_mem hd he he'
  obtain ⟨w', hw', hsome⟩ := map_eq_ok.mp hconvert
  exact Option.some.inj hsome ▸ hw'

/-- A document is converted exactly if its version is known, its operations are there
and its acceptors make sense. Each waiter is then what its entry describes, with
every acceptor in its place, and it is supported unless one of them is not. -/
theorem convert_exact (hd : (d.entries.map (·.1)).Nodup) :
    (Succeeds (d.convert service) ↔ d.version = 2 ∧ ∀ e ∈ d.entries, e.2.Fits service) ∧
    ∀ t, d.convert service = .ok t →
      (∀ name, name ∈ t.keys ↔ name ∈ d.entries.map (·.1)) ∧
      ∀ name e w, (name, e) ∈ d.entries → t.get? name = some w →
        e.Describes name w ∧
        (w.isSupported = true ↔ ∀ a ∈ w.acceptors, ∀ matcher reason,
          a.matcher ≠ .unsupported matcher reason) ∧
        (w.isSupported = true ↔ ∀ a ∈ e.acceptors, ¬ a.Unsupported) := by
  refine ⟨convert_succeeds, fun t ht => ⟨fun name => ?_, fun name e w he hw => ?_⟩⟩
  · obtain ⟨-, hconverts⟩ := (convert_eq_ok_iff hd).mp ht
    rw [Table.mem_keys_iff, List.mem_map]
    constructor
    · rintro ⟨w, hw⟩
      obtain ⟨e, he, -⟩ := (hconverts.holds _ _).mp hw
      exact ⟨(name, e), he, rfl⟩
    · rintro ⟨⟨name, e⟩, he, rfl⟩
      obtain ⟨v, hv⟩ := hconverts.succeeds _ he
      obtain ⟨w, hw, rfl⟩ := map_eq_ok.mp hv
      exact ⟨w, (hconverts.holds _ _).mpr ⟨e, he, hv⟩⟩
  · have hdescribes := WaiterEntry.describes_of_convert (convert_of_mem hd ht he hw)
    exact ⟨hdescribes, w.isSupported_iff, hdescribes.isSupported_iff⟩

end WaiterDocument

/-! ## An example

Two ways to wait for a book. One of them asks for what no code is generated for. -/

/-- A document with a waiter that can be turned into code and one that cannot. -/
def lending : WaiterDocument where
  version := 2
  entries :=
    [("BookListed",
        { operation := "ListBooks", delay := 5, maxAttempts := 3, description := none
          acceptors :=
            [⟨"success", "pathAny", some "Books[].Title", .string "Emma"⟩,
              ⟨"failure", "error", none, .bool true⟩] }),
      ("BookWritten",
        { operation := "GetBook", delay := 5, maxAttempts := 3, description := none
          acceptors :=
            [⟨"retry", "path", some "Sequels[].Title", .string "Emma"⟩,
              ⟨"success", "status", none, .ofNat 200⟩] })]

theorem convert_lending : ∃ s t, Sources.books.toService.result = .ok s ∧
    (lending.entries.map (·.1)).Nodup ∧ (∀ e ∈ lending.entries, e.2.Fits s) ∧
    lending.convert s = .ok t ∧
    (∃ w, t.get? "BookListed" = some w ∧ w.isSupported = true) ∧
    ∃ w, t.get? "BookWritten" = some w ∧ w.isSupported = false := by
  have hrun : (Sources.books.toService.result.map fun s => (lending.convert s).map fun t =>
      t.entries.map fun e => (e.1, e.2.isSupported)) =
        .ok (.ok [("BookListed", true), ("BookWritten", false)]) := by
    decide
  obtain ⟨s, hs, hrun⟩ := map_eq_ok.mp hrun
  obtain ⟨t, ht, hentries⟩ := map_eq_ok.mp hrun
  have hnames : (lending.entries.map (·.1)).Nodup := by decide
  obtain ⟨hfits, hkept⟩ := @WaiterDocument.convert_exact s lending hnames
  obtain ⟨hkeys, hwaiters⟩ := hkept t ht
  have hlisted : ("BookListed", true) ∈ t.entries.map fun e => (e.1, e.2.isSupported) := by
    rw [hentries]
    decide
  obtain ⟨⟨name, listed⟩, hlisted, hentry⟩ := List.mem_map.mp hlisted
  obtain ⟨rfl, hsupported⟩ := Prod.mk.inj hentry
  obtain ⟨written, hwritten⟩ := Table.mem_keys_iff.mp ((hkeys "BookWritten").mpr (by decide))
  obtain ⟨-, -, hwhole⟩ := hwaiters "BookWritten" _ _
    (List.mem_cons_of_mem _ List.mem_cons_self) hwritten
  refine ⟨s, t, hs, hnames, (hfits.mp ⟨t, ht⟩).2, ht, ⟨listed, ?_, hsupported⟩, written,
    hwritten, Bool.eq_false_iff.mpr fun h => hwhole.mp h _ List.mem_cons_self ?_⟩
  · exact Table.get?_eq_some_iff.mpr hlisted
  · exact .projection rfl ⟨_, rfl, (by decide :
      Selector.parse "Sequels[].Title" = .ok ⟨[[.field "Sequels", .project, .field "Title"]]⟩)⟩
        ⟨_, List.mem_cons_self, by decide⟩

end Definition
end Clientwright
