import Clientwright.Proofs.Outcomes
import Clientwright.Trace

/-!
# What a trace leaves behind

A trace ends as its parts end, which is to say that the ends compose like plain
answers and the events do not matter to them (`result_bind`). So everything
about ends goes through `Outcome`, and this file has only the step over.

Events are the other half. While a trace goes on, the events of a composition
are those of its first part and then those of its rest; once it has failed
nothing follows. For a list of traces that all came to an end this is a plain
statement: an event is there exactly if one of them left it.
-/

namespace Clientwright

namespace Trace

open Outcome

variable {ω υ α β : Type} {x : Trace ω α} {f : α → Trace ω β} {e : ω}

/-- A trace that fails drops what would follow, so it does not matter how the
rest is bracketed. -/
instance : LawfulMonad (Trace ω) := by
  refine LawfulMonad.mk' (Trace ω) (fun x => ?_) (fun a f => ?_) (fun x f g => ?_)
  · show x >>= pure = x
    cases h : x.result with
    | ok a =>
        rw [bind_ok h]
        cases x
        simp_all [pure]
    | error e =>
        rw [bind_error h]
        cases x
        simp_all
  · rw [bind_ok rfl]
    rfl
  · cases hx : x.result with
    | error e => rw [bind_error hx, bind_error hx, bind_error rfl]
    | ok a =>
        rw [bind_ok hx, bind_ok hx]
        cases hf : (f a).result with
        | ok b =>
            rw [bind_ok hf, bind_ok rfl]
            simp
        | error e =>
            rw [bind_error hf, bind_error rfl]

/-! ## Ends -/

theorem result_bind (x : Trace ω α) (f : α → Trace ω β) :
    (x >>= f).result = x.result >>= fun a => (f a).result := by
  cases h : x.result with
  | ok a =>
      rw [bind_ok h]
      rfl
  | error e =>
      rw [bind_error h]
      rfl

/-- A composition came to its end exactly if both its parts did. -/
theorem bind_result_eq_ok {b : β} :
    (x >>= f).result = .ok b ↔ ∃ a, x.result = .ok a ∧ (f a).result = .ok b := by
  rw [result_bind, bind_eq_ok]

theorem result_mapM (f : α → Trace ω β) (l : List α) :
    (l.mapM f).result = l.mapM fun a => (f a).result := by
  induction l with
  | nil => rfl
  | cons a l ih =>
      rw [List.mapM_cons, List.mapM_cons, result_bind]
      congr 1
      funext b
      rw [result_bind, ih]
      rfl

/-! ## Events -/

theorem mapEvents_bind (g : ω → υ) (x : Trace ω α) (f : α → Trace ω β) :
    (x >>= f).mapEvents g = x.mapEvents g >>= fun a => (f a).mapEvents g := by
  have hresult : (x.mapEvents g).result = x.result := rfl
  cases h : x.result with
  | ok a =>
      rw [bind_ok h, bind_ok (hresult.trans h), mapEvents, List.map_append]
      rfl
  | error e =>
      rw [bind_error h, bind_error (hresult.trans h)]
      rfl

@[simp]
theorem events_pure (a : α) : (pure a : Trace ω α).events = [] := rfl

@[simp]
theorem events_emit (e : ω) : (emit e).events = [e] := rfl

@[simp]
theorem events_emitAll (l : List ω) : (emitAll l).events = l := rfl

@[simp]
theorem events_ofExcept (r : Except Error α) :
    (ofExcept r : Trace ω α).events = [] := rfl

/-- Where the first part came to its end, the events of the rest follow. -/
theorem events_bind {a : α} (h : x.result = .ok a) :
    (x >>= f).events = x.events ++ (f a).events := by
  rw [bind_ok h]

theorem mem_events_bind {a : α} (h : x.result = .ok a) :
    e ∈ (x >>= f).events ↔ e ∈ x.events ∨ e ∈ (f a).events := by
  rw [events_bind h, List.mem_append]

/-- A list of traces that all came to their ends left what each of them left. -/
theorem events_mapM {f : α → Trace ω β} {l : List α} {r : List β}
    (h : (l.mapM f).result = .ok r) :
    (l.mapM f).events = l.flatMap fun a => (f a).events := by
  induction l generalizing r with
  | nil => rfl
  | cons a l ih =>
      rw [List.mapM_cons] at h ⊢
      obtain ⟨b, hb, h⟩ := bind_result_eq_ok.mp h
      obtain ⟨rest, hrest, -⟩ := bind_result_eq_ok.mp h
      rw [events_bind hb, events_bind hrest, ih hrest, events_pure, List.append_nil,
        List.flatMap_cons]

theorem mem_events_mapM {f : α → Trace ω β} {l : List α} {r : List β}
    (h : (l.mapM f).result = .ok r) :
    e ∈ (l.mapM f).events ↔ ∃ a ∈ l, e ∈ (f a).events := by
  rw [events_mapM h, List.mem_flatMap]

end Trace

end Clientwright
