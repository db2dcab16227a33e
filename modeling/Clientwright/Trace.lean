import Clientwright.Error

/-!
# Traces

Reading and generating leave events behind, warnings and files among them, and then end with a
value or an error. A trace holds both: whoever runs it decides what an event means, and what
happened before an error is not lost.
-/

namespace Clientwright

/-- Events in order, and how it ended. -/
structure Trace (ω α : Type) where
  events : List ω
  result : Except Error α

namespace Trace

variable {ω α β : Type}

instance : Monad (Trace ω) where
  pure a := ⟨[], .ok a⟩
  bind x f :=
    match x.result with
    | .ok a =>
      let y := f a
      ⟨x.events ++ y.events, y.result⟩
    | .error e => ⟨x.events, .error e⟩

/-- One event. -/
def emit (event : ω) : Trace ω Unit := ⟨[event], .ok ()⟩

/-- Events in order. -/
def emitAll (events : List ω) : Trace ω Unit := ⟨events, .ok ()⟩

/-- An end without events. -/
def ofExcept (r : Except Error α) : Trace ω α := ⟨[], r⟩

/-- An error. -/
def fail (e : Error) : Trace ω α := ⟨[], .error e⟩

instance : MonadLift (Except Error) (Trace ω) := ⟨ofExcept⟩

/-- The same trace with other events. -/
def mapEvents {υ : Type} (f : ω → υ) (t : Trace ω α) : Trace υ α :=
  ⟨t.events.map f, t.result⟩

theorem bind_ok {x : Trace ω α} {a : α} (h : x.result = .ok a) (f : α → Trace ω β) :
    (x >>= f) = ⟨x.events ++ (f a).events, (f a).result⟩ := by
  show (match x.result with | .ok a => _ | .error e => _) = _
  rw [h]

theorem bind_error {x : Trace ω α} {e : Error} (h : x.result = .error e) (f : α → Trace ω β) :
    (x >>= f) = ⟨x.events, .error e⟩ := by
  show (match x.result with | .ok a => _ | .error e => _) = _
  rw [h]

end Trace

end Clientwright
