import Clientwright.Proofs.Stepwise

/-!
# When a place fails

What a generator asks of the place it writes to is settled beforehand. It asks
for one directory or file after the other, and all that the place can do about it
is to say no, which is then the last word: nothing more is asked for, and the
place's own fault is the answer.

To say this a place is watched (`Place.watched`): the calls are kept in a list,
the one that failed among them, and some of them are made to fail by their
number. A call that failed does not keep the later ones from succeeding, so if a
generator went on after a fault, the list would show it.

`Scripted` is the whole statement, with the calls and the answer read off the
trace. A dry run is one more place (`Place.dryRun`), at which nothing ever fails.
-/

namespace Clientwright

open Outcome

/-! ## Calls -/

namespace Event

/-- The action that is carried out. -/
def action? : Event → Option Action
  | action a => some a
  | warning _ => none

/-- The actions among some events, in order. -/
def actions (l : List Event) : List Action := l.filterMap action?

theorem actions_nil : actions [] = [] := rfl

theorem actions_action (a : Action) (l : List Event) :
    actions (.action a :: l) = a :: actions l := rfl

theorem actions_warning (w : Warning) (l : List Event) :
    actions (.warning w :: l) = actions l := rfl

end Event

/-- The text that the action writes. -/
def Action.text? : Action → Option String
  | makeDirectory _ => none
  | writeFile _ text => some text

theorem filterMap_size?_cons (a : Action) (l : List Action) :
    (a :: l).filterMap Action.size? = a.size?.toList ++ l.filterMap Action.size? := by
  cases a with
  | makeDirectory path => rfl
  | writeFile path text => rfl

/-- The actions of a trace, in order. -/
def Trace.actions {α : Type} (t : Trace Event α) : List Action := Event.actions t.events

/-- What a generator answers after a trace: the files, if it came to its end. -/
def Trace.answer (t : Trace Event Unit) : Except Error (List String) :=
  t.result.map fun _ => t.files

theorem Trace.files_eq {α : Type} (t : Trace Event α) :
    t.files = t.actions.filterMap Action.file? := by
  rw [files, actions, Event.actions, List.filterMap_filterMap]
  congr 1
  funext e
  cases e with
  | action a => rfl
  | warning w => rfl

theorem Trace.totalBytes_eq {α : Type} (t : Trace Event α) :
    t.totalBytes = ((t.actions.filterMap Action.text?).map String.utf8ByteSize).sum := by
  have hfold : ∀ (l : List Event) (n : Nat), l.foldl (fun n e => n + e.bytes) n =
      n + (((Event.actions l).filterMap Action.text?).map String.utf8ByteSize).sum := by
    intro l
    induction l with
    | nil => exact fun n => rfl
    | cons e rest ih =>
        intro n
        rw [List.foldl_cons, ih]
        cases e with
        | action a =>
            cases a with
            | makeDirectory path => rfl
            | writeFile path text =>
                have htext : (Action.writeFile path text).text? = some text := rfl
                rw [Event.actions_action, List.filterMap_cons_some htext, List.map_cons,
                  List.sum_cons, Nat.add_assoc]
                rfl
        | warning w => rfl
  rw [totalBytes, hfold, Nat.zero_add]
  rfl

namespace Place

variable {m : Type → Type} [Monad m]

/-- The place with a list of the calls, of which some are made to fail. -/
def watched (p : Place m) (faults : Nat → Option WriteFault) :
    Place (StateT (List Action) m) where
  act a := fun calls => do
    match faults calls.length with
    | some fault => pure (.error fault, calls ++ [a])
    | none =>
      let r ← p.act a
      pure (r, calls ++ [a])
  warn w := fun calls => do
    p.warn w
    pure ((), calls)

/-- No call fails. -/
def noFault : Nat → Option WriteFault := fun _ => none

/-- One call fails. -/
def faultAt (n : Nat) (fault : WriteFault) : Nat → Option WriteFault :=
  fun k => if k = n then some fault else none

section Laws

variable [LawfulMonad m] {p : Place m} {faults : Nat → Option WriteFault}

theorem run_watched_action (hp : p.NeverFails) (a : Action) (rest : List Event)
    {calls : List Action} (h : faults calls.length = none) :
    ∃ first : m Unit, ((p.watched faults).perform (.action a :: rest)).run calls =
      first >>= fun _ => ((p.watched faults).perform rest).run (calls ++ [a]) := by
  obtain ⟨first, hfirst⟩ := hp a
  have hact : ((p.watched faults).act a).run calls =
      (fun _ => (.ok (), calls ++ [a])) <$> first := by
    show (match faults calls.length with | some fault => _ | none => _) = _
    rw [h, hfirst]
    dsimp only
    rw [bind_map_left, map_eq_pure_bind]
  refine ⟨first, ?_⟩
  rw [perform, StateT.run_bind, hact, bind_map_left]

theorem run_watched_fault (a : Action) (rest : List Event) {calls : List Action}
    {fault : WriteFault} (h : faults calls.length = some fault) :
    ((p.watched faults).perform (.action a :: rest)).run calls =
      pure (.error fault, calls ++ [a]) := by
  have hact : ((p.watched faults).act a).run calls = pure (.error fault, calls ++ [a]) := by
    show (match faults calls.length with | some fault => _ | none => _) = _
    rw [h]
  rw [perform, StateT.run_bind, hact, pure_bind]
  rfl

theorem run_watched_warning (w : Warning) (rest : List Event) (calls : List Action) :
    ((p.watched faults).perform (.warning w :: rest)).run calls =
      p.warn w >>= fun _ => ((p.watched faults).perform rest).run calls := by
  have hwarn : ((p.watched faults).warn w).run calls =
      p.warn w >>= fun _ => pure ((), calls) := rfl
  rw [perform, StateT.run_bind, hwarn, bind_assoc]
  simp only [pure_bind]

variable (faults) in
/-- Where no call fails, all of them are made. -/
theorem perform_watched_of_ok (hp : p.NeverFails) (l : List Event) (calls : List Action)
    (h : ∀ k < (Event.actions l).length, faults (calls.length + k) = none) :
    ∃ done : m Unit, ((p.watched faults).perform l).run calls =
      (fun _ => (.ok (), calls ++ Event.actions l)) <$> done := by
  induction l generalizing calls with
  | nil =>
      refine ⟨pure (), ?_⟩
      rw [perform, StateT.run_pure, map_pure, Event.actions_nil, List.append_nil]
  | cons e rest ih =>
      cases e with
      | action a =>
          rw [Event.actions_action, List.length_cons] at h
          obtain ⟨first, hfirst⟩ := run_watched_action hp a rest (h 0 (Nat.succ_pos _))
          obtain ⟨done, hdone⟩ := ih (calls ++ [a]) fun k hk => by
            rw [List.length_append, List.length_singleton, Nat.add_assoc, Nat.add_comm 1 k]
            exact h (k + 1) (Nat.succ_lt_succ hk)
          refine ⟨first >>= fun _ => done, ?_⟩
          rw [hfirst, hdone, map_bind, Event.actions_action, List.append_assoc,
            List.singleton_append]
      | warning w =>
          rw [Event.actions_warning] at h ⊢
          obtain ⟨done, hdone⟩ := ih calls h
          refine ⟨p.warn w >>= fun _ => done, ?_⟩
          rw [run_watched_warning, hdone, map_bind]

variable (faults) in
/-- Where one fails, it is the last. -/
theorem perform_watched_of_error (hp : p.NeverFails) (l : List Event) (calls : List Action)
    {i : Nat} {fault : WriteFault} (hi : i < (Event.actions l).length)
    (h : ∀ k < i, faults (calls.length + k) = none)
    (hfault : faults (calls.length + i) = some fault) :
    ∃ done : m Unit, ((p.watched faults).perform l).run calls =
      (fun _ => (.error fault, calls ++ (Event.actions l).take (i + 1))) <$> done := by
  induction l generalizing calls i with
  | nil => cases hi
  | cons e rest ih =>
      cases e with
      | action a =>
          rw [Event.actions_action] at hi ⊢
          cases i with
          | zero =>
              refine ⟨pure (), ?_⟩
              rw [run_watched_fault a rest hfault, map_pure, List.take_succ_cons,
                List.take_zero]
          | succ i =>
              have hlength : ∀ k, (calls ++ [a]).length + k = calls.length + (k + 1) := by
                intro k
                rw [List.length_append, List.length_singleton]
                omega
              obtain ⟨first, hfirst⟩ := run_watched_action hp a rest (h 0 (Nat.succ_pos _))
              obtain ⟨done, hdone⟩ := ih (calls ++ [a]) (Nat.lt_of_succ_lt_succ hi)
                (fun k hk => by
                  rw [hlength]
                  exact h (k + 1) (Nat.succ_lt_succ hk))
                (by rw [hlength, hfault])
              refine ⟨first >>= fun _ => done, ?_⟩
              rw [hfirst, hdone, map_bind, List.take_succ_cons, List.append_assoc,
                List.singleton_append]
      | warning w =>
          rw [Event.actions_warning] at hi ⊢
          obtain ⟨done, hdone⟩ := ih calls hi h hfault
          refine ⟨p.warn w >>= fun _ => done, ?_⟩
          rw [run_watched_warning, hdone, map_bind]

/-- A dry run makes no calls, so it only gives the warnings. -/
theorem perform_dryRun (l : List Event) (sizes : List (String × Nat)) :
    ∃ done : m Unit, (p.dryRun.perform l).run sizes =
      (fun _ => (.ok (), sizes ++ (Event.actions l).filterMap Action.size?)) <$> done := by
  induction l generalizing sizes with
  | nil =>
      refine ⟨pure (), ?_⟩
      rw [perform, StateT.run_pure, map_pure, Event.actions_nil, List.filterMap_nil,
        List.append_nil]
  | cons e rest ih =>
      cases e with
      | action a =>
          obtain ⟨done, hdone⟩ := ih (sizes ++ a.size?.toList)
          have hact : (p.dryRun.act a).run sizes = pure (.ok (), sizes ++ a.size?.toList) := rfl
          refine ⟨done, ?_⟩
          rw [perform, StateT.run_bind, hact, pure_bind, hdone, Event.actions_action,
            filterMap_size?_cons, List.append_assoc]
      | warning w =>
          obtain ⟨done, hdone⟩ := ih sizes
          have hwarn : (p.dryRun.warn w).run sizes = p.warn w >>= fun _ => pure ((), sizes) := rfl
          refine ⟨p.warn w >>= fun _ => done, ?_⟩
          rw [perform, StateT.run_bind, hwarn, bind_assoc, map_bind, Event.actions_warning]
          simp only [pure_bind, hdone]

end Laws

end Place

/-! ## The script of a run -/

/-- A program that writes, and the trace that is its script. -/
structure Scripted
    (program : ∀ (m : Type → Type) [Monad m], Place m → m (Except Error (List String)))
    (t : Trace Event Unit) : Prop where
  /-- to carry the trace out is to run the program -/
  run : ∀ {m : Type → Type} [Monad m] [LawfulMonad m] (p : Place m),
    p.run t = (fun r => r.map fun _ => ()) <$> program m p
  /-- at a place that never fails, the calls and the answer are those of the trace -/
  whole : ∀ {m : Type → Type} [Monad m] [LawfulMonad m] (p : Place m), p.NeverFails →
    ∃ done : m Unit, (program (StateT (List Action) m) (p.watched Place.noFault)).run [] =
      (fun _ => (t.answer, t.actions)) <$> done
  /-- a call that fails is the last, and its fault is the answer -/
  cut : ∀ {m : Type → Type} [Monad m] [LawfulMonad m] (p : Place m), p.NeverFails →
    ∀ (n : Nat) (fault : WriteFault), ∃ done : m Unit,
      (program (StateT (List Action) m) (p.watched (Place.faultAt n fault))).run [] =
        (fun _ =>
          if n < t.actions.length then (.error (.write fault), t.actions.take (n + 1))
          else (t.answer, t.actions)) <$> done
  /-- the files of a run that succeeds are those that its calls wrote -/
  files : ∀ l, t.answer = .ok l → l = t.actions.filterMap Action.file?
  /-- a dry run keeps them, and counts the bytes that are written elsewhere -/
  dry : ∃ sizes,
    (∀ {m : Type → Type} [Monad m] [LawfulMonad m] (p : Place m), ∃ done : m Unit,
      (program (StateT (List (String × Nat)) m) p.dryRun).run [] =
        (fun _ => (t.answer, sizes)) <$> done) ∧
    sizes.map (·.1) = t.actions.filterMap Action.file? ∧
    (sizes.map (·.2)).sum = t.totalBytes ∧
    t.totalBytes = ((t.actions.filterMap Action.text?).map String.utf8ByteSize).sum

theorem sizes_paths (l : List Action) :
    (l.filterMap Action.size?).map (·.1) = l.filterMap Action.file? := by
  rw [List.map_filterMap]
  congr 1
  funext a
  cases a with
  | makeDirectory path => rfl
  | writeFile path text => rfl

theorem sizes_bytes (l : List Action) :
    (l.filterMap Action.size?).map (·.2) =
      (l.filterMap Action.text?).map String.utf8ByteSize := by
  rw [List.map_filterMap, List.map_filterMap]
  congr 1
  funext a
  cases a with
  | makeDirectory path => rfl
  | writeFile path text => rfl

/-- A program that carries a trace out has it for its script. -/
theorem scripted_of_carryOut
    {program : ∀ (m : Type → Type) [Monad m], Place m → m (Except Error (List String))}
    {t : Trace Event Unit}
    (h : ∀ {m : Type → Type} [Monad m] [LawfulMonad m] (p : Place m),
      program m p = Writing.files (Writing.carryOut p t)) : Scripted program t where
  run p := by rw [h, Writing.run_eq]
  whole p hp := by
    obtain ⟨done, hdone⟩ :=
      Place.perform_watched_of_ok Place.noFault hp t.events [] fun k _ => rfl
    refine ⟨done, ?_⟩
    rw [h, Writing.files_carryOut, StateT.run_map, hdone, Functor.map_map]
    rfl
  cut p hp n fault := by
    rw [h, Writing.files_carryOut, StateT.run_map]
    split
    next hn =>
      obtain ⟨done, hdone⟩ := Place.perform_watched_of_error
        (Place.faultAt n fault) hp t.events [] hn
        (fun k hk => if_neg (by rw [List.length_nil]; omega))
        (if_pos (Nat.zero_add n))
      refine ⟨done, ?_⟩
      rw [hdone, Functor.map_map]
      rfl
    next hn =>
      obtain ⟨done, hdone⟩ := Place.perform_watched_of_ok
        (Place.faultAt n fault) hp t.events []
        (fun k hk => if_neg (by
          have hk : k < t.actions.length := hk
          rw [List.length_nil]
          omega))
      refine ⟨done, ?_⟩
      rw [hdone, Functor.map_map]
      rfl
  files l hl := by
    obtain ⟨-, -, rfl⟩ := map_eq_ok.mp hl
    exact t.files_eq
  dry := by
    refine ⟨t.actions.filterMap Action.size?, fun p => ?_, sizes_paths _, ?_, t.totalBytes_eq⟩
    · obtain ⟨done, hdone⟩ := Place.perform_dryRun (p := p) t.events []
      refine ⟨done, ?_⟩
      rw [h, Writing.files_carryOut, StateT.run_map, hdone, Functor.map_map]
      rfl
    · rw [sizes_bytes, t.totalBytes_eq]

/-- Whether for a crate or a workspace, the calls of a generator are settled
beforehand, and a place that fails only cuts them off. -/
theorem generators_scripted :
    (∀ (g : Generator) (out : String),
      Scripted (fun _ _ p => g.writeTo p out) (g.generate out)) ∧
    ∀ (w : Workspace) (out : String),
      Scripted (fun _ _ p => w.writeTo p out) (w.generate out) :=
  ⟨fun g out => scripted_of_carryOut fun p => g.writeTo_eq p out,
    fun w out => scripted_of_carryOut fun p => w.writeTo_eq p out⟩

end Clientwright
