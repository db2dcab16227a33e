import Clientwright.Proofs.Inputs
import Clientwright.Proofs.Interruptions

/-!
# Sessions in a watched world

A command reads, checks, prints and at last generates, and to see in which order
it does so the place is watched as it is when it fails (`Place.watched`), now for
a whole command in a world in memory.

`Runs` says what a computation did there, and composes. A session that only reads
and checks has no calls, and what is left to say of it is which values it can
come out with (`Decides`); that composes too, and turns a session into the
statement about texts that its inputs are good.
-/

namespace Clientwright

open Outcome

namespace CommandLine

/-- Computations in a world in memory whose place is watched. -/
abbrev Watched := StateT (List Action) (StateM World)

/-- The host with a list of the calls of its place. -/
def Host.watched {m : Type → Type} [Monad m] (h : Host m) : Host (StateT (List Action) m) where
  read path := StateT.lift (h.read path)
  print line := StateT.lift (h.print line)
  place := h.place.watched Place.noFault

/-- The world in memory with a list of the calls. -/
abbrev watchedWorld : Host Watched := World.host.watched

/-! ## What a computation does -/

section Runs

variable {α β : Type} {tree tree' tree'' : FileTree} {x : Watched α} {f : α → Watched β} {a : α}
  {b : β} {calls calls' : List Action} {lines lines' : List String}

/-- On the tree the computation has the value, after the calls it has made and the
lines it has printed, and leaves another tree behind. -/
def Runs (tree : FileTree) (x : Watched α) (a : α) (calls : List Action) (lines : List String)
    (tree' : FileTree) : Prop :=
  ∃ warnings, ∀ before printed given,
    (x.run before).run ⟨tree, printed, given⟩ =
      ((a, before ++ calls), ⟨tree', printed ++ lines, given ++ warnings⟩)

theorem runs_pure (tree : FileTree) (a : α) : Runs tree (pure a) a [] [] tree := by
  refine ⟨[], fun before printed given => ?_⟩
  rw [List.append_nil, List.append_nil, List.append_nil]
  rfl

theorem Runs.bind (hx : Runs tree x a calls lines tree')
    (hf : Runs tree' (f a) b calls' lines' tree'') :
    Runs tree (x >>= f) b (calls ++ calls') (lines ++ lines') tree'' := by
  obtain ⟨warnings, hx⟩ := hx
  obtain ⟨warnings', hf⟩ := hf
  refine ⟨warnings ++ warnings', fun before printed given => ?_⟩
  rw [StateT.run_bind, StateT.run_bind, hx]
  simp only [← List.append_assoc]
  exact hf ..

theorem runs_read (tree : FileTree) (path : String) :
    Runs tree (watchedWorld.read path) (tree.read path) [] [] tree := by
  refine ⟨[], fun before printed given => ?_⟩
  rw [List.append_nil, List.append_nil, List.append_nil]
  rfl

theorem runs_print (tree : FileTree) (line : String) :
    Runs tree (watchedWorld.print line) () [] [line] tree := by
  refine ⟨[], fun before printed given => ?_⟩
  rw [List.append_nil, List.append_nil]
  rfl

theorem runs_warn (tree : FileTree) (w : Warning) :
    Runs tree (watchedWorld.place.warn w) () [] [] tree := by
  refine ⟨[w], fun before printed given => ?_⟩
  rw [List.append_nil, List.append_nil]
  rfl

/-- A call of the place is kept, whatever comes of it. -/
theorem runs_act (tree : FileTree) (a : Action) : ∃ r tree',
    Runs tree (watchedWorld.place.act a) r [a] [] tree' := by
  have hcall : ∀ (before : List Action) (w : World),
      ((watchedWorld.place.act a).run before).run w =
        (((World.place.act a w).1, before ++ [a]), (World.place.act a w).2) := fun _ _ => rfl
  cases htree : tree.act a with
  | ok tree' =>
      refine ⟨.ok (), tree', [], fun before printed given => ?_⟩
      have hact : World.place.act a ⟨tree, printed, given⟩ = (.ok (), ⟨tree', printed, given⟩) := by
        unfold World.place
        dsimp only
        rw [htree]
      rw [hcall, hact, List.append_nil, List.append_nil]
  | error fault =>
      refine ⟨.error fault, tree, [], fun before printed given => ?_⟩
      have hact : World.place.act a ⟨tree, printed, given⟩ =
          (.error fault, ⟨tree, printed, given⟩) := by
        unfold World.place
        dsimp only
        rw [htree]
      rw [hcall, hact, List.append_nil, List.append_nil]

end Runs

/-! ## Sessions -/

section Sessions

variable {α β : Type} {tree tree' tree'' : FileTree} {x : Session Watched α}
  {f : α → Session Watched β} {a : α} {r : Except Failure β} {e : Failure}
  {calls calls' : List Action} {lines lines' : List String}

theorem runs_bind_ok (hx : Runs tree x.run (.ok a) calls lines tree')
    (hf : Runs tree' (f a).run r calls' lines' tree'') :
    Runs tree (x >>= f).run r (calls ++ calls') (lines ++ lines') tree'' := by
  rw [ExceptT.run_bind]
  exact hx.bind hf

theorem runs_then {y : Session Watched β} (hx : Runs tree x.run (.ok a) calls lines tree')
    (hy : Runs tree' y.run r calls' lines' tree'') :
    Runs tree (x >>= fun _ => y).run r (calls ++ calls') (lines ++ lines') tree'' :=
  runs_bind_ok hx hy

theorem runs_bind_error (hx : Runs tree x.run (.error e) calls lines tree') :
    Runs tree (x >>= f).run (.error e) calls lines tree' := by
  obtain ⟨warnings, hx⟩ := hx
  refine ⟨warnings, fun before printed given => ?_⟩
  rw [ExceptT.run_bind, StateT.run_bind, StateT.run_bind, hx]
  rfl

theorem runs_lift {y : Watched α} (hy : Runs tree y a calls lines tree') :
    Runs tree (ExceptT.lift y : Session Watched α).run (.ok a) calls lines tree' := by
  obtain ⟨warnings, hy⟩ := hy
  refine ⟨warnings, fun before printed given => ?_⟩
  rw [ExceptT.run_lift, StateT.run_map, StateT.run_map, hy]
  rfl

theorem runs_lines (tree : FileTree) (lines : List String) :
    Runs tree (Session.print watchedWorld lines).run (.ok ()) [] lines tree := by
  induction lines with
  | nil => exact runs_pure tree _
  | cons line rest ih => exact runs_bind_ok (runs_lift (runs_print tree line)) ih

theorem runs_during_ok {y : Watched (Except Error α)} (task : Task)
    (hy : Runs tree y (.ok a) calls lines tree') :
    Runs tree (Session.during task y).run (.ok a) calls lines tree' := by
  have h : Runs tree (Session.during task y).run (.ok a) (calls ++ []) (lines ++ []) tree' :=
    runs_bind_ok (runs_lift hy) (runs_pure tree' _)
  rwa [List.append_nil, List.append_nil] at h

theorem runs_during_error {y : Watched (Except Error α)} {fault : Error} (task : Task)
    (hy : Runs tree y (.error fault) calls lines tree') :
    Runs tree (Session.during task y).run (.error (.during task fault)) calls lines tree' := by
  have h : Runs tree (Session.during task y).run (.error (.during task fault)) (calls ++ [])
      (lines ++ []) tree' :=
    runs_bind_ok (runs_lift hy) (runs_pure tree' _)
  rwa [List.append_nil, List.append_nil] at h

end Sessions

/-! ## Sessions that only look -/

section Decides

variable {α β : Type} {tree : FileTree} {x : Session Watched α} {f : α → Session Watched β}
  {P Q : α → Prop} {R : α → β → Prop}

/-- On the tree the session calls nothing and changes nothing, and the values that
it can come out with are these. -/
def Decides (tree : FileTree) (x : Session Watched α) (Q : α → Prop) : Prop :=
  ∃ r lines, Runs tree x.run r [] lines tree ∧ ∀ a, r = .ok a ↔ Q a

theorem Decides.cases (h : Decides tree x Q) :
    (∃ a lines, Q a ∧ Runs tree x.run (.ok a) [] lines tree) ∨
      (∀ a, ¬ Q a) ∧ ∃ e lines, Runs tree x.run (.error e) [] lines tree := by
  obtain ⟨r, lines, hx, hr⟩ := h
  cases r with
  | ok a => exact .inl ⟨a, lines, (hr a).mp rfl, hx⟩
  | error e => exact .inr ⟨fun a ha => (nomatch (hr a).mpr ha), e, lines, hx⟩

theorem Decides.congr (h : Decides tree x P) (hPQ : ∀ a, P a ↔ Q a) : Decides tree x Q := by
  obtain ⟨r, lines, hx, hr⟩ := h
  exact ⟨r, lines, hx, fun a => (hr a).trans (hPQ a)⟩

theorem decides_pure (tree : FileTree) (a : α) : Decides tree (pure a) (· = a) :=
  ⟨.ok a, [], runs_pure tree _, fun _ => ⟨fun h => (Except.ok.inj h).symm, fun h => h ▸ rfl⟩⟩

theorem decides_throw (tree : FileTree) (e : Failure) :
    Decides tree (throw e : Session Watched α) fun _ => False :=
  ⟨.error e, [], runs_pure tree _, fun _ => ⟨fun h => (nomatch h), False.elim⟩⟩

/-- One session after another comes out with what the second one does with a value
of the first. -/
theorem Decides.bind (hx : Decides tree x P) (hf : ∀ a, P a → Decides tree (f a) (R a)) :
    Decides tree (x >>= f) fun b => ∃ a, P a ∧ R a b := by
  obtain ⟨r, lines, hx, hr⟩ := hx
  cases r with
  | error e =>
      refine ⟨_, _, runs_bind_error hx, fun b => ⟨fun h => (nomatch h), fun ⟨a, ha, _⟩ => ?_⟩⟩
      cases (hr a).mpr ha
  | ok a =>
      obtain ⟨r', lines', hf, hr'⟩ := hf a ((hr a).mp rfl)
      refine ⟨r', _, runs_bind_ok hx hf, fun b => (hr' b).trans ⟨fun h => ?_, fun h => ?_⟩⟩
      · exact ⟨a, (hr a).mp rfl, h⟩
      · obtain ⟨a', ha', h⟩ := h
        obtain rfl := Except.ok.inj ((hr a').mpr ha')
        exact h

theorem decides_print {y : Session Watched α} {lines : List String} (h : Decides tree y Q) :
    Decides tree (Session.print watchedWorld lines >>= fun _ => y) Q := by
  obtain ⟨r, lines', hy, hr⟩ := h
  exact ⟨r, _, runs_bind_ok (runs_lines tree lines) hy, hr⟩

theorem decides_during {y : Watched (Except Error α)} {r : Except Error α} (task : Task)
    (hy : Runs tree y r [] [] tree) :
    Decides tree (Session.during task y) fun a => r = .ok a := by
  cases r with
  | ok a => exact ⟨_, _, runs_during_ok task hy, fun b => by simp⟩
  | error fault => exact ⟨_, _, runs_during_error task hy, fun b => by simp⟩

theorem decides_check (tree : FileTree) (task : Task) (r : Except Error α) :
    Decides tree (Session.check task r) fun a => r = .ok a :=
  decides_during task (runs_pure tree r)

/-- Warnings are given and leave nothing behind. -/
theorem decides_warned (tree : FileTree) (task : Task) (t : Trace Warning α) :
    Decides tree (Session.warned watchedWorld task t) fun a => t.result = .ok a := by
  have hwarn : ∀ warnings : List Warning,
      Runs tree (watchedWorld.place.perform (warnings.map .warning)) (.ok ()) [] [] tree := by
    intro warnings
    induction warnings with
    | nil => exact runs_pure tree _
    | cons w rest ih => exact (runs_warn tree w).bind ih
  exact decides_during task ((hwarn t.events).bind (runs_pure tree t.result))

theorem decides_readDocument (tree : FileTree) (task : Task) (document : Document) (path : String)
    (parse : String → Except Error α) :
    Decides tree (Session.during task
      (Sources.readDocument watchedWorld.read document path parse))
      (Parsed tree.read path parse) := by
  refine (decides_during task
    (r := (tree.read path).elim (.error (.unreadable document path)) parse)
    ((runs_read tree path).bind ?_)).congr fun a => ?_
  · cases tree.read path with
    | none => exact runs_pure tree _
    | some text => exact runs_pure tree _
  · unfold Parsed
    cases tree.read path with
    | none => simp
    | some text => simp

theorem decides_optionally {path : Option String} {src : Sources} (task : String → Task)
    (document : Document) (add : Sources → String → Except Error Sources) :
    Decides tree (Session.optionally path src fun src path => Session.during (task path)
      (Sources.readDocument watchedWorld.read document path (add src)))
      (Added tree.read add path src) := by
  cases path with
  | none => exact decides_pure tree src
  | some path => exact decides_readDocument tree (task path) document path (add src)

end Decides

end CommandLine

end Clientwright
