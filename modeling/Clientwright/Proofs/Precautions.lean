import Clientwright.Proofs.Sessions

/-!
# Nothing is written too early

Whatever is wrong with the inputs of a command is found while there is not a
single new file, and for a manifest this goes for all of its services: the last
of them is read before the first is generated. `Cautious` is the statement, for
every command and every tree.

Each command that generates is cut in two. The first part reads and checks and
ends with a `Job`, and it comes to that end exactly if the inputs are good. The
job is one trace that is carried out at once. A dry run and a real one have the
same job, which is why the one can list what the other writes.
-/

namespace Clientwright

open Outcome

namespace CommandLine

/-! ## Loading -/

section Loading

variable {m : Type → Type} [Monad m]

/-- Reads the files of a service. -/
def loadFiles (h : Host m) (first last : Task) (f : ServiceFiles) : Session m Service := do
  let src ← Session.during first (Sources.ofFile h.read f.definition)
  let src ← Session.optionally f.paginators (f.named src) fun src path =>
    Session.during (.loadPaginators path) (src.withPaginatorsFile h.read path)
  let src ← Session.optionally f.waiters src fun src path =>
    Session.during (.loadWaiters path) (src.withWaitersFile h.read path)
  Session.warned h last src.toService

theorem loadService_eq (h : Host m) (f : ServiceFiles) : loadService h f = (do
    Session.print h ["→ Parsing service definition: " ++ f.definition]
    loadFiles h (.loadDefinition f.definition) .parseDefinition f) := rfl

theorem loadManifest_eq (h : Host m) (path : String) : loadManifest h path =
    Sources.readDocument h.read .manifest path fun text =>
      (Manifest.ofText text).map ({ · with directory := Files.parent path }) := rfl

theorem loadListed_eq (h : Host m) (manifest : Manifest) (name : String) (e : ManifestEntry) :
    loadListed h manifest name e =
      loadFiles h (.loadListed (manifest.resolve e.definition)) (.parseListed name)
        (filesOf manifest name e) := rfl

variable (tree : FileTree)

theorem decides_loadFiles (first last : Task) (f : ServiceFiles) :
    Decides tree (loadFiles watchedWorld first last f) (f.Describe tree.read) := by
  refine (decides_readDocument tree first .definition _ _).bind fun src _ => ?_
  refine (decides_optionally .loadPaginators .paginators _).bind fun paged _ => ?_
  refine (decides_optionally .loadWaiters .waiters _).bind fun whole _ => ?_
  exact decides_warned tree last whole.toService

theorem decides_loadService (f : ServiceFiles) :
    Decides tree (loadService watchedWorld f) (f.Describe tree.read) := by
  rw [loadService_eq]
  exact decides_print (decides_loadFiles ..)

/-- The services that a manifest lists are those that their files describe, each
with the options of its entry. -/
theorem decides_loadAll (manifest : Manifest) (total done : Nat)
    (selected : List (String × ManifestEntry)) :
    Decides tree (loadAll watchedWorld manifest total done selected)
      (selected.Forall₂ (Listed tree.read manifest)) := by
  induction selected generalizing done with
  | nil => exact (decides_pure tree []).congr fun l => List.forall₂_nil_left_iff.symm
  | cons p rest ih =>
      obtain ⟨name, e⟩ := p
      have hlisted : Decides tree (loadListed watchedWorld manifest name e)
          ((filesOf manifest name e).Describe tree.read) := by
        rw [loadListed_eq]
        exact decides_loadFiles ..
      refine (decides_print (hlisted.bind fun s _ => (ih (done + 1)).bind fun others _ =>
        decides_pure tree _)).congr fun l => ?_
      rw [List.forall₂_cons_left_iff]
      constructor
      · rintro ⟨s, hs, others, hothers, rfl⟩
        exact ⟨_, others, ⟨hs, rfl⟩, hothers, rfl⟩
      · rintro ⟨⟨s, o⟩, others, ⟨hs, rfl⟩, hothers, rfl⟩
        exact ⟨s, hs, others, hothers, rfl⟩

end Loading

/-! ## Preparing -/

/-- What is left to do once everything is read and checked. -/
structure Job where
  task : Task
  trace : Trace Event Unit
  output : String
  /-- what is said at the end, unless nothing was written -/
  hints : List String

namespace Job

variable {m : Type → Type} [Monad m]

/-- A crate is to be generated. -/
def ofCrate (g : Generator) (output : String) : Job where
  task := .generateCrate
  trace := g.generate output
  output
  hints := [
    "",
    "Next steps:",
    "  1. Review generated files in " ++ output,
    "  2. Build the crate: cd " ++ output ++ " && cargo build"]

/-- A workspace is to be generated. -/
def ofWorkspace (w : Workspace) (output : String) : Job where
  task := .generateWorkspace
  trace := w.generate output
  output
  hints := []

/-- Does the job. -/
def carryOut (h : Host m) (j : Job) (dryRun : Bool) : Session m Unit := do
  produce h j.task j.trace j.output dryRun
  if !dryRun then
    Session.print h j.hints

end Job

section Preparing

variable {m : Type → Type} [Monad m]

/-- Everything that comes before a crate is generated. -/
def prepareCrate (h : Host m) (f : ServiceFiles) (o : Options) (output : String) :
    Session m Job := do
  let s ← loadService h f
  Session.print h ["✓ Parsed " ++ toString s.operations.size ++ " operations and " ++
    toString s.shapes.size ++ " shapes from " ++ s.name]
  let g ← Session.check .createGenerator ((Generator.of s o).mapError .selection)
  Session.print h ["→ Generating crate " ++ g.crateName ++ "..."]
  return .ofCrate g output

/-- Everything that comes before the services of a manifest are generated into a
directory. -/
def prepareSelected (h : Host m) (manifest : Manifest) (filter : Option (List String))
    (output : String) : Session m Job := do
  let selected := manifest.selected filter
  if selected.isEmpty then throw .nothingSelected
  Session.print h ["→ Generating " ++ toString selected.length ++ " of " ++
    toString manifest.services.size ++ " services"]
  let services ← loadAll h manifest selected.length 0 selected
  let w ← Session.check .createGenerator ((Workspace.of services).mapError .selection)
  Session.print h ["", "→ Generating workspace files..."]
  return .ofWorkspace w output

/-- Everything that comes before a workspace is generated. -/
def prepareWorkspace (h : Host m) (path : String) (filter : Option (List String))
    (output : Option String) : Session m Job := do
  Session.print h ["→ Loading manifest: " ++ path]
  let manifest ← Session.during (.loadManifest path) (loadManifest h path)
  match output.or (manifest.output.map manifest.resolve) with
  | some output => prepareSelected h manifest filter output
  | none => throw .noOutput

variable [LawfulMonad m]

theorem generate_eq (h : Host m) (f : ServiceFiles) (o : Options) (output : String)
    (dryRun : Bool) : generate h f o output dryRun =
      prepareCrate h f o output >>= fun j => j.carryOut h dryRun := by
  simp only [generate, prepareCrate, Job.carryOut, Job.ofCrate, bind_assoc, pure_bind]

theorem throw_bind {α β : Type} (e : Failure) (f : α → Session m β) :
    (throw e >>= f : Session m β) = throw e := by
  refine ExceptT.ext ?_
  rw [ExceptT.run_bind, ExceptT.run_throw, pure_bind, ExceptT.run_throw]

theorem carryOut_ofWorkspace (h : Host m) (w : Workspace) (output : String) (dryRun : Bool) :
    (Job.ofWorkspace w output).carryOut h dryRun =
      produce h .generateWorkspace (w.generate output) output dryRun := by
  cases dryRun with
  | true => exact bind_pure_unit
  | false => exact bind_pure_unit

theorem generateAll_eq (h : Host m) (path : String) (filter : Option (List String))
    (output : Option String) (dryRun : Bool) : generateAll h path filter output dryRun =
      prepareWorkspace h path filter output >>= fun j => j.carryOut h dryRun := by
  unfold generateAll prepareWorkspace
  simp only [bind_assoc]
  congr 1
  funext _
  congr 1
  funext manifest
  cases output.or (manifest.output.map manifest.resolve) with
  | none => rw [throw_bind]
  | some output =>
      dsimp only
      rw [prepareSelected]
      dsimp only
      split
      next => rw [throw_bind, throw_bind, throw_bind]
      next => simp only [bind_assoc, pure_bind, carryOut_ofWorkspace]

end Preparing

section Prepared

variable (tree : FileTree)

theorem decides_prepareCrate (f : ServiceFiles) (o : Options) (output : String) :
    Decides tree (prepareCrate watchedWorld f o output) fun j =>
      ∃ s, f.Describe tree.read s ∧ ∃ g, Generator.of s o = .ok g ∧ j = .ofCrate g output := by
  refine (decides_loadService tree f).bind fun s _ => ?_
  refine decides_print (.bind ((decides_check tree _ _).congr fun g => mapError_eq_ok)
    fun g _ => ?_)
  exact decides_print (decides_pure tree _)

theorem decides_loadManifest (path : String) :
    Decides tree (Session.during (.loadManifest path) (loadManifest watchedWorld path))
      (Lists tree.read path) := by
  rw [loadManifest_eq]
  refine (decides_readDocument tree (.loadManifest path) .manifest path _).congr fun m => ?_
  unfold Lists Parsed
  constructor
  · rintro ⟨text, htext, hm⟩
    obtain ⟨listed, hlisted, rfl⟩ := map_eq_ok.mp hm
    exact ⟨listed, ⟨text, htext, hlisted⟩, rfl⟩
  · rintro ⟨listed, ⟨text, htext, hlisted⟩, rfl⟩
    exact ⟨text, htext, map_eq_ok.mpr ⟨listed, hlisted, rfl⟩⟩

theorem decides_prepareSelected (m : Manifest) (filter : Option (List String)) (output : String) :
    Decides tree (prepareSelected watchedWorld m filter output) fun j =>
      m.selected filter ≠ [] ∧ ∃ services,
        (m.selected filter).Forall₂ (Listed tree.read m) services ∧
        ∃ w, Workspace.of services = .ok w ∧ j = .ofWorkspace w output := by
  rw [prepareSelected]
  dsimp only
  split
  next hempty =>
    rw [throw_bind]
    refine (decides_throw tree _).congr fun j => ?_
    simp [List.isEmpty_iff.mp hempty]
  next hsome =>
    have hne : m.selected filter ≠ [] := fun h => hsome (List.isEmpty_iff.mpr h)
    refine (decides_print (.bind (decides_loadAll tree m _ 0 _) fun services _ =>
      .bind ((decides_check tree _ _).congr fun w => mapError_eq_ok) fun w _ =>
        decides_print (decides_pure tree _))).congr fun j => ?_
    exact (and_iff_right hne).symm

theorem decides_prepareWorkspace (path : String) (filter : Option (List String))
    (output : Option String) :
    Decides tree (prepareWorkspace watchedWorld path filter output) fun j =>
      ∃ m, Lists tree.read path m ∧ ∃ out, output.or (m.output.map m.resolve) = some out ∧
        m.selected filter ≠ [] ∧ ∃ services,
          (m.selected filter).Forall₂ (Listed tree.read m) services ∧
          ∃ w, Workspace.of services = .ok w ∧ j = .ofWorkspace w out := by
  refine decides_print ((decides_loadManifest tree path).bind fun m _ => ?_)
  cases output.or (m.output.map m.resolve) with
  | none => exact (decides_throw tree _).congr fun j => by simp
  | some out => exact (decides_prepareSelected tree m filter out).congr fun j => by simp

/-- The session that a command begins with, if it generates something. -/
def Command.prepare? (h : Host Watched) : Command → Option (Session Watched Job)
  | .parse _ => none
  | .generate f o output _ => some (prepareCrate h f o output)
  | .generateAll path filter output _ => some (prepareWorkspace h path filter output)

/-- The beginning of a command comes to its end exactly if the inputs are good. -/
theorem decides_prepare {c : Command} {x : Session Watched Job}
    (h : c.prepare? watchedWorld = some x) : ∃ Q, Decides tree x Q ∧
      ((∃ j, Q j) ↔ c.Good tree.read) ∧
      ∀ j, Q j → j.task = .generateCrate ∨ j.task = .generateWorkspace := by
  cases c with
  | parse f => cases h
  | generate f o output dryRun =>
      obtain rfl := Option.some.inj h
      refine ⟨_, decides_prepareCrate tree f o output, ?_, ?_⟩
      · constructor
        · rintro ⟨_, s, hs, g, hg, -⟩
          exact ⟨s, hs, Generator.exists_of_iff.mp ⟨g, hg⟩⟩
        · rintro ⟨s, hs, hknown⟩
          obtain ⟨g, hg⟩ := Generator.exists_of_iff.mpr hknown
          exact ⟨_, s, hs, g, hg, rfl⟩
      · rintro _ ⟨s, -, g, -, rfl⟩
        exact .inl rfl
  | generateAll path filter output dryRun =>
      obtain rfl := Option.some.inj h
      refine ⟨_, decides_prepareWorkspace tree path filter output, ?_, ?_⟩
      · have hout : ∀ m : Manifest, (∃ out, output.or (m.output.map m.resolve) = some out) ↔
            output.isSome ∨ m.output.isSome := by
          intro m
          cases output <;> cases m.output <;> simp
        constructor
        · rintro ⟨_, m, hm, out, houtput, hne, services, hservices, w, hw, -⟩
          exact ⟨m, hm, (hout m).mp ⟨out, houtput⟩, hne,
            exists_workspace_of_listed_iff.mp ⟨services, hservices, w, hw⟩⟩
        · rintro ⟨m, hm, houtput, hne, hgood⟩
          obtain ⟨out, houtput⟩ := (hout m).mpr houtput
          obtain ⟨services, hservices, w, hw⟩ := exists_workspace_of_listed_iff.mpr hgood
          exact ⟨_, m, hm, out, houtput, hne, services, hservices, w, hw, rfl⟩
      · rintro _ ⟨m, -, out, -, -, services, -, w, -, rfl⟩
        exact .inr rfl

end Prepared

/-! ## Generating -/

section Generating

variable (tree : FileTree)

/-- What a place is asked for are actions of the trace, up to the first that it
refuses. -/
theorem runs_perform (l : List Event) : ∃ r calls tree',
    Runs tree (watchedWorld.place.perform l) r calls [] tree' ∧ calls <+: Event.actions l ∧
      (r = .ok () → calls = Event.actions l) := by
  induction l generalizing tree with
  | nil => exact ⟨_, [], tree, runs_pure tree _, List.prefix_rfl, fun _ => rfl⟩
  | cons e rest ih =>
      cases e with
      | warning w =>
          obtain ⟨r, calls, tree', hrest, h⟩ := ih tree
          exact ⟨r, calls, tree', (runs_warn tree w).bind hrest, h⟩
      | action a =>
          obtain ⟨r, tree', hact⟩ := runs_act tree a
          rw [Event.actions_action]
          cases r with
          | ok =>
              obtain ⟨r, calls, tree'', hrest, hstart, hall⟩ := ih tree'
              refine ⟨r, a :: calls, tree'', hact.bind hrest,
                (List.prefix_cons_inj a).mpr hstart, fun hr => ?_⟩
              rw [hall hr]
          | error fault =>
              refine ⟨.error fault, [a], tree', hact.bind (runs_pure tree' _),
                List.prefix_cons_inj a |>.mpr (List.nil_prefix), nofun⟩

/-- A dry run calls nothing. -/
theorem runs_perform_dryRun (l : List Event) (sizes : List (String × Nat)) :
    Runs tree ((watchedWorld.place.dryRun.perform l).run sizes)
      (.ok (), sizes ++ (Event.actions l).filterMap Action.size?) [] [] tree := by
  induction l generalizing sizes with
  | nil =>
      rw [Event.actions_nil, List.filterMap_nil, List.append_nil]
      exact runs_pure tree _
  | cons e rest ih =>
      cases e with
      | warning w =>
          have hwarn : Runs tree ((watchedWorld.place.dryRun.warn w).run sizes) ((), sizes)
              ([] ++ []) ([] ++ []) tree :=
            (runs_warn tree w).bind (runs_pure tree _)
          rw [Place.perform, StateT.run_bind, Event.actions_warning]
          exact hwarn.bind (ih sizes)
      | action a =>
          have hact : Runs tree ((watchedWorld.place.dryRun.act a).run sizes)
              (.ok (), sizes ++ a.size?.toList) [] [] tree := runs_pure tree _
          rw [Place.perform, StateT.run_bind, Event.actions_action, filterMap_size?_cons,
            ← List.append_assoc]
          exact hact.bind (ih _)

/-- What it comes out with are the sizes of the files that the trace makes. -/
theorem runs_rehearse (t : Trace Event Unit) :
    Runs tree (watchedWorld.place.rehearse t)
      (t.result.map fun _ => t.actions.filterMap Action.size?) [] [] tree := by
  have hrun : Runs tree ((watchedWorld.place.dryRun.run t).run [])
      (t.result, t.actions.filterMap Action.size?) ([] ++ []) ([] ++ []) tree := by
    rw [Place.run, StateT.run_bind]
    exact (runs_perform_dryRun tree t.events []).bind (runs_pure tree _)
  exact hrun.bind (runs_pure tree _)

theorem runs_run_ok {p : Place Watched} {t : Trace Event Unit} {calls : List Action}
    {tree' : FileTree} (h : Runs tree (p.perform t.events) (.ok ()) calls [] tree') :
    Runs tree (p.run t) t.result calls [] tree' := by
  have hrun : Runs tree (p.run t) t.result (calls ++ []) [] tree' :=
    h.bind (runs_pure tree' t.result)
  rwa [List.append_nil] at hrun

theorem runs_run_error {p : Place Watched} {t : Trace Event Unit} {calls : List Action}
    {fault : WriteFault} {tree' : FileTree}
    (h : Runs tree (p.perform t.events) (.error fault) calls [] tree') :
    Runs tree (p.run t) (.error (.write fault)) calls [] tree' := by
  have hrun : Runs tree (p.run t) (.error (.write fault)) (calls ++ []) [] tree' :=
    h.bind (runs_pure tree' (Except.error (Error.write fault)))
  rwa [List.append_nil] at hrun

/-- The lines at the end of a run. -/
def doneLines (t : Trace Event Unit) (output : String) : List String := [
  "",
  "✓ Generation complete!",
  "  " ++ toString t.files.length ++ " files in " ++ output]

theorem carryOut_dry (h : Host Watched) (j : Job) : j.carryOut h true = (do
    let sizes ← Session.during j.task (h.place.rehearse j.trace)
    Session.print h (dryRunLines sizes)
    Session.print h (doneLines j.trace j.output)) := by
  simp [Job.carryOut, produce, doneLines]

theorem carryOut_real (h : Host Watched) (j : Job) : j.carryOut h false = (do
    Session.during j.task (h.place.run j.trace)
    Session.print h (doneLines j.trace j.output)
    Session.print h j.hints) := by
  simp [Job.carryOut, produce, doneLines]

/-- A dry run tells which files there would be, if they can all be made. -/
theorem runs_carryOut_dry (j : Job) :
    (j.trace.result = .ok () ∧ Runs tree (j.carryOut watchedWorld true).run (.ok ()) []
      (dryRunLines (j.trace.actions.filterMap Action.size?) ++ doneLines j.trace j.output)
        tree) ∨
    ∃ e, j.trace.result = .error e ∧
      Runs tree (j.carryOut watchedWorld true).run (.error (.during j.task e)) [] [] tree := by
  have htrace := runs_rehearse tree j.trace
  rw [carryOut_dry]
  cases hresult : j.trace.result with
  | ok =>
      rw [hresult] at htrace
      exact .inl ⟨rfl, runs_bind_ok (runs_during_ok j.task htrace)
        (runs_then (runs_lines tree _) (runs_lines tree _))⟩
  | error e =>
      rw [hresult] at htrace
      exact .inr ⟨e, rfl, runs_bind_error (runs_during_error j.task htrace)⟩

/-- A run that writes asks the place for what the trace says, and comes to its end
if all of that can be done. -/
theorem runs_carryOut_real (j : Job) : ∃ r calls lines tree',
    Runs tree (j.carryOut watchedWorld false).run r calls lines tree' ∧
    calls <+: j.trace.actions ∧ (r = .ok () → calls = j.trace.actions) ∧
    ∀ f, r = .error f → ∃ e, f = .during j.task e ∧
      ((∃ fault, e = .write fault) ∨ j.trace.result = .error e) := by
  rw [carryOut_real]
  obtain ⟨r, calls, tree', hperform, hstart, hall⟩ := runs_perform tree j.trace.events
  cases r with
  | error fault =>
      refine ⟨_, calls, [], tree',
        runs_bind_error (runs_during_error j.task (runs_run_error tree hperform)), hstart,
        nofun, ?_⟩
      rintro _ ⟨⟩
      exact ⟨_, rfl, .inl ⟨fault, rfl⟩⟩
  | ok =>
      have htrace := runs_run_ok tree hperform
      cases hresult : j.trace.result with
      | error e =>
          rw [hresult] at htrace
          refine ⟨_, calls, [], tree', runs_bind_error (runs_during_error j.task htrace),
            hstart, nofun, ?_⟩
          rintro _ ⟨⟩
          exact ⟨e, rfl, .inr rfl⟩
      | ok =>
          rw [hresult] at htrace
          have h := runs_then (runs_during_ok j.task htrace)
            (runs_then (runs_lines tree' (doneLines j.trace j.output))
              (runs_lines tree' j.hints))
          rw [List.append_nil, List.append_nil] at h
          refine ⟨_, calls, _, tree', h, hstart, fun _ => hall rfl, fun f hf => ?_⟩
          cases hf

end Generating

/-! ## Commands -/

/-- What is seen of a command: how it ended, which calls it made, and the world it
left behind. -/
structure Observation where
  outcome : Outcome
  calls : List Action
  world : World

/-- How the program ends after a command. -/
def outcomeOf : Except Failure Unit → Outcome
  | .ok () => .done
  | .error f => .failed f

/-- What is seen of a command that is run on a tree. -/
def observe (tree : FileTree) (i : Invocation) : Observation :=
  let ((r, calls), world) := ((run watchedWorld i).run []).run (World.start tree)
  ⟨outcomeOf r, calls, world⟩

namespace Command

/-- Is the command only to tell what it would do? -/
def isDry : Command → Bool
  | parse _ => false
  | generate _ _ _ dryRun => dryRun
  | generateAll _ _ _ dryRun => dryRun

/-- Does the command write anything? -/
def writes : Command → Bool
  | parse _ => false
  | generate _ _ _ dryRun => !dryRun
  | generateAll _ _ _ dryRun => !dryRun

/-- The command when it is not only to tell. -/
def real : Command → Command
  | parse files => parse files
  | generate files options output _ => generate files options output false
  | generateAll manifest filter output _ => generateAll manifest filter output false

end Command

/-- The invocation of the command when it is not only to tell. -/
def Invocation.real (i : Invocation) : Invocation := { i with command := i.command.real }

/-- A command finds everything that is wrong with its inputs before it writes. -/
structure Cautious (tree : FileTree) (i : Invocation) : Prop where
  /-- What is seen is what the program does when arguments ask for the command. -/
  started : ∀ arguments, invocation arguments = .ok i →
    ((start watchedWorld arguments).run []).run (World.start tree) =
      (((observe tree i).outcome, (observe tree i).calls), (observe tree i).world)
  /-- With bad inputs it fails, and there is nothing new. -/
  refused : ¬ i.command.Good tree.read → (∃ f, (observe tree i).outcome = .failed f) ∧
    (observe tree i).outcome.code = 1 ∧ (observe tree i).calls = [] ∧
    (observe tree i).world.tree = tree
  /-- With good ones it can fail while it generates, and not before. -/
  accepted : i.command.Good tree.read → (observe tree i).outcome = .done ∨
    ∃ task e, task ∈ [.generateCrate, .generateWorkspace] ∧
      (observe tree i).outcome = .failed (.during task e)
  /-- If it is not to write, there is nothing new in any case. -/
  idle : i.command.writes = false →
    (observe tree i).calls = [] ∧ (observe tree i).world.tree = tree
  /-- And a dry run lists, in order, the files that a real one writes: all of them, unless
  writing fails half-way. -/
  listed : i.command.isDry = true → (observe tree i).outcome = .done →
    ∃ before files bytes after,
      (observe tree i).world.printed = before ++ ["", "Dry run, nothing was written:"] ++
        files.map ("  📄 " ++ ·) ++ ("  " ++ toString (bytes : Nat) ++ " bytes total") :: after ∧
      (observe tree i.real).calls.filterMap Action.file? <+: files ∧
      ((observe tree i.real).outcome = .done →
        (observe tree i.real).calls.filterMap Action.file? = files) ∧
      ∀ f, (observe tree i.real).outcome = .failed f →
        ∃ task fault, f = .during task (.write fault)

theorem Command.prepare?_real (c : Command) (h : Host Watched) :
    c.real.prepare? h = c.prepare? h := by
  cases c <;> rfl

theorem Command.isDry_real (c : Command) : c.real.isDry = false := by
  cases c <;> rfl

theorem Command.exists_prepare_of_isDry {c : Command} (h : c.isDry = true) :
    ∃ x, c.prepare? watchedWorld = some x := by
  cases c with
  | parse f => cases h
  | generate f o output dryRun => exact ⟨_, rfl⟩
  | generateAll path filter output dryRun => exact ⟨_, rfl⟩

theorem Command.isDry_of_not_writes {c : Command} {x : Session Watched Job}
    (hx : c.prepare? watchedWorld = some x) (h : c.writes = false) : c.isDry = true := by
  cases c with
  | parse f => cases hx
  | generate f o output dryRun => exact Bool.not_eq_eq_eq_not.mp h
  | generateAll path filter output dryRun => exact Bool.not_eq_eq_eq_not.mp h

section Observing

variable {tree tree' : FileTree} {i : Invocation} {r : Except Failure Unit} {calls : List Action}
  {lines lines' : List String} {x : Session Watched Job} {j : Job}

theorem observe_of_runs (h : Runs tree (run watchedWorld i) r calls lines tree') :
    (observe tree i).outcome = outcomeOf r ∧ (observe tree i).calls = calls ∧
      (observe tree i).world.tree = tree' ∧ (observe tree i).world.printed = lines := by
  obtain ⟨warnings, h⟩ := h
  have hrun : ((run watchedWorld i).run []).run (World.start tree) =
      ((r, calls), ⟨tree', lines, warnings⟩) := h [] [] []
  unfold observe
  rw [hrun]
  exact ⟨rfl, rfl, rfl, rfl⟩

theorem run_of_prepare (hx : i.command.prepare? watchedWorld = some x) :
    run watchedWorld i = (x >>= fun j => j.carryOut watchedWorld i.command.isDry).run := by
  obtain ⟨c, verbose⟩ := i
  cases c with
  | parse f => cases hx
  | generate f o output dryRun =>
      obtain rfl := Option.some.inj hx
      show (generate watchedWorld f o output dryRun).run = _
      rw [generate_eq]
      rfl
  | generateAll path filter output dryRun =>
      obtain rfl := Option.some.inj hx
      show (generateAll watchedWorld path filter output dryRun).run = _
      rw [generateAll_eq]
      rfl

/-- With good inputs there is a job, and nothing has happened yet. -/
theorem exists_job (hx : i.command.prepare? watchedWorld = some x)
    (h : i.command.Good tree.read) : ∃ j lines, Runs tree x.run (.ok j) [] lines tree ∧
      (j.task = .generateCrate ∨ j.task = .generateWorkspace) := by
  obtain ⟨Q, hQ, hgood, htask⟩ := decides_prepare tree hx
  rcases hQ.cases with ⟨j, lines, hj, hrun⟩ | ⟨hnone, -⟩
  · exact ⟨j, lines, hrun, htask j hj⟩
  · obtain ⟨j, hj⟩ := hgood.mpr h
    exact absurd hj (hnone j)

/-- The rest of the command is the job. -/
theorem runs_of_job (hx : i.command.prepare? watchedWorld = some x)
    (hj : Runs tree x.run (.ok j) [] lines tree)
    (hrun : Runs tree (j.carryOut watchedWorld i.command.isDry).run r calls lines' tree') :
    Runs tree (run watchedWorld i) r calls (lines ++ lines') tree' := by
  rw [run_of_prepare hx]
  exact runs_bind_ok hj hrun

/-- Showing a service calls nothing. -/
theorem decides_parse (tree : FileTree) (f : ServiceFiles) (verbose : Bool) :
    Decides tree (parse watchedWorld f verbose) fun _ => ∃ s, f.Describe tree.read s := by
  have hshow : ∀ lines : List String,
      Decides tree (Session.print watchedWorld lines) fun _ => True :=
    fun lines => ⟨_, lines, runs_lines tree lines, fun a => by simp⟩
  refine ((decides_loadService tree f).bind fun s _ => hshow _).congr fun a => ?_
  simp only [and_true]

/-- With bad inputs a command ends before there is a job. -/
theorem runs_of_not_good (h : ¬ i.command.Good tree.read) : ∃ e lines,
    Runs tree (run watchedWorld i) (.error e) [] lines tree := by
  cases hx : i.command.prepare? watchedWorld with
  | some x =>
      obtain ⟨Q, hQ, hgood, -⟩ := decides_prepare tree hx
      rcases hQ.cases with ⟨j, lines, hj, -⟩ | ⟨-, e, lines, hrun⟩
      · exact absurd (hgood.mp ⟨j, hj⟩) h
      · rw [run_of_prepare hx]
        exact ⟨e, lines, runs_bind_error hrun⟩
  | none =>
      obtain ⟨c, verbose⟩ := i
      cases c with
      | parse f =>
          rcases (decides_parse tree f verbose).cases with ⟨_, _, hs, -⟩ | ⟨-, e, lines, hrun⟩
          · exact absurd hs h
          · exact ⟨e, lines, hrun⟩
      | generate f o output dryRun => cases hx
      | generateAll path filter output dryRun => cases hx

/-- With good inputs a command that makes no job comes to its end. -/
theorem runs_of_no_job (hx : i.command.prepare? watchedWorld = none)
    (h : i.command.Good tree.read) : ∃ lines,
      Runs tree (run watchedWorld i) (.ok ()) [] lines tree := by
  obtain ⟨c, verbose⟩ := i
  cases c with
  | parse f =>
      rcases (decides_parse tree f verbose).cases with ⟨_, lines, -, hrun⟩ | ⟨hnone, -⟩
      · exact ⟨lines, hrun⟩
      · exact absurd h (hnone ())
  | generate f o output dryRun => cases hx
  | generateAll path filter output dryRun => cases hx

end Observing

section Cautious

variable {tree : FileTree} {i : Invocation} {x : Session Watched Job} {j : Job}
  {lines : List String}

/-- A job that is not done really calls nothing. -/
theorem observe_dry (hx : i.command.prepare? watchedWorld = some x)
    (hj : Runs tree x.run (.ok j) [] lines tree) (hdry : i.command.isDry = true) :
    (observe tree i).calls = [] ∧ (observe tree i).world.tree = tree ∧
      ((j.trace.result = .ok () ∧ (observe tree i).outcome = .done ∧
        (observe tree i).world.printed =
          lines ++ (dryRunLines (j.trace.actions.filterMap Action.size?) ++
            doneLines j.trace j.output)) ∨
      ∃ e, (observe tree i).outcome = .failed (.during j.task e)) := by
  rcases runs_carryOut_dry tree j with ⟨hresult, hrun⟩ | ⟨e, -, hrun⟩
  · rw [← hdry] at hrun
    obtain ⟨houtcome, hcalls, htree, hprinted⟩ := observe_of_runs (runs_of_job hx hj hrun)
    exact ⟨hcalls, htree, .inl ⟨hresult, houtcome, hprinted⟩⟩
  · rw [← hdry] at hrun
    obtain ⟨houtcome, hcalls, htree, -⟩ := observe_of_runs (runs_of_job hx hj hrun)
    exact ⟨hcalls, htree, .inr ⟨e, houtcome⟩⟩

/-- A job that is done calls what its trace says. -/
theorem observe_real (hx : i.command.prepare? watchedWorld = some x)
    (hj : Runs tree x.run (.ok j) [] lines tree) (hdry : i.command.isDry = false) :
    (observe tree i).calls <+: j.trace.actions ∧
      (((observe tree i).outcome = .done ∧ (observe tree i).calls = j.trace.actions) ∨
      ∃ e, (observe tree i).outcome = .failed (.during j.task e) ∧
        ((∃ fault, e = .write fault) ∨ j.trace.result = .error e)) := by
  obtain ⟨r, calls, lines', tree', hrun, hstart, hall, hfailed⟩ := runs_carryOut_real tree j
  rw [← hdry] at hrun
  obtain ⟨houtcome, hcalls, -, -⟩ := observe_of_runs (runs_of_job hx hj hrun)
  rw [hcalls, houtcome]
  refine ⟨hstart, ?_⟩
  cases r with
  | ok => exact .inl ⟨rfl, hall rfl⟩
  | error f =>
      obtain ⟨e, rfl, he⟩ := hfailed f rfl
      exact .inr ⟨e, rfl, he⟩

theorem refused (h : ¬ i.command.Good tree.read) : (∃ f, (observe tree i).outcome = .failed f) ∧
    (observe tree i).outcome.code = 1 ∧ (observe tree i).calls = [] ∧
    (observe tree i).world.tree = tree := by
  obtain ⟨e, lines, hrun⟩ := runs_of_not_good h
  obtain ⟨houtcome, hcalls, htree, -⟩ := observe_of_runs hrun
  rw [houtcome]
  exact ⟨⟨e, rfl⟩, rfl, hcalls, htree⟩

theorem accepted (h : i.command.Good tree.read) : (observe tree i).outcome = .done ∨
    ∃ task e, task ∈ [Task.generateCrate, .generateWorkspace] ∧
      (observe tree i).outcome = .failed (.during task e) := by
  cases hx : i.command.prepare? watchedWorld with
  | none =>
      obtain ⟨lines, hrun⟩ := runs_of_no_job hx h
      exact .inl (observe_of_runs hrun).1
  | some x =>
      obtain ⟨j, lines, hj, htask⟩ := exists_job hx h
      have hmem : j.task ∈ [Task.generateCrate, .generateWorkspace] := List.mem_pair.mpr htask
      cases hdry : i.command.isDry with
      | true =>
          obtain ⟨-, -, ⟨-, hdone, -⟩ | ⟨e, hfailed⟩⟩ := observe_dry hx hj hdry
          · exact .inl hdone
          · exact .inr ⟨j.task, e, hmem, hfailed⟩
      | false =>
          obtain ⟨-, ⟨hdone, -⟩ | ⟨e, hfailed, -⟩⟩ := observe_real hx hj hdry
          · exact .inl hdone
          · exact .inr ⟨j.task, e, hmem, hfailed⟩

theorem idle (hwrites : i.command.writes = false) :
    (observe tree i).calls = [] ∧ (observe tree i).world.tree = tree := by
  by_cases h : i.command.Good tree.read
  · cases hx : i.command.prepare? watchedWorld with
    | none =>
        obtain ⟨lines, hrun⟩ := runs_of_no_job hx h
        obtain ⟨-, hcalls, htree, -⟩ := observe_of_runs hrun
        exact ⟨hcalls, htree⟩
    | some x =>
        obtain ⟨j, lines, hj, -⟩ := exists_job hx h
        obtain ⟨hcalls, htree, -⟩ := observe_dry hx hj (Command.isDry_of_not_writes hx hwrites)
        exact ⟨hcalls, htree⟩
  · exact (refused h).2.2

/-- The lists of a dry run and of a real one are both those of the trace. -/
theorem listed (hdry : i.command.isDry = true) (hdone : (observe tree i).outcome = .done) :
    ∃ before files bytes after,
      (observe tree i).world.printed = before ++ ["", "Dry run, nothing was written:"] ++
        files.map ("  📄 " ++ ·) ++ ("  " ++ toString (bytes : Nat) ++ " bytes total") :: after ∧
      (observe tree i.real).calls.filterMap Action.file? <+: files ∧
      ((observe tree i.real).outcome = .done →
        (observe tree i.real).calls.filterMap Action.file? = files) ∧
      ∀ f, (observe tree i.real).outcome = .failed f →
        ∃ task fault, f = .during task (.write fault) := by
  obtain ⟨x, hx⟩ := Command.exists_prepare_of_isDry hdry
  have hgood : i.command.Good tree.read := by
    by_contra h
    obtain ⟨⟨f, hfailed⟩, -⟩ := refused h
    cases hdone.symm.trans hfailed
  obtain ⟨j, lines, hj, -⟩ := exists_job hx hgood
  obtain ⟨-, -, ⟨hresult, -, hprinted⟩ | ⟨e, hfailed⟩⟩ := observe_dry hx hj hdry
  · have hx' : i.real.command.prepare? watchedWorld = some x := by
      rw [Invocation.real, Command.prepare?_real, hx]
    obtain ⟨hstart, hreal⟩ := observe_real hx' hj (Command.isDry_real i.command)
    refine ⟨lines, j.trace.files, j.trace.totalBytes, doneLines j.trace j.output,
      ?_, ?_, ?_, ?_⟩
    · rw [hprinted, dryRunLines, sizes_paths, sizes_bytes, ← List.sum_eq_foldl, ← Trace.files_eq,
        ← Trace.totalBytes_eq]
      simp only [List.append_assoc, List.singleton_append]
    · rw [Trace.files_eq]
      exact hstart.filterMap Action.file?
    · intro hreal_done
      rcases hreal with ⟨-, hcalls⟩ | ⟨e, hfailed, -⟩
      · rw [hcalls, Trace.files_eq]
      · cases hreal_done.symm.trans hfailed
    · intro f hf
      rcases hreal with ⟨hreal_done, -⟩ | ⟨e, hfailed, ⟨fault, rfl⟩ | he⟩
      · cases hreal_done.symm.trans hf
      · obtain rfl := Outcome.failed.inj (hf.symm.trans hfailed)
        exact ⟨j.task, fault, rfl⟩
      · cases hresult.symm.trans he
  · cases hdone.symm.trans hfailed

/-- The program ends as the command does. -/
theorem started {arguments : List String} (h : invocation arguments = .ok i) :
    ((start watchedWorld arguments).run []).run (World.start tree) =
      (((observe tree i).outcome, (observe tree i).calls), (observe tree i).world) := by
  rw [start, h]
  dsimp only
  rw [StateT.run_bind, StateT.run_bind]
  unfold observe
  generalize ((run watchedWorld i).run []).run (World.start tree) = seen
  obtain ⟨⟨r, calls⟩, world⟩ := seen
  cases r with
  | ok => rfl
  | error f => rfl

end Cautious

/-- Every command is cautious, whatever files there are. -/
theorem cautious (tree : FileTree) (i : Invocation) : Cautious tree i where
  started _ h := started h
  refused h := refused h
  accepted h := accepted h
  idle h := idle h
  listed hdry hdone := listed hdry hdone

/-! ## An example

A pond whose definition says no more than it has to. -/

/-- A tree with the definition of the pond in one file. -/
def pond : FileTree where
  working := []
  directories := []
  files := [(["pond.json"],
    "\x7b\"metadata\":\x7b\"apiVersion\":\"1\",\"endpointPrefix\":\"pond\"," ++
    "\"protocol\":\"query\"\x7d\x7d")]

/-- The crate of the pond is to be generated. -/
def digging (dryRun : Bool) : Invocation where
  command := .generate ⟨"pond.json", none, none, none⟩ {} "out" dryRun
  verbose := false

example : (observe pond (digging true)).outcome = .done ∧
    (observe pond (digging true)).calls = [] ∧
    (observe pond (digging false)).outcome = .done ∧
    (observe pond (digging false)).calls.filterMap Action.file? =
      ["out/src/runtime.rs", "out/src/client.rs", "out/src/input/mod.rs",
        "out/src/output/mod.rs", "out/src/types/mod.rs", "out/src/lib.rs", "out/Cargo.toml",
        "out/README.md"] := by
  decide +kernel

end CommandLine

end Clientwright
