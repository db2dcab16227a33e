import Clientwright.Proofs.Faults
import Clientwright.Workspace.Basic

/-!
# Writing step by step

A trace is complete before anything of it is carried out. A generator that holds
the place in its hands is another program: it writes a file as soon as the code
is there, notes the path once the place has said yes, and leaves everything as it
is when the place says no. This file has that program, for crates and for
workspaces (`Generator.writeTo`, `Workspace.writeTo`).

The two are the same, and the reason is that carrying out is a homomorphism.
Whatever is put together with the binding of traces is carried out as the same
thing put together with the binding of the monad that writes (`carryOut_bind`),
so a generator that goes step by step is a trace that is carried out, stage after
stage. A crate in a workspace notes its files for itself and hands them on at its
end, which makes no difference, for what was noted before is only ever added to.
-/

namespace Clientwright

open Outcome

variable {m : Type → Type} [Monad m] {α β : Type}

/-- A computation that writes: it may stop with an error, and it notes the files
that are there. -/
abbrev Writing (m : Type → Type) := StateT (List String) (ExceptT Error m)

namespace Writing

/-- Calls the place; a file is noted once it has been written. -/
def act (p : Place m) (a : Action) : Writing m Unit := fun noted => ExceptT.mk do
  match ← p.act a with
  | .ok () => pure (.ok ((), noted ++ a.file?.toList))
  | .error fault => pure (.error (.write fault))

/-- Gives a warning. -/
def warn (p : Place m) (w : Warning) : Writing m Unit := fun noted => ExceptT.mk do
  p.warn w
  pure (.ok ((), noted))

/-- Goes on with a value or stops with an error. -/
def ofExcept (r : Except Error α) : Writing m α := fun noted =>
  ExceptT.mk (pure (r.map (·, noted)))

/-- The computation from the start: its files, unless it was stopped. -/
def files (x : Writing m Unit) : m (Except Error (List String)) := ExceptT.run do
  let (_, noted) ← x.run []
  return noted

/-- Notes the files of a computation that noted them for itself. -/
def including (x : m (Except Error (List String))) : Writing m Unit := fun noted => do
  let files ← ExceptT.mk x
  pure ((), noted ++ files)

/-- Carries out an event. -/
def step (p : Place m) : Event → Writing m Unit
  | .action a => act p a
  | .warning w => warn p w

/-- Carries out events in order. -/
def steps (p : Place m) : List Event → Writing m Unit
  | [] => pure ()
  | e :: rest => do
    step p e
    steps p rest

/-- Carries out a trace: its events, and then its own end. -/
def carryOut (p : Place m) (t : Trace Event α) : Writing m α := do
  steps p t.events
  ofExcept t.result

/-! ## Carrying out is a homomorphism -/

@[simp]
theorem ofExcept_ok (a : α) : (ofExcept (.ok a) : Writing m α) = pure a := rfl

section Laws

variable [LawfulMonad m] {p : Place m}

theorem ofExcept_error_bind (e : Error) (f : α → Writing m β) :
    (ofExcept (.error e) >>= f) = ofExcept (.error e) := by
  funext noted
  show ExceptT.mk (pure (Except.error e) >>= _) = ExceptT.mk (pure (Except.error e))
  rw [pure_bind]
  rfl

theorem steps_append (l l' : List Event) :
    steps p (l ++ l') = steps p l >>= fun _ => steps p l' := by
  induction l with
  | nil => rw [List.nil_append, steps, pure_bind]
  | cons e rest ih => rw [List.cons_append, steps, steps, ih, bind_assoc]

theorem carryOut_bind (x : Trace Event α) (f : α → Trace Event β) :
    carryOut p (x >>= f) = carryOut p x >>= fun a => carryOut p (f a) := by
  cases h : x.result with
  | ok a =>
      rw [Trace.bind_ok h, carryOut, carryOut, h, steps_append, bind_assoc, bind_assoc,
        ofExcept_ok, pure_bind, carryOut]
  | error e =>
      rw [Trace.bind_error h, carryOut, carryOut, h, bind_assoc, ofExcept_error_bind]

theorem carryOut_pure (a : α) : carryOut p (pure a) = pure a := by
  show (steps p [] >>= fun _ => ofExcept (.ok a)) = _
  rw [steps, pure_bind, ofExcept_ok]

theorem carryOut_ofExcept (r : Except Error α) : carryOut p (.ofExcept r) = ofExcept r := by
  show (steps p [] >>= fun _ => ofExcept r) = _
  rw [steps, pure_bind]

theorem carryOut_emit (e : Event) : carryOut p (.emit e) = step p e := by
  show (steps p [e] >>= fun _ => ofExcept (.ok ())) = _
  rw [steps, steps, bind_assoc, pure_bind, ofExcept_ok, bind_pure_unit]

theorem carryOut_forM (f : α → Trace Event Unit) (l : List α) :
    carryOut p (l.forM f) = l.forM fun a => carryOut p (f a) := by
  induction l with
  | nil => exact carryOut_pure ()
  | cons a l ih => 
      show carryOut p (f a >>= fun _ => l.forM f) = (carryOut p (f a) >>= fun _ => l.forM _)
      rw [carryOut_bind, ih]

/-! What was noted is only ever added to. -/

/-- The computation adds to what was noted before it and does not look at it. -/
def Adds (x : Writing m α) : Prop :=
  ∀ noted, x noted = (fun r => (r.1, noted ++ r.2)) <$> x []

theorem adds_pure (a : α) : Adds (pure a : Writing m α) := by
  intro noted
  show (pure (a, noted) : ExceptT Error m _) = _ <$> pure (a, [])
  rw [map_pure, List.append_nil]

theorem Adds.bind {x : Writing m α} {f : α → Writing m β} (hx : Adds x)
    (hf : ∀ a, Adds (f a)) : Adds (x >>= f) := by
  intro noted
  show (x noted >>= fun r => f r.1 r.2) = _ <$> (x [] >>= fun r => f r.1 r.2)
  rw [hx noted, bind_map_left, map_bind]
  refine bind_congr fun r => ?_
  rw [hf r.1 (noted ++ r.2), hf r.1 r.2, Functor.map_map]
  simp only [List.append_assoc]

theorem adds_ofExcept (r : Except Error α) : Adds (ofExcept r : Writing m α) := by
  intro noted
  refine ExceptT.ext ?_
  rw [ExceptT.run_map]
  show pure _ = _ <$> pure _
  rw [map_pure]
  cases r with
  | ok a => simp only [Except.map, List.append_nil]
  | error e => rfl

theorem adds_step (e : Event) : Adds (step p e) := by
  intro noted
  refine ExceptT.ext ?_
  rw [ExceptT.run_map]
  cases e with
  | action a =>
      show (p.act a >>= _) = _ <$> (p.act a >>= _)
      rw [map_bind]
      refine bind_congr fun r => ?_
      cases r with
      | ok _ =>
          rw [map_pure]
          rfl
      | error fault =>
          rw [map_pure]
          rfl
  | warning w =>
      show (p.warn w >>= _) = _ <$> (p.warn w >>= _)
      rw [map_bind]
      refine bind_congr fun _ => ?_
      rw [map_pure]
      simp only [Except.map, List.append_nil]

theorem adds_steps (l : List Event) : Adds (steps p l) := by
  induction l with
  | nil => exact adds_pure ()
  | cons e rest ih => exact (adds_step e).bind fun _ => ih

theorem adds_carryOut (t : Trace Event α) : Adds (carryOut p t) :=
  (adds_steps _).bind fun _ => adds_ofExcept _

/-- So it can note its files for itself as well. -/
theorem Adds.including_files {x : Writing m Unit} (hx : Adds x) : including (files x) = x := by
  funext noted
  rw [hx noted]
  show (x [] >>= fun r => pure r.2) >>= (fun files => pure ((), noted ++ files)) = _
  rw [bind_assoc, map_eq_pure_bind]
  refine bind_congr fun r => ?_
  rw [pure_bind]

/-! What is left of a run is what the place answered, the files and the trace's own end. -/

theorem run_steps (l : List Event) (noted : List String) :
    (steps p l noted).run =
      (fun r => (r.mapError .write).map fun _ => ((), noted ++ l.filterMap Event.file?)) <$>
        p.perform l := by
  induction l generalizing noted with
  | nil =>
      rw [Place.perform, map_pure]
      show pure _ = _
      rw [List.filterMap_nil, List.append_nil]
      rfl
  | cons e rest ih =>
      cases e with
      | action a =>
          show (p.act a >>= _) >>= _ = _
          rw [Place.perform, map_bind, bind_assoc]
          refine bind_congr fun r => ?_
          cases r with
          | ok _ =>
              rw [pure_bind]
              show (steps p rest _).run = _
              have hfiles : (Event.action a :: rest).filterMap Event.file? =
                  a.file?.toList ++ rest.filterMap Event.file? := by
                cases a with
                | makeDirectory path => rfl
                | writeFile path text => rfl
              rw [ih, hfiles, List.append_assoc]
          | error fault =>
              rw [pure_bind, map_pure]
              rfl
      | warning w =>
          show (p.warn w >>= _) >>= _ = _
          rw [Place.perform, map_bind, bind_assoc]
          refine bind_congr fun _ => ?_
          rw [pure_bind]
          show (steps p rest _).run = _
          rw [ih]
          rfl

theorem files_carryOut (t : Trace Event Unit) :
    files (carryOut p t) =
      (fun r => r.mapError Error.write >>= fun _ => t.result.map fun _ => t.files) <$>
        p.perform t.events := by
  show ((steps p t.events [] >>= fun r => ofExcept t.result r.2) >>= fun r => pure r.2 :
    ExceptT Error m (List String)).run = _
  rw [ExceptT.run_bind, ExceptT.run_bind, run_steps, bind_map_left, bind_assoc,
    map_eq_pure_bind]
  refine bind_congr fun r => ?_
  cases r with
  | ok _ =>
      show (pure _ >>= _) = _
      rw [pure_bind]
      cases t.result with
      | ok _ => rfl
      | error e => rfl
  | error fault =>
      show (pure _ >>= _) = _
      rw [pure_bind]
      rfl

/-- Carrying a trace out is what is done with it elsewhere, with the files for an answer. -/
theorem run_eq (t : Trace Event Unit) :
    p.run t = (fun r => r.map fun _ => ()) <$> files (carryOut p t) := by
  rw [files_carryOut, Functor.map_map, Place.run, map_eq_pure_bind]
  refine bind_congr fun r => ?_
  cases r with
  | ok _ =>
      cases h : t.result with
      | ok _ => rfl
      | error e => rfl
  | error fault => rfl

end Laws

end Writing

/-! ## A crate, step by step -/

namespace Crate

open Writing

section Program

variable (p : Place m) (out : String) (b : Blueprint)

/-- Makes a folder. -/
def putFolder (f : Folder) : Writing m Unit := act p (.makeDirectory (f.path out))

/-- Writes a file. -/
def putFile (f : File) (contents : Contents) : Writing m Unit :=
  act p (.writeFile (f.path out) contents.toText)

/-- Writes a file of code. -/
def putCode (f : File) (code : Code) : Writing m Unit := putFile p out f (.code code)

/-- Code that may not exist. -/
def rendered (r : Except EmissionFault α) : Writing m α := Writing.ofExcept (r.mapError .emission)

/-- Writes the files of one operation, each as soon as its code is there. -/
def putOperation (name : String) : Writing m (Module × Option Module) := do
  let some o := b.service.operation? name
    | Writing.ofExcept (.error (.emission (.unknownOperation name)))
  let moduleName := Naming.moduleName o.name
  let input ← rendered (inputFile b o)
  putCode p out (.item .input moduleName) input
  match ← rendered (outputFile? b o) with
  | some output =>
    putCode p out (.item .output moduleName) output
    return (⟨moduleName, inputType o⟩, some ⟨moduleName, outputType o⟩)
  | none => return (⟨moduleName, inputType o⟩, none)

/-- Writes the file that declares the modules of an area. -/
def putIndex (a : Area) (title : String) (modules : List Module) : Writing m Unit :=
  putCode p out (.index a) (moduleFile title modules)

/-- Writes the files of the operations. -/
def putOperations : Writing m Unit := do
  let modules ← b.usage.operations.mapM (putOperation p out b)
  putIndex p out .input "Operation inputs" (modules.map (·.1))
  putIndex p out .output "Operation outputs" (modules.filterMap (·.2))

/-- Writes the file of a structure. -/
def putStructure (name : String) : Writing m Module := do
  let some s := b.service.structure? name
    | Writing.ofExcept (.error (.emission (.notAStructure name)))
  let code ← rendered (structureFile b s)
  putCode p out (.item .types (b.moduleName name)) code
  return typeModule b name

/-- Writes the file of an enumerated text. -/
def putEnum (name : String) : Writing m Module := do
  let code ← rendered (enumFile b name)
  putCode p out (.item .types (b.moduleName name)) code
  return typeModule b name

/-- Writes the files of the types. -/
def putTypes : Writing m Unit := do
  let structures ← b.usage.structures.mapM (putStructure p out b)
  let enums ← b.usage.enums.mapM (putEnum p out b)
  putIndex p out .types "Structures and enums shared by inputs and outputs" <|
    (structures ++ enums).mergeSort fun m n => decide (m.name ≤ n.name)

/-- Writes the page iterators, if there are any. -/
def putPages : Writing m (List String) := do
  (pagesWarnings b).forM fun w => step p (.warning w)
  let pages := allPages b
  if !pages.isEmpty then
    putCode p out .pagination (pagesFile b (pages.map (·.2)))
  return pages.map (·.1.operation)

/-- Writes the waiters, if there are any. -/
def putWaiters : Writing m (List String) := do
  (waiterWarnings b).forM fun w => step p (.warning w)
  let waiters := allWaiters b
  if !waiters.isEmpty then
    putCode p out .waiters (waitersFile b (waiters.map (·.2)))
  return waiters.map (·.1.name)

/-- Writes the files that make a crate out of the modules. -/
def putPackage (package : Package) : Writing m Unit := do
  putCode p out .library package.library
  putFile p out .package (.lines package.manifest)
  putFile p out .readme (.lines package.readme)

/-- Writes the whole crate. -/
def putCrate (o : Options) : Writing m Unit := do
  folders.forM (putFolder p out)
  putFile p out .runtime (.text (← rendered (constantFile "runtime.rs")))
  putCode p out .client (clientFile b)
  putOperations p out b
  putTypes p out b
  let paginators ← if o.paginators then putPages p out b else pure []
  let waiters ← if o.waiters then putWaiters p out b else pure []
  putPackage p out (Package.of b o paginators waiters)

end Program

/-- A trace of products, carried out in a directory. -/
def carryOut (p : Place m) (out : String) (t : Trace Product α) : Writing m α :=
  Writing.carryOut p (t.mapEvents (Product.event out))

section Laws

variable [LawfulMonad m] {p : Place m} {out : String} {b : Blueprint}

@[simp]
theorem carryOut_bind (x : Trace Product α) (f : α → Trace Product β) :
    carryOut p out (x >>= f) = carryOut p out x >>= fun a => carryOut p out (f a) := by
  rw [carryOut, Trace.mapEvents_bind, Writing.carryOut_bind]
  rfl

@[simp]
theorem carryOut_pure (a : α) : carryOut p out (pure a) = pure a := Writing.carryOut_pure a

@[simp]
theorem carryOut_emitted (r : Except EmissionFault α) :
    carryOut p out (emitted r) = rendered r :=
  Writing.carryOut_ofExcept (r.mapError .emission)

@[simp]
theorem carryOut_fail (e : Error) :
    carryOut p out (.fail e : Trace Product α) = Writing.ofExcept (.error e) :=
  Writing.carryOut_ofExcept (.error e)

@[simp]
theorem carryOut_writeFile (f : File) (c : Contents) :
    carryOut p out (writeFile f c) = putFile p out f c := Writing.carryOut_emit _

@[simp]
theorem carryOut_writeCode (f : File) (c : Code) :
    carryOut p out (writeCode f c) = putCode p out f c := carryOut_writeFile f _

theorem carryOut_mapM (f : α → Trace Product β) (l : List α) :
    carryOut p out (l.mapM f) = l.mapM fun a => carryOut p out (f a) := by
  induction l with
  | nil => exact carryOut_pure []
  | cons a l ih =>
      rw [List.mapM_cons, List.mapM_cons, carryOut_bind]
      refine bind_congr fun b => ?_
      rw [carryOut_bind, ih]
      exact bind_congr fun rest => carryOut_pure _

theorem carryOut_emitAll (f : α → Product) (l : List α) :
    carryOut p out (.emitAll (l.map f)) = l.forM fun a => step p ((f a).event out) := by
  have hsteps : steps p ((l.map f).map (Product.event out)) =
      l.forM fun a => step p ((f a).event out) := by
    induction l with
    | nil => rfl
    | cons a l ih =>
        rw [List.map_cons, List.map_cons, steps, ih]
        rfl
  show (steps p ((l.map f).map (Product.event out)) >>= fun _ => Writing.ofExcept (.ok ())) = _
  rw [hsteps, Writing.ofExcept_ok, bind_pure_unit]

@[simp]
theorem carryOut_index (a : Area) (title : String) (modules : List Module) :
    carryOut p out (generateIndex a title modules) = putIndex p out a title modules :=
  carryOut_writeCode _ _

theorem putOperation_eq :
    putOperation p out b = fun n => carryOut p out (generateOperation b n) := by
  funext n
  unfold putOperation generateOperation
  cases b.service.operation? n with
  | none => exact (carryOut_fail _).symm
  | some o =>
      dsimp only
      rw [carryOut_bind, carryOut_emitted]
      refine bind_congr fun input => ?_
      rw [carryOut_bind, carryOut_writeCode]
      refine bind_congr fun _ => ?_
      rw [carryOut_bind, carryOut_emitted]
      refine bind_congr fun output => ?_
      cases output with
      | none => rw [carryOut_pure]
      | some code => rw [carryOut_bind, carryOut_writeCode, carryOut_pure]

theorem putOperations_eq : putOperations p out b = carryOut p out (generateOperations b) := by
  rw [putOperations, generateOperations, carryOut_bind, carryOut_mapM, putOperation_eq]
  simp only [carryOut_bind, carryOut_index]

theorem putStructure_eq :
    putStructure p out b = fun n => carryOut p out (generateStructure b n) := by
  funext n
  unfold putStructure generateStructure
  cases b.service.structure? n with
  | none => exact (carryOut_fail _).symm
  | some t =>
      dsimp only
      rw [carryOut_bind, carryOut_emitted]
      refine bind_congr fun code => ?_
      rw [carryOut_bind, carryOut_writeCode, carryOut_pure]

theorem putEnum_eq : putEnum p out b = fun n => carryOut p out (generateEnum b n) := by
  funext n
  rw [putEnum, generateEnum, carryOut_bind, carryOut_emitted]
  refine bind_congr fun code => ?_
  rw [carryOut_bind, carryOut_writeCode, carryOut_pure]

theorem putTypes_eq : putTypes p out b = carryOut p out (generateTypes b) := by
  rw [putTypes, generateTypes, putStructure_eq, putEnum_eq]
  simp only [carryOut_bind, carryOut_mapM, carryOut_index]

theorem putPages_eq : putPages p out b = carryOut p out (generatePages b) := by
  rw [putPages, generatePages, carryOut_bind, Crate.warn, carryOut_emitAll]
  refine bind_congr fun _ => ?_
  dsimp only
  split
  next => simp only [carryOut_bind, carryOut_writeCode, carryOut_pure]
  next => rw [carryOut_pure]

theorem putWaiters_eq : putWaiters p out b = carryOut p out (generateWaiters b) := by
  rw [putWaiters, generateWaiters, carryOut_bind, Crate.warn, carryOut_emitAll]
  refine bind_congr fun _ => ?_
  dsimp only
  split
  next => simp only [carryOut_bind, carryOut_writeCode, carryOut_pure]
  next => rw [carryOut_pure]

theorem putPackage_eq (package : Package) :
    putPackage p out package = carryOut p out (generatePackage package) := by
  rw [putPackage, generatePackage]
  simp only [carryOut_bind, carryOut_writeCode, carryOut_writeFile]

/-- A crate that is written step by step is its trace, carried out. -/
theorem putCrate_eq (o : Options) : putCrate p out b o = carryOut p out (generate b o) := by
  have hfolders : carryOut p out (.emitAll (folders.map .folder)) =
      folders.forM (putFolder p out) := carryOut_emitAll ..
  simp only [putCrate, generate, putOperations_eq, putTypes_eq, putPages_eq, putWaiters_eq,
    putPackage_eq, carryOut_bind, hfolders, carryOut_emitted, carryOut_writeFile,
    carryOut_writeCode,
    apply_ite (carryOut p out), carryOut_pure]

end Laws

end Crate

/-! ## What a run answers -/

namespace Generator

/-- Writes the crate into a directory; the answer is the files that were written. -/
def writeTo (p : Place m) (g : Generator) (out : String) : m (Except Error (List String)) :=
  Writing.files (Crate.putCrate p out g.blueprint g.options)

theorem writeTo_eq [LawfulMonad m] (p : Place m) (g : Generator) (out : String) :
    g.writeTo p out = Writing.files (Writing.carryOut p (g.generate out)) := by
  rw [writeTo, Crate.putCrate_eq]
  rfl

end Generator

namespace Workspace

open Writing

/-- Writes the workspace into a directory, crate by crate. Each crate answers
with its own files, and they are noted behind those that were there before. -/
def putWorkspace (p : Place m) (w : Workspace) (out : String) : Writing m Unit := do
  act p (.makeDirectory out)
  act p (.writeFile (Files.join out "Cargo.toml") (Contents.lines w.manifest).toText)
  act p (.writeFile (Files.join out "README.md") (Contents.lines w.readme).toText)
  w.crates.forM fun g => including (g.writeTo p (Files.join out g.crateName))

/-- Writes the workspace into a directory; the answer is the files that were written. -/
def writeTo (p : Place m) (w : Workspace) (out : String) : m (Except Error (List String)) :=
  files (putWorkspace p w out)

theorem writeTo_eq [LawfulMonad m] (p : Place m) (w : Workspace) (out : String) :
    w.writeTo p out = files (carryOut p (w.generate out)) := by
  rw [writeTo, putWorkspace, generate, writeLines, writeLines]
  simp only [carryOut_bind, carryOut_emit, carryOut_forM, Generator.writeTo_eq,
    (adds_carryOut _).including_files]
  rfl

end Workspace

end Clientwright
