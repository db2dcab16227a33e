import Clientwright.Trace
import Clientwright.Source.Code
import Clientwright.Warning

/-!
# Actions

Generating is a sequence of actions on the place that holds the generated files. What a place is
stays open: whoever carries the actions out answers each of them, and the first that fails ends it.
-/

namespace Clientwright

/-- What a generated file holds. -/
inductive Contents where
  | code (c : Code)
  | lines (l : List String)
  | text (s : String)
  deriving DecidableEq, Repr

/-- The contents as text. -/
def Contents.toText : Contents → String
  | code c => c.fileText
  | lines l => String.join (l.map (· ++ "\n"))
  | text s => s

/-- An action on the place that holds the generated files. -/
inductive Action where
  /-- makes a directory and the ones above it -/
  | makeDirectory (path : String)
  /-- writes a file in place of an older one -/
  | writeFile (path : String) (text : String)
  deriving DecidableEq, Repr

/-- The path of the action. -/
def Action.path : Action → String
  | makeDirectory path => path
  | writeFile path _ => path

/-- The file that the action writes. -/
def Action.file? : Action → Option String
  | makeDirectory _ => none
  | writeFile path _ => some path

/-- The path and the number of bytes of the file that the action writes. -/
def Action.size? : Action → Option (String × Nat)
  | makeDirectory _ => none
  | writeFile path text => some (path, text.utf8ByteSize)

/-- Something that happens while files are generated. -/
inductive Event where
  | action (a : Action)
  | warning (w : Warning)
  deriving DecidableEq, Repr

namespace Event

/-- The file that is written. -/
def file? : Event → Option String
  | action a => a.file?
  | warning _ => none

/-- The number of bytes that are written. -/
def bytes : Event → Nat
  | action (.writeFile _ text) => text.utf8ByteSize
  | action (.makeDirectory _) | warning _ => 0

end Event

namespace Trace

variable {α : Type}

/-- The files written, in order. -/
def files (t : Trace Event α) : List String := t.events.filterMap Event.file?

/-- The number of bytes written. -/
def totalBytes (t : Trace Event α) : Nat := t.events.foldl (fun n e => n + e.bytes) 0

end Trace

/-- A place for generated files: how it answers an action. A warning always succeeds. -/
structure Place (m : Type → Type) where
  act : Action → m (Except WriteFault Unit)
  warn : Warning → m Unit

namespace Place

variable {m : Type → Type} [Monad m]

/-- The place of a dry run: nothing is done there, but the paths and sizes of the files are kept.
Warnings are given as ever. -/
def dryRun (p : Place m) : Place (StateT (List (String × Nat)) m) where
  act a := fun sizes => pure (.ok (), sizes ++ a.size?.toList)
  warn w := StateT.lift (p.warn w)

/-- Carries out events in order, up to the first action that fails. -/
def perform (p : Place m) : List Event → m (Except WriteFault Unit)
  | [] => pure (.ok ())
  | .warning w :: rest => do
    p.warn w
    p.perform rest
  | .action a :: rest => do
    match ← p.act a with
    | .ok () => p.perform rest
    | .error fault => pure (.error fault)

/-- Carries out a trace: its events, and then its own end. -/
def run {α : Type} (p : Place m) (t : Trace Event α) : m (Except Error α) := do
  match ← p.perform t.events with
  | .ok () => pure t.result
  | .error fault => pure (.error (.write fault))

/-- Carries out a trace only to see what it would write: the paths and sizes of its files. -/
def rehearse {α : Type} (p : Place m) (t : Trace Event α) :
    m (Except Error (List (String × Nat))) := do
  let (r, sizes) ← (p.dryRun.run t).run []
  return r.map fun _ => sizes

end Place

/-- What a place in memory has recorded. -/
structure Record where
  directories : List String
  files : List (String × String)
  warnings : List Warning
  /-- the number of actions still carried out before one fails, if one fails -/
  room : Option Nat
  deriving DecidableEq, Repr

namespace Record

/-- A record of nothing so far. -/
def start (room : Option Nat) : Record := ⟨[], [], [], room⟩

/-- The record with one action more. -/
def add (r : Record) : Action → Record
  | .makeDirectory path => { r with directories := r.directories ++ [path] }
  | .writeFile path text => { r with files := r.files ++ [(path, text)] }

/-- A place that records what happens, and is full when there is no more room. -/
def place : Place (StateM Record) where
  act a := fun r =>
    match r.room with
    | some 0 => (.error (.full a.path), r)
    | some (n + 1) => (.ok (), { r.add a with room := some n })
    | none => (.ok (), r.add a)
  warn w := fun r => ((), { r with warnings := r.warnings ++ [w] })

end Record

end Clientwright
