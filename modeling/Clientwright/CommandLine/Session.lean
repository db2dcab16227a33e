import Clientwright.CommandLine.Failure
import Clientwright.Files.Sources
import Clientwright.Files.Tree

/-!
# Sessions

A command reads files, prints lines and carries out actions. What these do is left to a host; one
host works on a file tree in memory, so that a command is a function there.
-/

namespace Clientwright.CommandLine

/-- What a command needs of the world around it. -/
structure Host (m : Type → Type) where
  /-- the text of a file, if it can be read -/
  read : String → m (Option String)
  /-- prints a line -/
  print : String → m Unit
  /-- where generated files go -/
  place : Place m

/-- A world in memory. -/
structure World where
  tree : FileTree
  /-- the lines printed so far -/
  printed : List String
  warnings : List Warning
  deriving DecidableEq, Repr

namespace World

/-- A world in which nothing has happened yet. -/
def start (tree : FileTree) : World := ⟨tree, [], []⟩

/-- The place that the file tree of the world is. -/
def place : Place (StateM World) where
  act a := fun w =>
    match w.tree.act a with
    | .ok tree => (.ok (), { w with tree })
    | .error fault => (.error fault, w)
  warn warning := fun w => ((), { w with warnings := w.warnings ++ [warning] })

/-- The host that the world is. -/
def host : Host (StateM World) where
  read path := fun w => (w.tree.read path, w)
  print line := fun w => ((), { w with printed := w.printed ++ [line] })
  place := place

end World

/-- A part of a command: it may fail. -/
abbrev Session (m : Type → Type) := ExceptT Failure m

namespace Session

variable {m : Type → Type} [Monad m] {α : Type}

/-- Prints lines. -/
def print (h : Host m) (lines : List String) : Session m Unit :=
  lines.forM fun line => ExceptT.lift (h.print line)

/-- A step of a task. -/
def during (task : Task) (step : m (Except Error α)) : Session m α := do
  match ← ExceptT.lift step with
  | .ok a => return a
  | .error e => throw (.during task e)

/-- A step of a task that leaves the world alone. -/
def check (task : Task) (r : Except Error α) : Session m α := during task (pure r)

/-- A step of a task that may leave warnings behind. -/
def warned (h : Host m) (task : Task) (t : Trace Warning α) : Session m α :=
  during task (h.place.run (t.mapEvents .warning))

/-- Reads a document if there is a file for it. -/
def optionally (path : Option String) (s : Sources)
    (read : Sources → String → Session m Sources) : Session m Sources :=
  match path with
  | some path => read s path
  | none => return s

end Session

end Clientwright.CommandLine
