import Clientwright.Files.Action
import Clientwright.Files.Path

/-!
# File trees

A tree of directories and files, held in memory. A path is resolved part by part from the working
directory, and every part but the last has to be a directory. Nothing here fails half-way: a file is
either written as a whole or not at all.
-/

namespace Clientwright

/-- A tree of directories and files. The location of each is the list of the parts of its path from
the root. -/
structure FileTree where
  /-- the working directory -/
  working : List String
  directories : List (List String)
  files : List (List String × String)
  deriving DecidableEq, Repr

namespace FileTree

/-- The longest name that a file or directory may have, in bytes. -/
def longestName : Nat := 255

/-- Is there a directory at the location? The root always is one. -/
def isDirectory (t : FileTree) (l : List String) : Bool := l.isEmpty || t.directories.contains l

/-- The contents of the file at a location. -/
def file? (t : FileTree) (l : List String) : Option String := t.files.lookup l

/-- The location that a path starts from. -/
def origin (t : FileTree) (path : String) : List String :=
  if Files.isAbsolute path then [] else t.working

/-- Goes from one location along the parts of a path. -/
def walk (t : FileTree) (l : List String) : List String → Option (List String)
  | [] => some l
  | part :: rest =>
    if !t.isDirectory l then none
    else if Files.isIdle part then t.walk l rest
    else if part = ".." then t.walk l.dropLast rest
    else if longestName < part.utf8ByteSize then none
    else t.walk (l ++ [part]) rest

/-- The location of a path; an empty path has none. -/
def locate (t : FileTree) (path : String) : Option (List String) :=
  if path.isEmpty then none else t.walk (t.origin path) (Files.parts path)

/-- The contents of the file at a path. -/
def read (t : FileTree) (path : String) : Option String :=
  t.locate path >>= t.file?

/-- The tree with a file at a path, in place of an older one. -/
def write (t : FileTree) (path text : String) : Option FileTree := do
  let l ← t.locate path
  if t.isDirectory l then none
  return { t with files := (l, text) :: t.files.filter (·.1 != l) }

/-- The tree with the directories that the parts of a path lead to. -/
def makeAlong (t : FileTree) (l : List String) : List String → Option FileTree
  | [] => some t
  | part :: rest =>
    if Files.isIdle part then t.makeAlong l rest
    else if part = ".." then t.makeAlong l.dropLast rest
    else
      let l := l ++ [part]
      if t.isDirectory l then t.makeAlong l rest
      else if (t.file? l).isSome || longestName < part.utf8ByteSize then none
      else { t with directories := l :: t.directories }.makeAlong l rest

/-- The tree with a directory at a path, and the directories above it. -/
def makeDirectory (t : FileTree) (path : String) : Option FileTree :=
  t.makeAlong (t.origin path) (Files.parts path)

/-- The tree after an action. -/
def act (t : FileTree) : Action → Except WriteFault FileTree
  | .makeDirectory path =>
    match t.makeDirectory path with
    | some t => .ok t
    | none => .error (.directory path)
  | .writeFile path text =>
    match t.write path text with
    | some t => .ok t
    | none => .error (.file path)

/-- A tree with nothing but its working directory. -/
def empty (working : List String) : FileTree where
  working
  directories := (List.range working.length).map fun n => working.take (n + 1)
  files := []

/-- A tree with some files below its working directory. -/
def ofFiles (working : List String) (files : List (String × String)) : Option FileTree :=
  files.foldlM (fun t (path, text) => do
    let t ← t.makeDirectory (Files.parent path)
    t.write path text) (empty working)

/-- The files below the working directory, by their paths from there, ascending. -/
def listed (t : FileTree) : List (String × String) :=
  let below := t.files.filterMap fun (l, text) =>
    if t.working.isPrefixOf l then
      some ("/".intercalate (l.drop t.working.length), text)
    else none
  below.mergeSort fun a b => decide (a.1 ≤ b.1)

end FileTree

end Clientwright
