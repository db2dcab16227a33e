/-!
# Selectors

A selector finds values in the output of an operation: it names fields, projects lists, picks items
by index, and may give alternatives.
-/

namespace Clientwright

/-- One step of a selector. -/
inductive Step where
  /-- the field of a structure -/
  | field (name : String)
  /-- every item of a list -/
  | project
  /-- an item of a list, counted from the end if negative -/
  | index (n : Int)
  deriving DecidableEq, Repr

/-- A path into an output. -/
structure Selector where
  /-- the paths to try, in order -/
  alternatives : List (List Step)
  deriving DecidableEq, Repr

namespace Selector

/-- Does some alternative project a list? -/
def hasProjection (s : Selector) : Bool :=
  s.alternatives.any fun steps => steps.contains .project

/-- The text of a step; a field that is not the first step follows a point. -/
def stepText (isFirst : Bool) : Step → String
  | .field name => if isFirst then name else "." ++ name
  | .project => "[]"
  | .index n => "[" ++ toString n ++ "]"

/-- The text of the steps of one alternative. -/
def stepsText : List Step → String
  | [] => ""
  | first :: rest => stepText true first ++ String.join (rest.map (stepText false))

/-- The text of a selector. -/
def text (s : Selector) : String :=
  " || ".intercalate (s.alternatives.map stepsText)

end Selector

end Clientwright
