import Clientwright.Blueprint.Types

/-!
# Access

A selector leads into an output. It is followed step by step along the shapes: a field needs a
structure that has it, an index or a projection needs a list. What comes out is a way through the
generated types, which can be printed as an expression for one value or for all values it meets.
-/

namespace Clientwright

/-- One step through generated types. -/
inductive AccessStep where
  /-- the value of a field -/
  | field (ident : String)
  /-- an item of a list, counted from the start -/
  | fromStart (n : Nat)
  /-- an item of a list, counted from the end -/
  | fromEnd (n : Nat)
  /-- every item of a list -/
  | each
  deriving DecidableEq, Repr

/-- Why a selector does not lead into an output. -/
inductive AccessFault where
  | unknownShape (name : String)
  | noMember (owner member : String)
  | boxedMember (selector : String)
  | projection (selector : String)
  | mismatch (selector : String)
  deriving DecidableEq, Repr

/-- The fault in words. -/
def AccessFault.text : AccessFault → String
  | .unknownShape name => (Error.emission (.unknownShape name)).message
  | .noMember owner member => owner ++ " has no member " ++ member
  | .boxedMember selector => selector ++ " crosses a boxed member"
  | .projection selector => selector ++ " projects a list"
  | .mismatch selector => selector ++ " does not match the output shape"

/-- A way through generated types and the shape at its end. -/
structure Access where
  steps : List AccessStep
  leaf : String
  deriving DecidableEq, Repr

namespace AccessStep

/-- The step to an item of a list. -/
def ofIndex : Int → AccessStep
  | .ofNat n => fromStart n
  | .negSucc n => fromEnd n

/-- The expression that takes the step from `v`. -/
def expr : AccessStep → Expr
  | field ident => .of ["v.", .field ident, ".as_ref()"]
  | fromStart n => .plain ("v.get(" ++ toString n ++ ")")
  | fromEnd n => .plain ("v.iter().rev().nth(" ++ toString n ++ ")")
  | each => "v.iter()"

end AccessStep

namespace Access

/-- The access with a step before it. -/
def cons (step : AccessStep) (a : Access) : Access := { a with steps := step :: a.steps }

/-- Follows the steps that lead to one value, from a shape on. The selector that faults quote is
given as text; the first step has to be a field, and boxes are not crossed. -/
def toToken (b : Blueprint) (selector : String) (shape : String) (isFirst : Bool) :
    List Step → Except AccessFault Access
  | [] => .ok ⟨[], shape⟩
  | step :: rest =>
    match step, b.service.shape? shape with
    | _, none => .error (.unknownShape shape)
    | .field name, some (.structure s) =>
      match s.member? name with
      | none => .error (.noMember s.name name)
      | some m =>
        if b.isBoxed s m then .error (.boxedMember selector)
        else (toToken b selector m.shape false rest).map (cons (.field (Naming.fieldIdent m.name)))
    | .index n, some (.list l) =>
      if isFirst then .error (.mismatch selector)
      else (toToken b selector l.member.shape false rest).map (cons (.ofIndex n))
    | .project, some _ => .error (.projection selector)
    | _, some _ => .error (.mismatch selector)

/-- Follows the steps that lead to any number of values, from a shape on. -/
def toValues (b : Blueprint) (selector : String) (shape : String) :
    List Step → Except AccessFault Access
  | [] => .ok ⟨[], shape⟩
  | step :: rest =>
    match step, b.service.shape? shape with
    | _, none => .error (.unknownShape shape)
    | .field name, some (.structure s) =>
      match s.member? name with
      | none => .error (.noMember s.name name)
      | some m =>
        (toValues b selector m.shape rest).map (cons (.field (Naming.fieldIdent m.name)))
    | .index n, some (.list l) =>
      (toValues b selector l.member.shape rest).map (cons (.ofIndex n))
    | .project, some (.list l) => (toValues b selector l.member.shape rest).map (cons .each)
    | _, some _ => .error (.mismatch selector)

/-- The expression for the one value, which may be missing. -/
def tokenExpr (a : Access) : Expr :=
  match a.steps with
  | [] => .empty
  | first :: rest =>
    .of <|
      (match first with
        | .field ident => Expr.of ["output.", .field ident, ".as_ref()"]
        | step => step.expr) ::
      rest.map fun step => .of [".and_then(", .closure "v" step.expr, ")"]

/-- The expression for all values. -/
def valuesExpr (a : Access) : Expr :=
  .of <| "std::iter::once(&output)" :: a.steps.map fun step =>
    match step with
    | .each => .of [".flat_map(", .closure "v" step.expr, ")"]
    | step => .of [".filter_map(", .closure "v" step.expr, ")"]

end Access

end Clientwright
