import Clientwright.Blueprint.Access
import Clientwright.Crate.Client
import Clientwright.Warning

/-!
# Page iterators

An operation with a paginator gets an iterator over its pages: after each page the tokens of the
output become those of the next input, as long as there is one and something has changed. If the
result is one list, there is an iterator over its items too. A paginator that does not fit the types
of the operation is left out, with the reason.
-/

namespace Clientwright.Crate

/-- Why no iterator can be generated. -/
inductive PagesFault where
  | noInputOrOutput
  | noInputMember (name : String)
  | access (fault : AccessFault)
  | differentTypes (selector : String)
  | emptySelector (selector : String)
  | tokenType (selector found token expected : String)
  | notBoolean (selector : String)
  | emission (fault : EmissionFault)
  deriving DecidableEq, Repr

/-- The fault in words. -/
def PagesFault.text : PagesFault → String
  | .noInputOrOutput => "operation has no input or no output"
  | .noInputMember name => "input has no member " ++ name
  | .access fault => fault.text
  | .differentTypes selector => "alternatives of " ++ selector ++ " have different types"
  | .emptySelector selector => "empty path " ++ selector
  | .tokenType selector found token expected =>
    "output token " ++ selector ++ " is " ++ found ++ " but input token " ++ token ++ " is " ++
      expected
  | .notBoolean selector => "more_results " ++ selector ++ " is not a boolean"
  | .emission fault => (Error.emission fault).message

/-- Where the output holds a token: ways to it, of which the first that leads to a value counts. -/
structure Token where
  ways : List Access
  leaf : String
  deriving DecidableEq, Repr

/-- The expression for the token, which may be missing. -/
def Token.expr (t : Token) : Expr :=
  match t.ways with
  | [] => .empty
  | first :: rest =>
    rest.foldl (fun e way => .of [e, ".or_else(|| ", way.tokenExpr, ")"]) first.tokenExpr

/-- Do two shapes have the same type, or both none? -/
def sameType (b : Blueprint) (s t : String) : Bool :=
  (b.shapeType s).toOption == (b.shapeType t).toOption

/-- The ways of the alternatives; all of them end at values of one type. -/
def tokenWays (b : Blueprint) (selector output : String) (before : Option String) :
    List (List Step) → Except PagesFault (List Access)
  | [] => .ok []
  | steps :: rest => do
    let way ← (Access.toToken b selector output true steps).mapError .access
    if before.any fun leaf => !sameType b leaf way.leaf then .error (.differentTypes selector)
    let others ← tokenWays b selector output (some way.leaf) rest
    return way :: others

/-- The token that a selector finds in an output. -/
def tokenOf (b : Blueprint) (output : String) (s : Selector) : Except PagesFault Token := do
  let ways ← tokenWays b s.text output none s.alternatives
  match ways.getLast? with
  | some way => return { ways, leaf := way.leaf }
  | none => .error (.emptySelector s.text)

/-- An assignment of a token to a field of the next input. -/
structure Assignment where
  field : String
  token : Token
  deriving DecidableEq, Repr

/-- The assignment of an output token to an input token of the same type. -/
def assignment (b : Blueprint) (input : StructureShape) (output : String)
    (pair : String × Selector) : Except PagesFault Assignment := do
  let (name, selector) := pair
  let some m := input.member? name | .error (.noInputMember name)
  let token ← tokenOf b output selector
  let expected ← (b.memberType input m).mapError .emission
  let found ← (b.shapeType token.leaf).mapError .emission
  if expected ≠ found then
    .error (.tokenType selector.text found.text name expected.text)
  return { field := Naming.fieldIdent name, token }

/-- The flag for more results, which has to be a boolean. -/
def moreResults (b : Blueprint) (output : String) (s : Selector) : Except PagesFault Token := do
  let token ← tokenOf b output s
  match b.service.shape? token.leaf with
  | some (.scalar t) => if t.kind = .boolean then return token else .error (.notBoolean s.text)
  | _ => .error (.notBoolean s.text)

/-- The list of items in an output, where the result is one list on its first level. -/
structure Items where
  field : String
  type : ValueType
  deriving DecidableEq, Repr

/-- The items that the only result key names. -/
def items? (b : Blueprint) (output : String) (p : Pagination) : Option Items :=
  match p.resultKeys with
  | [⟨[[.field name]]⟩] => do
    let s ← b.service.structure? output
    let m ← s.member? name
    match b.value m.shape with
    | .list _ _ item =>
      let type ← (b.typeOf item).toOption
      return { field := Naming.fieldIdent m.name, type }
    | _ => none
  | _ => none

/-- An iterator over the pages of an operation. -/
structure Pages where
  operation : Operation
  /-- the method of the operation on the client -/
  method : String
  assignments : List Assignment
  more : Option Token
  /-- the field of the input that limits the size of a page -/
  limit : Option String
  items : Option Items

/-- The iterator that a paginator describes. -/
def pagesOf (b : Blueprint) (o : Operation) (p : Pagination) : Except PagesFault Pages := do
  let (some input, some output) := (b.service.inputOf? o, o.output) | .error .noInputOrOutput
  let assignments ← (p.inputTokens.zip p.outputTokens).mapM (assignment b input output)
  let more ← p.moreResults.mapM (moreResults b output)
  return {
    operation := o
    method := methodName o
    assignments
    more
    limit := (p.limitKey.filter fun l => (input.member? l).isSome).map Naming.fieldIdent
    items := items? b output p }

/-- An identifier without the mark of a raw one. -/
def bareIdent (ident : String) : String :=
  match Text.dropStart? ['r', '#'] ident.toList with
  | some rest => String.ofList rest
  | none => ident

namespace Pages

/-- The type of the iterator. -/
def type (p : Pages) : String := Naming.typeIdent p.operation.name ++ "Pages"

/-- The condition under which there is a next page. -/
def condition (p : Pages) : Expr :=
  let more := p.more.toList.map fun t => Expr.of [t.expr, ".copied().unwrap_or(false)"]
  let isSome (a : Assignment) : Expr := .of ["next.", .field a.field, ".is_some()"]
  let tokens : Expr :=
    match p.assignments with
    | [a] => isSome a
    | assignments => .of ["(", .separated " || " (assignments.map isSome), ")"]
  .separated " && " (more ++ [tokens, "next != input"])

/-- The method that gives the next page. -/
def next (p : Pages) : Code :=
  .braces "fn next(&mut self) -> Option<Self::Item>" <| Code.all [
    .text "let input = self.input.take()?;",
    .block (.of ["let output = match self.client.", p.method, "(&input) \x7b"]) []
      (.texts ["Ok(output) => output,", "Err(error) => return Some(Err(error)),"]) "\x7d;",
    .blank,
    .text "let mut next = input.clone();",
    Code.all (p.assignments.map fun a =>
      .line (.of ["next.", .field a.field, " = ", a.token.expr, ".cloned();"])),
    .braces (.of ["if ", p.condition]) (.text "self.input = Some(next);"),
    .text "Some(Ok(output))"]

/-- The type of the iterator and what makes it one. -/
def iterator (p : Pages) (client : String) : Code :=
  let method := client ++ "::" ++ bareIdent p.method
  Code.all [
    .text ("/// Pages of [`" ++ method ++ "`](crate::" ++ method ++ ")"),
    .texts [
      "///",
      "/// Each item is one response; iteration stops after the last page or the first error."],
    .braces (.of ["pub struct ", p.type, "<'a, T>"]) <| Code.all [
      .line (.of ["client: &'a crate::client::", client, "<T>,"]),
      .line (.of ["input: Option<", inputItem p.operation, ">,"])],
    .blank,
    .braces (.of ["impl<T: runtime::Transport> Iterator for ", p.type, "<'_, T>"]) <| Code.all [
      .line (.of ["type Item = Result<", outputItem p.operation, ", runtime::Error>;"]),
      .blank,
      p.next]]

/-- The method that iterates over the pages. -/
def pagesMethod (p : Pages) : Code :=
  let limit :=
    match p.limit with
    | some field =>
      .texts ["///", "/// The page size is read from `input." ++ bareIdent field ++ "`."]
    | none => .empty
  Code.all [
    .text ("/// Iterate over every page of `" ++ p.operation.name ++ "`"),
    limit,
    .braces (.of ["pub fn ", bareIdent p.method, "_pages(&self, input: ", inputItem p.operation,
      ") -> ", p.type, "<'_, T>"]) <|
        .braces p.type (.texts ["client: self,", "input: Some(input),"])]

/-- The method that iterates over the items of all pages. -/
def itemsMethod (p : Pages) (items : Items) : Code :=
  Code.all [
    .blank,
    .text ("/// Iterate over the items of every page of `" ++ p.operation.name ++ "`"),
    .braces (.of ["pub fn ", bareIdent p.method, "_items(&self, input: ", inputItem p.operation,
      ") -> impl Iterator<Item = Result<", items.type.expr, ", runtime::Error>> + '_"]) <|
        .block (.of ["self.", bareIdent p.method, "_pages(input).flat_map(|page| match page \x7b"])
          [] (Code.all [
            .line (.of ["Ok(output) => output.", .field items.field,
              ".unwrap_or_default().into_iter().map(Ok).collect::<Vec<_>>(),"]),
            .text "Err(error) => vec![Err(error)],"]) "\x7d)"]

/-- The code for the iterator and the methods that give it. -/
def code (p : Pages) (client : String) : Code :=
  Code.all [
    p.iterator client,
    .blank,
    .braces (.of ["impl<T: runtime::Transport> crate::client::", client, "<T>"]) <|
      p.pagesMethod ++ (p.items.map p.itemsMethod).getD .empty]

end Pages

/-- The paginators that apply to the selected operations, with the iterator of each or the reason
why it has none. -/
def pagesAttempts (b : Blueprint) : List (Pagination × Except PagesFault Pages) :=
  b.service.paginators.values.filterMap fun p =>
    if b.usage.isSelected p.operation then
      (b.service.operation? p.operation).map fun o => (p, pagesOf b o p)
    else none

/-- The iterators that can be generated. -/
def allPages (b : Blueprint) : List (Pagination × Pages) :=
  (pagesAttempts b).filterMap fun (p, attempt) => attempt.toOption.map (p, ·)

/-- The warnings for those that cannot. -/
def pagesWarnings (b : Blueprint) : List Warning :=
  (pagesAttempts b).filterMap fun (p, attempt) =>
    match attempt with
    | .error fault => some (.skippedPaginator b.service.name p.operation fault.text)
    | .ok _ => none

/-- The file of the iterators. -/
def pagesFile (b : Blueprint) (pages : List Pages) : Code :=
  Code.all [
    .text "//! Page iterators for paginated operations",
    .blank,
    usingRuntime,
    Code.spaced (pages.map fun p => p.code (clientType b.service))]

end Clientwright.Crate
