import Clientwright.Json.Reader
import Clientwright.Json.Record
import Clientwright.Service.Basic
import Clientwright.Trace
import Clientwright.Warning

/-!
# Paginator documents

A paginator document says for each operation which input members take tokens and where the output
holds the next ones. An entry without tokens is no paginator, one with a selector outside the
supported language is left out with a warning, and one that does not fit the operation is an error.
-/

namespace Clientwright.Definition

open Json

/-- The entry of an operation. -/
structure PaginatorEntry where
  inputToken : Option (List String)
  outputToken : Option (List String)
  limitKey : Option String
  resultKey : Option (List String)
  moreResults : Option String
  deriving DecidableEq, Repr

/-- A paginator document. -/
structure PaginatorDocument where
  entries : List (String × PaginatorEntry)
  deriving DecidableEq, Repr

/-- Reads one text or a list of texts. -/
def oneOrMany? : Json → Option (List String)
  | .string s => some [s]
  | v => list? string? v

/-- Reads an entry. -/
def PaginatorEntry.ofJson? (v : Json) : Option PaginatorEntry := do
  let r ← record? ["input_token", "output_token", "limit_key", "result_key", "more_results"] v
  return {
    inputToken := ← r.optional "input_token" oneOrMany?
    outputToken := ← r.optional "output_token" oneOrMany?
    limitKey := ← r.optional "limit_key" string?
    resultKey := ← r.optional "result_key" oneOrMany?
    moreResults := ← r.optional "more_results" string? }

/-- Reads the text of a paginator document. -/
def PaginatorDocument.ofText? (text : String) : Option PaginatorDocument := do
  let r ← record? ["pagination"] (← Json.ofText? text)
  return { entries := ← r.withDefault "pagination" (entries? PaginatorEntry.ofJson?) [] }

/-- What has become of an entry. -/
inductive PaginatorOutcome where
  | kept (p : Pagination)
  /-- without tokens there is nothing to iterate -/
  | tokenless
  | unreadable (error : SelectorError)

namespace PaginatorEntry

/-- The selectors of an entry: output tokens, result keys and the flag for more results. -/
def selectors (e : PaginatorEntry) (outputToken : List String) :
    Except SelectorError (List Selector × List Selector × Option Selector) := do
  let outputTokens ← outputToken.mapM Selector.parse
  let resultKeys ← (e.resultKey.getD []).mapM Selector.parse
  let moreResults ← e.moreResults.mapM Selector.parse
  return (outputTokens, resultKeys, moreResults)

/-- Does the input of the operation have the member? -/
def hasInputMember (service : Service) (o : Operation) (name : String) : Bool :=
  (service.inputOf? o).any fun s => (s.member? name).isSome

/-- The paginator that an entry describes. -/
def convert (service : Service) (name : String) (e : PaginatorEntry) :
    Except PaginatorFault PaginatorOutcome := do
  let some operation := service.operation? name | .error (.unknownOperation name)
  let (some inputTokens, some outputToken) := (e.inputToken, e.outputToken) | return .tokenless
  match e.selectors outputToken with
  | .error error => return .unreadable error
  | .ok (outputTokens, resultKeys, moreResults) =>
    if inputTokens.length ≠ outputTokens.length then
      .error (.tokenCounts name inputTokens.length outputTokens.length)
    if let some token :=
        (inputTokens ++ e.limitKey.toList).find? fun t => !hasInputMember service operation t then
      .error (.notAnInputMember name token)
    return .kept {
      operation := name
      inputTokens
      outputTokens
      limitKey := e.limitKey
      resultKeys
      moreResults }

end PaginatorEntry

/-- The paginators of the entries, by operation. -/
def convertPaginators (service : Service) :
    List (String × PaginatorEntry) → Trace Warning (Table Pagination)
  | [] => pure .empty
  | (name, e) :: rest =>
    match e.convert service name with
    | .error fault => .fail (.paginators fault)
    | .ok (.unreadable error) => do
      .emit (.unreadablePaginator name error)
      convertPaginators service rest
    | .ok .tokenless => convertPaginators service rest
    | .ok (.kept p) => do
      return (← convertPaginators service rest).insert name p

end Clientwright.Definition
