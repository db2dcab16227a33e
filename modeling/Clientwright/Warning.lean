import Clientwright.Selector.Parser

/-!
# Warnings

What is left out without failing: paginators and waiters that cannot be turned into code. A warning
is a list of named texts, the message first.
-/

namespace Clientwright

/-- Something that was left out. -/
inductive Warning where
  /-- a paginator of the document has a selector that cannot be read -/
  | unreadablePaginator (operation : String) (error : SelectorError)
  /-- no code can be emitted for a paginator -/
  | skippedPaginator (service operation reason : String)
  /-- no code can be emitted for a waiter -/
  | skippedWaiter (service waiter reason : String)
  deriving DecidableEq, Repr

/-- The named texts of the warning. -/
def Warning.fields : Warning → List (String × String)
  | .unreadablePaginator operation error =>
    [("message", "skipping paginator: " ++ error.message), ("operation", operation)]
  | .skippedPaginator service operation reason =>
    [("message", "skipping paginator: " ++ reason), ("service", service),
     ("operation", operation)]
  | .skippedWaiter service waiter reason =>
    [("message", "skipping waiter: " ++ reason), ("service", service), ("waiter", waiter)]

end Clientwright
