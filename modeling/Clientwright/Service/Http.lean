import Clientwright.Text.Pieces

/-!
# HTTP bindings

An operation names its method and a URI template. The template's path may hold placeholders in
braces, and whatever follows a question mark is a fixed query.
-/

namespace Clientwright

/-- HTTP binding of an operation. -/
structure HttpBinding where
  method : String
  /-- URI template -/
  requestUri : String
  responseCode : Option Nat
  deriving DecidableEq, Repr

/-- A placeholder of a path; a greedy one may span several path segments. -/
structure Placeholder where
  name : String
  greedy : Bool
  deriving DecidableEq, Repr

namespace Placeholder

/-- The placeholder that stands between braces as the given text. -/
def ofInner (inner : List Char) : Placeholder :=
  if inner.getLast? = some '+' then ⟨String.ofList inner.dropLast, true⟩
  else ⟨String.ofList inner, false⟩

/-- The placeholder as it stands in a path. -/
def text (p : Placeholder) : String :=
  "\x7b" ++ p.name ++ (if p.greedy then "+" else "") ++ "\x7d"

/-- The placeholders of a path, in order. `inner` holds what has been read since an opening brace,
last character first; a brace that is never closed opens nothing. -/
def scan (inner : Option (List Char)) : List Char → List Placeholder
  | [] => []
  | c :: rest =>
    match inner with
    | none => scan (if c = '\x7b' then some [] else none) rest
    | some read =>
      if c = '\x7d' then ofInner read.reverse :: scan none rest else scan (some (c :: read)) rest

end Placeholder

namespace HttpBinding

/-- The part of the URI before the first question mark. -/
def path (b : HttpBinding) : String :=
  String.ofList (b.requestUri.toList.takeWhile (· ≠ '?'))

/-- A query parameter as a key and a value; without an equals sign the value is empty. -/
def parameter (pair : List Char) : String × String :=
  match Text.cutAt? (· = '=') pair with
  | some (key, value) => (String.ofList key, String.ofList value)
  | none => (String.ofList pair, "")

/-- The query parameters that the URI itself fixes. -/
def staticQuery (b : HttpBinding) : List (String × String) :=
  match Text.cutAt? (· = '?') b.requestUri.toList with
  | none => []
  | some (_, query) =>
    ((Text.splitAt (· = '&') query).filter fun pair => !pair.isEmpty).map parameter

/-- The placeholders of the path, in order. -/
def placeholders (b : HttpBinding) : List Placeholder :=
  Placeholder.scan none b.path.toList

end HttpBinding

end Clientwright
