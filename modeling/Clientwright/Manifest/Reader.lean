import Clientwright.Error
import Clientwright.Manifest.Basic
import Clientwright.Yaml.Reader

/-!
# Reading manifests

Which type a scalar has depends on the field: a text may be written in any way, also as what looks
like a number; an optional text is missing where null is written plainly.
-/

namespace Clientwright

open Yaml

namespace ManifestReader

/-- The tag of null. -/
def nullTag : String := "tag:yaml.org,2002:null"

/-- The tag of integers. -/
def integerTag : String := "tag:yaml.org,2002:int"

/-- Is this a way to write null? -/
def isNull (text : String) : Bool := ["~", "null", "Null", "NULL"].contains text

/-- Is this a scalar that is not written at all? -/
def isMissing : Node → Bool
  | .scalar s => s.style = .plain && s.text.isEmpty
  | _ => false

/-- Reads a text. -/
def text? (d : Yaml.Document) (n : Node) : Option String :=
  match d.follow n with
  | some (.scalar s) => some s.text
  | _ => none

/-- Does a plain scalar stand for null? One with a tag does only if the tag says so, and then it has
to be null. -/
def plainNull? (s : Scalar) : Option Bool :=
  match s.tag with
  | some tag =>
    if tag = nullTag then if isNull s.text then some true else none else some false
  | none => some (s.text.isEmpty || isNull s.text)

/-- Reads a text that may be null. -/
def optionalText? (d : Yaml.Document) (n : Node) : Option (Option String) :=
  match d.follow n with
  | some (.scalar s) =>
    if s.style = .plain then do
      if ← plainNull? s then return none
      return some s.text
    else some (some s.text)
  | _ => none

/-- The digits of a number in some base, as many of them as one likes. -/
def digits? (base : Nat) (digits : List Char) : Option Nat :=
  if digits.isEmpty then none
  else digits.foldlM (fun n c => do
    let v ← hexValue? c
    if v < base then some (base * n + v) else none) 0

/-- The base that a number is written in, and the digits after its mark. -/
def base? : List Char → Option (Nat × List Char)
  | '0' :: 'x' :: rest => some (16, rest)
  | '0' :: 'o' :: rest => some (8, rest)
  | '0' :: 'b' :: rest => some (2, rest)
  | _ => none

/-- Is this more than one digit with a zero at the start? Such a text is not a number. -/
def isPadded (s : List Char) : Bool :=
  s.length > 1 && s.head? = some '0' && s.all Char.isDigit

/-- The number that a text stands for. -/
def number? (text : String) : Option Nat :=
  let s := (Text.dropStart? ['+'] text.toList).getD text.toList
  match base? s with
  | some (base, rest) => digits? base rest
  | none => if isPadded s then none else digits? 10 s

/-- Reads a number of 32 bits, which has to be written plainly or be declared as an integer. -/
def number32? (d : Yaml.Document) (n : Node) : Option Nat :=
  match d.follow n with
  | some (.scalar s) =>
    if s.style = .plain || (s.style = .literal && s.tag = some integerTag) then
      (number? s.text).filter (· < UInt32.size)
    else none
  | _ => none

/-- Reads a list of texts. -/
def texts? (d : Yaml.Document) (n : Node) : Option (List String) :=
  match d.follow n with
  | some (.sequence items) => items.mapM (text? d)
  | some n => if isMissing n then some [] else none
  | none => none

/-- The entries of a mapping under texts as keys. -/
def entries? (d : Yaml.Document) (n : Node) : Option (List (String × Node)) :=
  match d.follow n with
  | some (.mapping entries) =>
    entries.mapM fun (key, value) => (text? d key).map (·, value)
  | some n => if isMissing n then some [] else none
  | none => none

/-- The entries of a mapping that are known fields, none of them twice. -/
def fields? (d : Yaml.Document) (known : List String) (n : Node) : Option (List (String × Node)) := do
  let fields := (← entries? d n).filter fun (name, _) => known.contains name
  if (fields.map (·.1)).Nodup then some fields else none

/-- Reads a field that has a default. -/
def withDefault {α : Type} (fields : List (String × Node)) (name : String)
    (read : Node → Option α) (default : α) : Option α :=
  match fields.lookup name with
  | some n => read n
  | none => some default

/-- Reads a service. -/
def entryOf? (d : Yaml.Document) (n : Node) : Option ManifestEntry := do
  let fields ← fields? d ["source", "pagination", "waiter", "methods", "crate_name"] n
  return {
    definition := ← fields.lookup "source" >>= text? d
    paginators := ← withDefault fields "pagination" (optionalText? d) none
    waiters := ← withDefault fields "waiter" (optionalText? d) none
    operations := ← withDefault fields "methods" (texts? d) []
    crateName := ← withDefault fields "crate_name" (optionalText? d) none }

/-- Reads a manifest. -/
def manifest? (d : Yaml.Document) : Option Manifest := do
  let fields ← fields? d ["version", "crate_prefix", "crate_version", "output", "services"] d.root
  let services ← fields.lookup "services" >>= entries? d
  return {
    version := ← fields.lookup "version" >>= number32? d
    cratePrefix := ← withDefault fields "crate_prefix" (text? d) Manifest.defaultPrefix
    crateVersion := ← withDefault fields "crate_version" (text? d) defaultVersion
    output := ← withDefault fields "output" (optionalText? d) none
    services := .ofList (← services.mapM fun (name, n) => (entryOf? d n).map ((name, ·)))
    directory := "" }

end ManifestReader

namespace Manifest

/-- What a manifest has to satisfy. -/
def check (m : Manifest) : Except SelectionFault Manifest :=
  if m.version ≠ supportedVersion then
    .error (.unsupportedVersion m.version supportedVersion)
  else if m.services.entries.isEmpty then .error .noServices
  else .ok m

/-- Reads a manifest, whose paths are relative to the working directory. -/
def ofText (text : String) : Except Error Manifest := do
  let some d := Yaml.Document.ofText? text | .error (.malformed .manifest)
  let some m := ManifestReader.manifest? d | .error (.malformed .manifest)
  m.check.mapError .selection

end Manifest

end Clientwright
