import Clientwright.Json.Basic
import Clientwright.Table
import Clientwright.Word

/-!
# Reading values as records

A record is an object with fields that are known. Fields that are not known are skipped, whatever
they hold; a known field may not be repeated. In a map every name is a key: there a repeated name
is no fault, and its last value counts.

A record is read from an object only. Lenient readers also take a list for it that holds the values
of the fields in order; no document is written that way, and here it is refused like any other
value that is no object.
-/

namespace Clientwright.Json

/-- The known fields of an object. -/
structure Record where
  fields : List (String × Json)

/-- The object as a record with the given fields, unless it repeats one of them. No other value is
a record, not even a list of the fields' values. -/
def record? (known : List String) : Json → Option Record
  | .object members =>
    let fields := members.filter fun (name, _) => known.contains name
    if (fields.map (·.1)).Nodup then some ⟨fields⟩ else none
  | _ => none

namespace Record

variable {α : Type}

/-- The value of a field. -/
def get? (r : Record) (name : String) : Option Json := r.fields.lookup name

/-- A field that must be there. -/
def required (r : Record) (name : String) (read : Json → Option α) : Option α :=
  r.get? name >>= read

/-- A field that may be missing or null. -/
def optional (r : Record) (name : String) (read : Json → Option α) : Option (Option α) :=
  match r.get? name with
  | none | some .null => some none
  | some v => (read v).map some

/-- A field with a default for when it is missing; null is no value for it. -/
def withDefault (r : Record) (name : String) (read : Json → Option α) (default : α) : Option α :=
  match r.get? name with
  | none => some default
  | some v => read v

end Record

/-- A text. -/
def string? : Json → Option String
  | .string s => some s
  | _ => none

/-- A truth value. -/
def bool? : Json → Option Bool
  | .bool b => some b
  | _ => none

/-- A natural number below the bound. -/
def natBelow? (bound : Nat) : Json → Option Nat
  | .number n => n.toNatBelow? bound
  | _ => none

/-- A natural number of 16 bits. -/
def nat16? : Json → Option Nat := natBelow? UInt16.size

/-- A natural number of 32 bits. -/
def nat32? : Json → Option Nat := natBelow? UInt32.size

/-- An integer of 64 bits. -/
def int64? : Json → Option Int
  | .number n => n.toInt?.filter fitsInt64
  | _ => none

/-- A list, all of whose items can be read. -/
def list? {α : Type} (read : Json → Option α) : Json → Option (List α)
  | .array items => items.mapM read
  | _ => none

/-- The members of an object, all of whose values can be read. -/
def members? {α : Type} (read : Json → Option α) : Json → Option (List (String × α))
  | .object members => members.mapM fun (name, v) => (read v).map ((name, ·))
  | _ => none

/-- A map in the order of the text. -/
def entries? {α : Type} (read : Json → Option α) (v : Json) : Option (List (String × α)) :=
  (members? read v).map mergeEntries

/-- A map in the order of the names. -/
def table? {α : Type} (read : Json → Option α) (v : Json) : Option (Table α) :=
  (members? read v).map Table.ofList

end Clientwright.Json
