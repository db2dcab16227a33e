/-!
# JSON values

A value keeps its members in the order of the text, repeated names included: which of two equal
names counts is a matter of what the value is read as. A number keeps its digits, so that a reader
decides whether it wants an integer or a double.
-/

namespace Clientwright

/-- A JSON number as it is written. -/
structure JsonNumber where
  negative : Bool
  /-- the digits before the point, without needless zeros -/
  whole : List Nat
  /-- the digits after the point, none if there is no point -/
  fraction : List Nat
  /-- the exponent, if one is written -/
  exponent : Option Int
  deriving DecidableEq, Repr

/-- A JSON value. -/
inductive Json where
  | null
  | bool (b : Bool)
  | number (n : JsonNumber)
  | string (s : String)
  | array (items : List Json)
  | object (members : List (String × Json))
  /-- A value in correct syntax that denotes nothing: a string with an unpaired surrogate, or an
  object with such a name. It is harmless where a value is skipped and wrong everywhere else. -/
  | garbled
  deriving Repr, Inhabited

namespace JsonNumber

/-- The value of a sequence of digits. -/
def valueOf (digits : List Nat) : Nat :=
  digits.foldl (fun n d => 10 * n + d) 0

/-- Is the number written without point and exponent? Minus zero is no integer. -/
def isInteger (n : JsonNumber) : Bool :=
  n.fraction.isEmpty && n.exponent.isNone && !(n.negative && valueOf n.whole == 0)

/-- The number as an integer, if it is written as one. -/
def toInt? (n : JsonNumber) : Option Int :=
  if n.isInteger then
    some (if n.negative then -(valueOf n.whole : Int) else valueOf n.whole)
  else none

/-- The number as a natural number below the bound. -/
def toNatBelow? (bound : Nat) (n : JsonNumber) : Option Nat :=
  match n.toInt? with
  | some (.ofNat k) => if k < bound then some k else none
  | _ => none

/-- The decimal digits of a natural number, most significant first. -/
def digitsOf (n : Nat) : List Nat :=
  (Nat.toDigits 10 n).map fun c => c.toNat - '0'.toNat

/-- An integer as a number. -/
def ofInt (i : Int) : JsonNumber :=
  { negative := i < 0, whole := digitsOf i.natAbs, fraction := [], exponent := none }

end JsonNumber

namespace Json

/-- A natural number as a value. -/
def ofNat (n : Nat) : Json := .number (.ofInt n)

/-- A text or null. -/
def ofOption {α : Type} (f : α → Json) : Option α → Json
  | some a => f a
  | none => .null

mutual

/-- How deeply arrays and objects are nested in the value. -/
def depth : Json → Nat
  | .array items => depthOfItems items + 1
  | .object members => depthOfMembers members + 1
  | _ => 0

/-- The greatest depth of the items. -/
def depthOfItems : List Json → Nat
  | [] => 0
  | v :: rest => max (depth v) (depthOfItems rest)

/-- The greatest depth of the members' values. -/
def depthOfMembers : List (String × Json) → Nat
  | [] => 0
  | (_, v) :: rest => max (depth v) (depthOfMembers rest)

end

/-- How deeply a document may nest arrays and objects around a value that is kept. -/
def maxDepth : Nat := 127

end Json

end Clientwright
