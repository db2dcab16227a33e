import Clientwright.Json.Basic
import Clientwright.Decimal.Shortest
import Clientwright.Word

/-!
# Numbers as doubles

A number with a point or an exponent, or one outside the 64-bit integers, is kept as a double. It is
read with one rounding for its digits and one for its scale: as many digits are taken as an unsigned
64-bit integer holds, and the result is scaled by a power of ten. It is written back with the fewest
digits that identify it.
-/

namespace Clientwright.JsonNumber

/-- The digits that fit an unsigned 64-bit integer together with `value`, and how many follow. -/
def fitDigits (value : Nat) : List Nat → Nat × Nat
  | [] => (value, 0)
  | d :: rest =>
    if 10 * value + d < UInt64.size then fitDigits (10 * value + d) rest else (value, (d :: rest).length)

/-- Divides by ten to the power of `e`, in blocks of 308 as long as something is left. -/
def scaleDown (blocks : Nat) (x : Float) (e : Nat) : Float :=
  match blocks with
  | 0 => x / Float.ofScientific 1 false e
  | blocks + 1 =>
    if e ≤ 308 then x / Float.ofScientific 1 false e
    else if x == 0 then x
    else scaleDown blocks (x / Float.ofScientific 1 false 308) (e - 308)

/-- The magnitude of the number as a double, unless it is too large for one. -/
def magnitude? (n : JsonNumber) : Option Float :=
  let (whole, dropped) := fitDigits 0 n.whole
  let (value, unused) := fitDigits whole n.fraction
  let written := n.exponent.getD 0
  let exponent : Int := dropped - (n.fraction.length - unused : Nat) + written
  let x := Float.ofNat value
  if value == 0 then some x
  else if exponent < 0 then some (scaleDown (exponent.natAbs / 308) x exponent.natAbs)
  else if exponent ≤ 308 then
    let y := x * Float.ofScientific 1 false exponent.toNat
    if y.isInf then none else some y
  else none

/-- Does the double fit in positional notation, with the given exponent of its first digit? -/
def isPositional (lead : Int) : Bool := -5 ≤ lead && lead ≤ 15

/-- The decimal as text: positional if the exponent of the first digit is from -5 to 15, otherwise
with an exponent that always has a sign; an integral value keeps `.0`. -/
def decimalText (d : Decimal.Dec) : String :=
  let digits := Nat.toDigits 10 d.digits
  let lead : Int := d.exponent + digits.length - 1
  let zeros (n : Int) : List Char := List.replicate n.toNat '0'
  String.ofList <|
    if isPositional lead then
      if 0 ≤ d.exponent then digits ++ zeros d.exponent ++ ['.', '0']
      else if 0 ≤ lead then
        let before := (lead + 1).toNat
        digits.take before ++ '.' :: digits.drop before
      else '0' :: '.' :: zeros (-lead - 1) ++ digits
    else
      let mantissa :=
        match digits with
        | [c] => [c]
        | c :: rest => c :: '.' :: rest
        | [] => []
      let sign := if lead < 0 then '-' else '+'
      mantissa ++ 'e' :: sign :: Nat.toDigits 10 lead.natAbs

/-- The text of a magnitude. -/
def doubleText (x : Float) : String :=
  if x == 0 then "0.0" else decimalText (Decimal.Binary.ofBits x.toBits).shortest

/-- Does the number fit the 64-bit integers, signed or unsigned? -/
def fitsInteger (i : Int) : Bool := fitsInt64 i || fitsUInt64 i

/-- The number as it is written back, unless it is out of range: integers of 64 bits as they are,
every other number as a double. -/
def text? (n : JsonNumber) : Option String :=
  match n.toInt? with
  | some i => if fitsInteger i then some (toString i) else double
  | none => double
where
  /-- the number as a double -/
  double : Option String :=
    n.magnitude?.map fun x => (if n.negative then "-" else "") ++ doubleText x

end Clientwright.JsonNumber
