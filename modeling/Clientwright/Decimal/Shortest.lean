/-!
# The shortest decimal of a double

A finite double stands for an interval of reals: all that round to it. Its shortest decimal is the
one with the fewest digits in that interval and, of those, the one nearest to the double. Both are
found by exact arithmetic on naturals, one digit count after the other.
-/

namespace Clientwright.Decimal

/-- A power of two. -/
def pow2 (n : Nat) : Nat := Nat.pow 2 n

/-- A power of ten. -/
def pow10 (n : Nat) : Nat := Nat.pow 10 n

/-- A finite double without its sign, `m * 2 ^ q`. -/
structure Binary where
  m : Nat
  q : Int
  /-- the gap to the double below is half the gap to the double above -/
  narrowBelow : Bool

/-- Decodes the bits of a finite double. -/
def Binary.ofBits (bits : UInt64) : Binary :=
  let e := ((bits >>> 52) &&& 0x7FF).toNat
  let f := (bits &&& 0xFFFFFFFFFFFFF).toNat
  if e == 0 then ⟨f, -1074, false⟩ else ⟨0x10000000000000 + f, (e : Int) - 1075, f == 0 && e > 1⟩

/-- The decimal `digits * 10 ^ exponent`. -/
structure Dec where
  digits : Nat
  exponent : Int
  deriving DecidableEq, Repr

/-- Compares `a * 10 ^ i` with `n * 2 ^ j`. -/
def compareScaled (a : Nat) (i : Int) (n : Nat) (j : Int) : Ordering :=
  compare (a * pow10 i.toNat * pow2 (-j).toNat) (n * pow2 j.toNat * pow10 (-i).toNat)

/-- Does the decimal lie among the reals that round to the double? The ends of the interval belong
to it exactly when `m` is even. -/
def Binary.holds (x : Binary) (d : Dec) : Bool :=
  let low := if x.narrowBelow then 4 * x.m - 1 else 4 * x.m - 2
  let high := 4 * x.m + 2
  let ends := x.m % 2 == 0
  let atLow := compareScaled d.digits d.exponent low (x.q - 2)
  let atHigh := compareScaled d.digits d.exponent high (x.q - 2)
  (atLow == .gt || (ends && atLow == .eq)) && (atHigh == .lt || (ends && atHigh == .eq))

/-- The least `k` with `m * 2 ^ q < 10 ^ k`, for a double that is not zero. -/
def Binary.scale (x : Binary) : Int :=
  let guess := ((x.m.log2 : Int) + x.q) * 30103 / 100000
  let above (k : Int) : Bool := compareScaled 1 k x.m x.q == .gt
  (([guess - 1, guess, guess + 1, guess + 2] : List Int).find? above).getD (guess + 3)

/-- The decimal in the interval that is nearest to the double among the multiples of
`10 ^ exponent`; of two equally near ones the even one. -/
def Binary.nearest? (x : Binary) (exponent : Int) : Option Dec :=
  let num := x.m * pow2 x.q.toNat * pow10 (-exponent).toNat
  let den := pow2 (-x.q).toNat * pow10 exponent.toNat
  let below : Dec := ⟨num / den, exponent⟩
  let above : Dec := ⟨num / den + 1, exponent⟩
  let preferAbove :=
    match compare (2 * (num % den)) den with
    | .lt => false
    | .gt => true
    | .eq => below.digits % 2 == 1
  if preferAbove then [above, below].find? x.holds else [below, above].find? x.holds

/-- A decimal without zeros at its end. -/
def Dec.strip (d : Dec) : Dec :=
  let zeros := ((Nat.toDigits 10 d.digits).reverse.takeWhile (· == '0')).length
  if d.digits == 0 then d else ⟨d.digits / pow10 zeros, d.exponent + zeros⟩

/-- The shortest decimal of a double that is not zero. Seventeen digits always suffice. -/
def Binary.shortest (x : Binary) : Dec :=
  let k := x.scale
  match (List.range 17).findSome? fun (n : Nat) => x.nearest? (k - (n + 1 : Nat)) with
  | some d => d.strip
  | none => Dec.strip ⟨x.m * pow2 x.q.toNat * Nat.pow 5 (-x.q).toNat, min x.q 0⟩

end Clientwright.Decimal
