/-!
# The fewest digits that read back

A finite float stands for the reals that round to it, an interval around its own value.  `Decimal.shortest` is the
decimal with the fewest digits in that interval, of two such the nearer one, and of two equally near the one with
the even last digit.  All arithmetic is exact, on natural numbers.
-/

namespace AudioGraph

/-- The decimal number `digits · 10 ^ exponent`. -/
structure Decimal where
  digits : Nat
  exponent : Int
  deriving DecidableEq, Inhabited

/-- A positive binary number `4 · mantissa · 2 ^ exponent`, with the distance from four times its mantissa to the
lower end of its interval; the upper end is at distance two. -/
structure Dyadic where
  mantissa : Nat
  exponent : Int
  below : Nat

namespace Dyadic

/-- The magnitude of a finite float.  Below a power of two the floats lie twice as close. -/
def ofFloat (x : Float) : Dyadic :=
  let bits := x.toBits.toNat
  let biased : Nat := bits / Nat.pow 2 52 % Nat.pow 2 11
  let fraction : Nat := bits % Nat.pow 2 52
  if biased = 0 then ⟨fraction, -1076, 2⟩
  else ⟨Nat.pow 2 52 + fraction, Int.ofNat biased - 1077, if fraction = 0 ∧ 1 < biased then 1 else 2⟩

/-- The factor of binary quarter units in a comparison with multiples of `10 ^ k`. -/
def unitScale (x : Dyadic) (k : Int) : Nat := Nat.pow 2 x.exponent.toNat * Nat.pow 10 (-k).toNat

/-- The factor of multiples of `10 ^ k` in a comparison with binary quarter units. -/
def gridScale (x : Dyadic) (k : Int) : Nat := Nat.pow 10 k.toNat * Nat.pow 2 (-x.exponent).toNat

/-- Whether `d · 10 ^ k` rounds to the number: the ends of the interval belong to it when the mantissa is even. -/
def covers (x : Dyadic) (k : Int) (d : Nat) : Bool :=
  let lower := (4 * x.mantissa - x.below) * x.unitScale k
  let upper := (4 * x.mantissa + 2) * x.unitScale k
  let point := d * x.gridScale k
  if x.mantissa % 2 = 0 then decide (lower ≤ point ∧ point ≤ upper)
  else decide (lower < point ∧ point < upper)

/-- The multiple of `10 ^ k` that rounds to the number and is nearest to it, if one rounds to it at all. -/
def onGrid? (x : Dyadic) (k : Int) : Option Nat :=
  let value := 4 * x.mantissa * x.unitScale k
  let d := value / x.gridScale k
  match x.covers k d, x.covers k (d + 1) with
  | true, true =>
    let middle := (2 * d + 1) * x.gridScale k
    if 2 * value < middle then some d
    else if middle < 2 * value then some (d + 1)
    else some (if d % 2 = 0 then d else d + 1)
  | true, false => some d
  | false, true => some (d + 1)
  | false, false => none

/-- The exponent of the first decimal digit of the number. -/
def leadingExponent (x : Dyadic) : Int :=
  let top := 4 * x.mantissa * x.unitScale 0
  let bottom := x.gridScale 0
  if bottom ≤ top then ((Nat.toDigits 10 (top / bottom)).length : Int) - 1
  else
    let places := (Nat.toDigits 10 (bottom / top)).length
    if bottom ≤ top * Nat.pow 10 (places - 1) then -((places : Int) - 1) else -(places : Int)

end Dyadic

namespace Decimal

/-- The same number without zeros at the end of its digits. -/
def strip (d : Decimal) : Decimal :=
  if h : d.digits ≠ 0 ∧ d.digits % 10 = 0 then strip ⟨d.digits / 10, d.exponent + 1⟩ else d
termination_by d.digits
decreasing_by omega

/-- The magnitude of a finite float other than zero, in the fewest digits that read back.  Seventeen digits always
read back. -/
def shortest (x : Float) : Decimal :=
  let v := Dyadic.ofFloat x
  let lead := v.leadingExponent
  let found := (List.range 18).findSome? fun (i : Nat) =>
    let k := lead - Int.ofNat i
    (v.onGrid? k).map fun d => (⟨d, k⟩ : Decimal)
  (found.getD ⟨0, 0⟩).strip

end Decimal

end AudioGraph
