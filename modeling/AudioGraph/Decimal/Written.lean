import AudioGraph.Decimal.Shortest

/-!
# Written floats

The text of a float: its shortest digits, in plain notation near one and with an exponent elsewhere.  Plain notation
always has a decimal, and an exponent always has a sign, so that a float is never read as an integer.
-/

namespace AudioGraph

/-- Which exponents of the first digit are written in plain notation: from `least` up to, not including, `bound`. -/
structure PlainRange where
  least : Int
  bound : Int

namespace Decimal

/-- Floats from `0.00001` up to, not including, `10 ^ 16` are written in plain notation. -/
def plainRange : PlainRange := ⟨-5, 16⟩

private def zeros (n : Nat) : String := String.ofList (List.replicate n '0')

/-- Digits with a point among them, before them or behind them. -/
def plain (d : Decimal) : String :=
  let digits := Nat.toDigits 10 d.digits
  if 0 ≤ d.exponent then String.ofList digits ++ zeros d.exponent.toNat ++ ".0"
  else
    let places := (-d.exponent).toNat
    if places < digits.length then
      let whole := digits.length - places
      String.ofList (digits.take whole) ++ "." ++ String.ofList (digits.drop whole)
    else "0." ++ zeros (places - digits.length) ++ String.ofList digits

/-- One digit before the point, and the power of ten. -/
def scientific (d : Decimal) : String :=
  let digits := Nat.toDigits 10 d.digits
  let exponent := d.exponent + (digits.length : Int) - 1
  let fraction := digits.drop 1
  let point := if fraction.isEmpty then "" else "."
  let sign := if exponent < 0 then "-" else "+"
  String.ofList (digits.take 1) ++ point ++ String.ofList fraction ++ "e" ++ sign ++ toString exponent.natAbs

/-- The text of a decimal. -/
def text (d : Decimal) : String :=
  let lead := d.exponent + ((Nat.toDigits 10 d.digits).length : Int) - 1
  if plainRange.least ≤ lead ∧ lead < plainRange.bound then d.plain else d.scientific

/-- The text of a finite float. -/
def floatText (x : Float) : String :=
  let sign := if x.toBits.toNat / Nat.pow 2 63 = 1 then "-" else ""
  if x == 0 then sign ++ "0.0" else sign ++ (shortest x).text

example : [440.0, 0.1, 0.00001, 1e15, -0.0].map floatText =
    ["440.0", "0.1", "0.00001", "1000000000000000.0", "-0.0"] := by
  decide +kernel

example : [1e16, 1.5e-6, 5e-324].map floatText = ["1e+16", "1.5e-6", "5e-324"] := by
  decide +kernel

end Decimal

end AudioGraph
