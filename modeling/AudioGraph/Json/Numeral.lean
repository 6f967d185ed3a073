import AudioGraph.Json.Cursor

/-!
# Reading numbers

A numeral has a sign, an integer part without leading zeros, and perhaps a fraction and an exponent.  Without the last
two it is an integer, if 64 bits hold it.

Any other numeral is a float.  Its digits form a significand of 64 bits; digits that no longer fit are dropped, and the
power of ten makes up for those of the integer part.  The value is the float nearest to the significand, multiplied or
divided by the float nearest to the power of ten, so that it can be off by the last bit.
-/

namespace AudioGraph

namespace Numeral

/-- The bound of a significand. -/
def significandBound : Nat := Nat.pow 2 64

/-- The bound of a written exponent. -/
def exponentBound : Nat := Nat.pow 2 31

/-- The largest power of ten that a float holds. -/
def greatestPower : Nat := 308

/-- The float nearest to a power of ten. -/
def powerOfTen (k : Nat) : Float := Float.ofScientific 1 false k

/-- A float divided by a power of ten, in steps that a float holds. -/
def divide (x : Float) (k : Nat) : Float :=
  if k ≤ greatestPower then x / powerOfTen k
  else if x == 0 then x
  else divide (x / powerOfTen greatestPower) (k - greatestPower)
termination_by k
decreasing_by simp only [greatestPower] at *; omega

/-- A float multiplied by a power of ten.  Where no finite float comes near, the product is infinite. -/
def multiply (x : Float) (k : Nat) : Float :=
  if k ≤ greatestPower then x * powerOfTen k
  else if x == 0 then x
  else 1 / 0

/-- The float with a given sign, significand and power of ten. -/
def scaled (negative : Bool) (significand : Nat) (exponent : Int) : Float :=
  let magnitude := match exponent with
    | .ofNat k => multiply significand.toUInt64.toFloat k
    | .negSucc k => divide significand.toUInt64.toFloat (k + 1)
  if negative then -magnitude else magnitude

/-- The integer of a sign and a magnitude, if 64 bits hold it.  There is no integer minus zero. -/
def integer? (negative : Bool) (n : Nat) : Option Int :=
  if negative then
    if n = 0 ∨ Nat.pow 2 63 < n then none else some (-n)
  else some n

/-- The value of a digit. -/
def digitValue (c : Char) : Nat := c.toNat - '0'.toNat

/-- Adds digits to a significand as long as they fit, and counts those that fit. -/
def gather (significand : Nat) : List Char → Nat × Nat
  | [] => (significand, 0)
  | d :: rest =>
    let next := significand * 10 + digitValue d
    if next < significandBound then
      let (total, count) := gather next rest
      (total, count + 1)
    else (significand, 0)

/-- What a written exponent comes to: its value, or the rest of its digits when it passes the bound. -/
inductive Exponent where
  | within (value : Nat)
  | beyond

end Numeral

namespace Reader

open Numeral

/-- The float with a given sign, significand and power of ten; it must be finite. -/
def floatNumber (negative : Bool) (significand : Nat) (exponent : Int) : Reader Number :=
  match FiniteFloat.ofFloat? (scaled negative significand exponent) with
  | some x => return .float x
  | none => failHere .numberOutOfRange

/-- Takes the digits of a written exponent one by one, and stops behind the one that passes the bound. -/
def exponentDigits : Nat → Nat → Reader Exponent
  | 0, value => return .within value
  | steps + 1, value => do
    match ← peek? with
    | none => return .within value
    | some c =>
      if c.isDigit then do
        skip
        let next := value * 10 + digitValue c
        if next < exponentBound then exponentDigits steps next else return .beyond
      else return .within value

/-- Reads the exponent of a numeral, from its mark on. -/
def exponentPart (negative : Bool) (significand : Nat) (exponent : Int) : Reader Number := do
  skip
  let sign ← peek?
  if sign = some '+' ∨ sign = some '-' then skip
  match ← peek? with
  | none => failHere .endInValue
  | some c =>
    if c.isDigit then do
      match ← exponentDigits (← limit) 0 with
      | .within value =>
        floatNumber negative significand (if sign = some '-' then exponent - value else exponent + value)
      | .beyond =>
        if significand ≠ 0 ∧ sign ≠ some '-' then failHere .numberOutOfRange
        else do
          let _ ← takeClass Char.isDigit
          floatNumber negative 0 0
    else failNext .invalidNumber

private def isExponentMark (c : Option Char) : Bool := c == some 'e' || c == some 'E'

/-- Reads the fraction of a numeral, from its point on. -/
def fractionPart (negative : Bool) (significand : Nat) (exponent : Int) : Reader Number := do
  skip
  let digits ← takeClass Char.isDigit
  if digits.isEmpty then
    match ← peek? with
    | none => failHere .endInValue
    | some _ => failNext .invalidNumber
  else
    let (total, count) := gather significand digits
    if isExponentMark (← peek?) then exponentPart negative total (exponent - count)
    else floatNumber negative total (exponent - count)

/-- Reads a numeral behind its sign. -/
def unsignedNumber (negative : Bool) : Reader Number := do
  match ← peek? with
  | none => failHere .endInValue
  | some '0' =>
    skip
    match ← peek? with
    | some c => if c.isDigit then failNext .invalidNumber else afterInteger ['0']
    | none => afterInteger ['0']
  | some c => if c.isDigit then do afterInteger (← takeClass Char.isDigit) else failNext .invalidNumber
where
  /-- Goes on behind the digits of the integer part. -/
  afterInteger (digits : List Char) : Reader Number := do
    let (significand, count) := gather 0 digits
    let dropped := digits.length - count
    match ← peek? with
    | some '.' => fractionPart negative significand dropped
    | c =>
      if isExponentMark c then exponentPart negative significand dropped
      else
        match dropped, integer? negative significand with
        | 0, some n => return .int n
        | _, _ => floatNumber negative significand dropped

/-- Reads a number. -/
def number : Reader Number := do
  if (← peek?) = some '-' then do
    skip
    unsignedNumber true
  else unsignedNumber false

end Reader

end AudioGraph
