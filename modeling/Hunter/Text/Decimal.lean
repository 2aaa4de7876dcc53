import Mathlib

/-!
Finite decimal numbers: a sign, the digits as a natural number and a power of ten. Two of them
compare as the rational numbers that they stand for, whatever their digits.
-/

structure Decimal where
  negative : Bool
  coefficient : Nat
  exponent : Int
  deriving DecidableEq, Repr

namespace Decimal

def value (d : Decimal) : ℚ :=
  (if d.negative then -(d.coefficient : ℚ) else d.coefficient) * 10 ^ d.exponent

/-- The number is its own rounding to an integer. -/
def isIntegral (d : Decimal) : Bool := d.value.den = 1

/-- The exponent of the most significant digit. -/
def adjusted (d : Decimal) : Int := d.exponent + (Nat.toDigits 10 d.coefficient).length - 1

/-- The exponents that a decimal can have. -/
def bounded (d : Decimal) : Option Decimal :=
  if -1999999999999999997 ≤ d.exponent ∧ d.adjusted ≤ 999999999999999999 then some d else none

/-- The number after a mark and an optional sign. -/
def markedExponent : List Char → Int
  | [] => 0
  | _ :: '-' :: digits => -(Nat.ofDigitChars 10 digits 0 : Int)
  | _ :: '+' :: digits => Nat.ofDigitChars 10 digits 0
  | _ :: digits => Nat.ofDigitChars 10 digits 0

/-- The decimal of a number text: a sign, a whole part, a fraction and an exponent. -/
def ofText (text : List Char) : Option Decimal :=
  let negative := text.head? = some '-'
  let unsigned := if negative then text.tail else text
  let whole := unsigned.takeWhile Char.isDigit
  let rest := unsigned.dropWhile Char.isDigit
  let point := rest.head? = some '.'
  let fraction := if point then rest.tail.takeWhile Char.isDigit else []
  let marked := if point then rest.tail.dropWhile Char.isDigit else rest
  bounded ⟨negative, Nat.ofDigitChars 10 (whole ++ fraction) 0, markedExponent marked - fraction.length⟩

example : ofText "-12.50E+3".toList = some ⟨true, 1250, 1⟩ := by decide

example : (⟨false, 20, -1⟩ : Decimal).value = 2 ∧ (⟨true, 25, -1⟩ : Decimal).isIntegral = false := by
  decide +kernel

end Decimal
