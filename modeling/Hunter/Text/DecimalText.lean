import Hunter.Text.DecimalContext

/-!
The plain text of a decimal number, without an exponent and without zeros at its end. The number
is rounded to the digits there are before it is written.
-/

namespace Decimal

/-- The coefficient and the exponent without zeros at the end, below the greatest exponent. -/
def strip : Nat → Nat → Int → Nat × Int
  | 0, n, e => (n, e)
  | fuel + 1, n, e => if n % 10 = 0 ∧ e < exponentMax then strip fuel (n / 10) (e + 1) else (n, e)

/-- `normalize`. -/
def normalize (d : Decimal) : Option Decimal :=
  (fix d).map fun d =>
    if d.coefficient = 0 then ⟨d.negative, 0, 0⟩
    else
      let (n, e) := strip (digitCount d.coefficient) d.coefficient d.exponent
      ⟨d.negative, n, e⟩

/-- The digits of a number without its sign. -/
def unsignedPlain (coefficient : Nat) (exponent : Int) : List Char :=
  let digits := Nat.toDigits 10 coefficient
  if 0 ≤ exponent then digits ++ List.replicate exponent.toNat '0'
  else
    let places := (-exponent).toNat
    if places < digits.length then
      digits.take (digits.length - places) ++ '.' :: digits.drop (digits.length - places)
    else '0' :: '.' :: (List.replicate (places - digits.length) '0' ++ digits)

/-- `format(number, "f")`. -/
def plain (d : Decimal) : List Char :=
  (if d.negative then ['-'] else []) ++ unsignedPlain d.coefficient d.exponent

def rstrip (c : Char) (text : List Char) : List Char := (text.reverse.dropWhile (· == c)).reverse

/-- `_decimal_text`. -/
def text (d : Decimal) : Option (List Char) :=
  (normalize d).map fun d => if d.isIntegral then plain d else rstrip '.' (rstrip '0' (plain d))

example : (text ⟨false, 12500, -4⟩, text ⟨true, 25, 3⟩, text ⟨false, 70, -4⟩) =
    (some ['1', '.', '2', '5'], some ['-', '2', '5', '0', '0', '0'],
      some ['0', '.', '0', '0', '7']) := by
  decide +kernel

end Decimal
