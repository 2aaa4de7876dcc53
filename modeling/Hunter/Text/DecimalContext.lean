import Mathlib
import Hunter.Text.Decimal
import Hunter.Text.Words

/-!
Decimal arithmetic with 28 significant digits. A sum is formed exactly and then rounded, half to
even, to the digits and exponents there are; one that is too large is an error. A sum that fits
is not changed by the rounding.
-/

namespace Decimal

/-- `Decimal(text)`, where it is a finite number. -/
def parse (text : List Char) : Option Decimal :=
  let plain := (Chars.strip text).filter fun c => c ≠ '_'
  let negative := plain.head? = some '-'
  let unsigned := if negative ∨ plain.head? = some '+' then plain.tail else plain
  let whole := unsigned.takeWhile Char.isDigit
  let rest := unsigned.dropWhile Char.isDigit
  let point := rest.head? = some '.'
  let fraction := if point then rest.tail.takeWhile Char.isDigit else []
  let marked := if point then rest.tail.dropWhile Char.isDigit else rest
  let exponent := if marked.tail.head? = some '-' ∨ marked.tail.head? = some '+' then
    marked.tail.tail else marked.tail
  let mark := marked = [] ∨ (marked.head? = some 'e' ∨ marked.head? = some 'E') ∧ exponent ≠ [] ∧
    exponent.all Char.isDigit
  if whole ++ fraction ≠ [] ∧ mark then
    bounded ⟨negative, Nat.ofDigitChars 10 (whole ++ fraction) 0, markedExponent marked - fraction.length⟩
  else none

example : parse " +1_250.50".toList = some ⟨false, 125050, -2⟩ ∧ parse "12a".toList = none := by
  decide

def signed (d : Decimal) : Int := if d.negative then -(d.coefficient : Int) else d.coefficient

/-- The coefficient at a lower exponent. -/
def scaled (d : Decimal) (exponent : Int) : Int := d.signed * 10 ^ (d.exponent - exponent).toNat

def exactSum (a b : Decimal) : Decimal :=
  let exponent := min a.exponent b.exponent
  let total := a.scaled exponent + b.scaled exponent
  ⟨if total = 0 then a.negative && b.negative else total < 0, total.natAbs, exponent⟩

theorem value_eq_signed (d : Decimal) : d.value = d.signed * (10 : ℚ) ^ d.exponent := by
  unfold value signed
  split <;> simp

theorem scaled_value (d : Decimal) {exponent : Int} (below : exponent ≤ d.exponent) :
    (d.scaled exponent : ℚ) * (10 : ℚ) ^ exponent = d.value := by
  have split : d.exponent = ((d.exponent - exponent).toNat : Int) + exponent := by omega
  rw [value_eq_signed]
  conv_rhs => rw [split, zpow_add₀ (by norm_num : (10 : ℚ) ≠ 0), zpow_natCast]
  rw [scaled]
  push_cast
  ring

theorem value_exactSum (a b : Decimal) : (exactSum a b).value = a.value + b.value := by
  have first := a.scaled_value (min_le_left a.exponent b.exponent)
  have second := b.scaled_value (min_le_right a.exponent b.exponent)
  have total : ((exactSum a b).signed : Int) =
      a.scaled (min a.exponent b.exponent) + b.scaled (min a.exponent b.exponent) := by
    simp only [exactSum]
    generalize a.scaled (min a.exponent b.exponent) + b.scaled (min a.exponent b.exponent) = total
    by_cases none : total = 0
    · rw [none]
      simp [signed]
    · simp only [signed, none, if_false, decide_eq_true_eq]
      split <;> omega
  rw [value_eq_signed, total, ← first, ← second]
  push_cast
  exact add_mul _ _ _

def precision : Nat := 28

def exponentMax : Int := 999999

/-- The least exponent of a number. -/
def exponentTiny : Int := -1000026

/-- The greatest exponent of a number of all the digits there are. -/
def exponentTop : Int := 999972

def halfEven (n divisor : Nat) : Nat :=
  if divisor < 2 * (n % divisor) ∨ 2 * (n % divisor) = divisor ∧ n / divisor % 2 = 1 then n / divisor + 1
  else n / divisor

/-- The exponent of the last digit that is kept. -/
def lastPlace (d : Decimal) : Int := d.exponent + Nat.log 10 d.coefficient + 1 - precision

/-- There is no result where the number is too large. -/
def fix (d : Decimal) : Option Decimal :=
  if d.coefficient = 0 then
    some { d with exponent := max (min d.exponent exponentMax) exponentTiny }
  else if exponentTop < d.lastPlace then none
  else
    let place := max d.lastPlace exponentTiny
    if d.exponent < place then
      let rounded := halfEven d.coefficient (10 ^ (place - d.exponent).toNat)
      let carried := if 10 ^ precision ≤ rounded then (rounded / 10, place + 1) else (rounded, place)
      if exponentTop < carried.2 then none else some ⟨d.negative, carried.1, carried.2⟩
    else some d

def plus (a b : Decimal) : Option Decimal := fix (exactSum a b)

def negate (d : Decimal) : Decimal := { d with negative := !d.negative }

def minus (a b : Decimal) : Option Decimal := plus a b.negate

def digitCount (n : Nat) : Nat := (Nat.toDigits 10 n).length

/-- The quotient by a number that is not zero. It is taken to a digit more than are kept, and where
it is not exact to a last digit that no rounding mistakes for a tie. -/
def divide (a b : Decimal) : Option Decimal :=
  let shift : Int := digitCount b.coefficient - digitCount a.coefficient + precision + 1
  let numerator := a.coefficient * 10 ^ shift.toNat
  let denominator := b.coefficient * 10 ^ (-shift).toNat
  let quotient := numerator / denominator
  let kept := if numerator % denominator ≠ 0 ∧ quotient % 5 = 0 then quotient + 1 else quotient
  fix ⟨a.negative ^^ b.negative, kept, a.exponent - b.exponent - shift⟩

example : divide ⟨false, 2, 0⟩ ⟨true, 3, 0⟩ = some ⟨true, 6666666666666666666666666667, -28⟩ := by
  decide

def zero : Decimal := ⟨false, 0, 0⟩

/-- `sum(numbers, start=Decimal(0))`. -/
def sum (numbers : List Decimal) : Option Decimal := numbers.foldlM plus zero

/-- The number has no more significant digits, and none further down, than there are. -/
def Fits (r : ℚ) : Prop :=
  ∃ c e : Int, c.natAbs < 10 ^ precision ∧ exponentTiny ≤ e ∧ r = c * (10 : ℚ) ^ e

theorem halfEven_mul (q : Nat) {divisor : Nat} (pos : 0 < divisor) : halfEven (q * divisor) divisor = q := by
  simp only [halfEven, Nat.mul_mod_left, Nat.mul_div_cancel q pos]
  rw [if_neg (by omega)]

/-- The digits of a number that fits end at the last place that is kept. -/
theorem dvd_of_fits {d : Decimal} (nonzero : d.coefficient ≠ 0) (fits : Fits d.value)
    (below : d.exponent < max d.lastPlace exponentTiny) :
    10 ^ (max d.lastPlace exponentTiny - d.exponent).toNat ∣ d.coefficient := by
  obtain ⟨c, e, small, tiny, same⟩ := fits
  have ten : (10 : ℚ) ≠ 0 := by norm_num
  have sizes : (d.coefficient : ℚ) * (10 : ℚ) ^ d.exponent = (c.natAbs : ℚ) * (10 : ℚ) ^ e := by
    have abs := congrArg (fun r : ℚ => |r|) same
    rw [value_eq_signed] at abs
    simp only [abs_mul, abs_zpow, Nat.abs_ofNat] at abs
    have left : |(d.signed : ℚ)| = d.coefficient := by
      unfold signed
      split <;> simp
    have right : |(c : ℚ)| = (c.natAbs : ℚ) := by
      rw [Nat.cast_natAbs, Int.cast_abs]
    rwa [left, right] at abs
  by_cases high : max d.lastPlace exponentTiny ≤ e
  · -- the number is a multiple of a power of ten that is not below the last place
    have whole : d.coefficient = c.natAbs * 10 ^ (e - d.exponent).toNat := by
      have exponents : e = ((e - d.exponent).toNat : Int) + d.exponent := by omega
      rw [exponents, zpow_add₀ ten, zpow_natCast, ← mul_assoc] at sizes
      have cancelled := mul_right_cancel₀ (zpow_ne_zero _ ten) sizes
      exact_mod_cast cancelled
    rw [whole]
    exact Dvd.dvd.mul_left (pow_dvd_pow 10 (by omega)) _
  · -- then its first digit would stand above all that fits
    exfalso
    have place : max d.lastPlace exponentTiny = d.lastPlace := by omega
    rw [place] at high
    have leading : 10 ^ Nat.log 10 d.coefficient ≤ d.coefficient := Nat.pow_log_le_self 10 nonzero
    have large : (10 : ℚ) ^ ((Nat.log 10 d.coefficient : Int) + d.exponent) ≤
        (d.coefficient : ℚ) * (10 : ℚ) ^ d.exponent := by
      rw [zpow_add₀ ten, zpow_natCast]
      refine mul_le_mul_of_nonneg_right ?_ (by positivity)
      exact_mod_cast leading
    have little : (c.natAbs : ℚ) * (10 : ℚ) ^ e < (10 : ℚ) ^ ((precision : Int) + e) := by
      rw [zpow_add₀ ten, zpow_natCast]
      refine mul_lt_mul_of_pos_right ?_ (by positivity)
      exact_mod_cast small
    have exponents : (precision : Int) + e ≤ (Nat.log 10 d.coefficient : Int) + d.exponent := by
      have last : d.lastPlace = d.exponent + Nat.log 10 d.coefficient + 1 - precision := rfl
      omega
    have bound : (10 : ℚ) ^ ((precision : Int) + e) ≤
        (10 : ℚ) ^ ((Nat.log 10 d.coefficient : Int) + d.exponent) :=
      zpow_le_zpow_right₀ (by norm_num) exponents
    linarith

theorem fix_exact {d result : Decimal} (fixed : fix d = some result) (fits : Fits d.value) :
    result.value = d.value := by
  unfold fix at fixed
  by_cases none : d.coefficient = 0
  · rw [if_pos none] at fixed
    cases fixed
    simp [value, none]
  rw [if_neg none] at fixed
  split at fixed
  · cases fixed
  · dsimp only at fixed
    split at fixed
    · rename_i below
      obtain ⟨q, multiple⟩ := dvd_of_fits none fits below
      rw [mul_comm] at multiple
      have pos : 0 < 10 ^ (max d.lastPlace exponentTiny - d.exponent).toNat := by positivity
      have kept : halfEven d.coefficient (10 ^ (max d.lastPlace exponentTiny - d.exponent).toNat) = q := by
        rw [multiple, halfEven_mul q pos]
      have short : ¬10 ^ precision ≤ q := by
        intro long
        have most : d.coefficient < 10 ^ (Nat.log 10 d.coefficient + 1) :=
          Nat.lt_pow_succ_log_self (by norm_num) d.coefficient
        have least : 10 ^ (precision + (max d.lastPlace exponentTiny - d.exponent).toNat) ≤
            d.coefficient := by
          rw [pow_add]
          conv_rhs => rw [multiple]
          exact Nat.mul_le_mul_right _ long
        have exponents : Nat.log 10 d.coefficient + 1 ≤
            precision + (max d.lastPlace exponentTiny - d.exponent).toNat := by
          have last : d.lastPlace = d.exponent + Nat.log 10 d.coefficient + 1 - precision := rfl
          omega
        have bound := Nat.pow_le_pow_right (by norm_num : 0 < 10) exponents
        omega
      rw [kept, if_neg short] at fixed
      split at fixed
      · cases fixed
      · cases fixed
        have place : max d.lastPlace exponentTiny =
            ((max d.lastPlace exponentTiny - d.exponent).toNat : Int) + d.exponent := by omega
        simp only [value]
        conv_lhs => rw [place, zpow_add₀ (by norm_num : (10 : ℚ) ≠ 0), zpow_natCast]
        conv_rhs => rw [multiple]
        push_cast
        split <;> ring
    · cases fixed
      rfl

theorem plus_exact {a b result : Decimal} (added : plus a b = some result)
    (fits : Fits (a.value + b.value)) : result.value = a.value + b.value := by
  rw [← value_exactSum] at fits ⊢
  exact fix_exact added fits

/-- A sum whose partial sums all fit is exact. -/
theorem sum_exact {numbers : List Decimal} {start total : Decimal}
    (summed : numbers.foldlM plus start = some total)
    (fits : ∀ front, front ≠ [] → front <+: numbers → Fits (start.value + (front.map value).sum)) :
    total.value = start.value + (numbers.map value).sum := by
  induction numbers generalizing start with
  | nil =>
      cases summed
      simp
  | cons first rest ih =>
      rw [List.foldlM_cons] at summed
      obtain ⟨next, added, summed⟩ := Option.bind_eq_some_iff.mp summed
      have exact : next.value = start.value + first.value := by
        refine plus_exact added ?_
        have here := fits [first] (List.cons_ne_nil _ _) ⟨rest, rfl⟩
        simpa using here
      have others := ih summed fun front _ below => by
        rw [exact, add_assoc]
        exact fits (first :: front) (List.cons_ne_nil _ _) (List.cons_prefix_cons.mpr ⟨rfl, below⟩)
      rw [others, exact, List.map_cons, List.sum_cons, add_assoc]

end Decimal
