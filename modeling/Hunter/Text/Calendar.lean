import Mathlib

/-!
Instants of the proleptic Gregorian calendar in UTC, between the first moment of
year 1 and the last of year 9999, with a resolution of one microsecond: how they
are written to the second and how an ISO 8601 text of them is read back.
-/

/-- The clocks of the samples count to these. -/
instance neZero_four : NeZero 4 := ⟨by decide⟩

instance neZero_ten : NeZero 10 := ⟨by decide⟩

instance neZero_hundred : NeZero 100 := ⟨by decide⟩

namespace Calendar

def microsPerSecond : Nat := 1000000

def microsPerDay : Nat := 86400 * microsPerSecond

def daysBeforeYear (year : Nat) : Nat :=
  (year - 1) * 365 + (year - 1) / 4 - (year - 1) / 100 + (year - 1) / 400

def isLeap (year : Nat) : Bool := year % 4 == 0 && (year % 100 != 0 || year % 400 == 0)

def monthLengths (year : Nat) : List Nat :=
  [31, if isLeap year then 29 else 28, 31, 30, 31, 30, 31, 31, 30, 31, 30, 31]

/-- Microseconds since the first moment of year 1. -/
abbrev Moment : Type := Fin (3652059 * microsPerDay)

theorem zero_lt_end : 0 < 3652059 * microsPerDay := by decide

theorem five_lt_end : 5 < 3652059 * microsPerDay := by decide

theorem six_lt_end : 6 < 3652059 * microsPerDay := by decide

theorem nine_lt_end : 9 < 3652059 * microsPerDay := by decide

theorem ten_lt_end : 10 < 3652059 * microsPerDay := by decide

/-- `None` is the overflow of a sum past year 9999. -/
def Moment.plus (moment : Moment) (micros : Nat) : Option Moment :=
  if h : moment.val + micros < 3652059 * microsPerDay then some ⟨moment.val + micros, h⟩ else none

/-- The last `width` decimal digits, padded with zeros. -/
def padded : Nat → Nat → List Char
  | 0, _ => []
  | width + 1, n => padded width (n / 10) ++ [(n % 10).digitChar]

/-- The year and the day of the year, both from zero, of a day count from zero. -/
def yearDay (days : Nat) : Nat × Nat :=
  let n400 := days / 146097
  let rest := days % 146097
  let n100 := min (rest / 36524) 3
  let rest := rest - n100 * 36524
  let n4 := rest / 1461
  let rest := rest % 1461
  let n1 := min (rest / 365) 3
  (n400 * 400 + n100 * 100 + n4 * 4 + n1, rest - n1 * 365)

/-- The month and the day, both from one. -/
def monthDay : List Nat → Nat → Nat → Nat × Nat
  | [], month, day => (month, day + 1)
  | length :: lengths, month, day =>
      if day < length then (month, day + 1) else monthDay lengths (month + 1) (day - length)

/-- `%Y-%m-%dT%H:%M:%SZ`. -/
def Moment.text (moment : Moment) : String :=
  let seconds := moment.val / microsPerSecond
  let (year, day) := yearDay (seconds / 86400)
  let (month, day) := monthDay (monthLengths (year + 1)) 1 day
  String.ofList (padded 4 (year + 1) ++ ['-'] ++ padded 2 month ++ ['-'] ++
    padded 2 day ++ ['T'] ++ padded 2 (seconds / 3600 % 24) ++ [':'] ++
    padded 2 (seconds / 60 % 60) ++ [':'] ++ padded 2 (seconds % 60) ++ ['Z'])

theorem padded_length (width n : Nat) : (padded width n).length = width := by
  induction width generalizing n with
  | zero => rfl
  | succ width ih => simp [padded, ih]

theorem padded_all (width n : Nat) : (padded width n).all Char.isDigit = true := by
  induction width generalizing n with
  | zero => rfl
  | succ width ih =>
      have last : (n % 10).digitChar.isDigit = true :=
        (show ∀ d < 10, (Nat.digitChar d).isDigit = true by decide) _ (Nat.mod_lt _ (by decide))
      simp [padded, ih, last]

def digits? (chars : List Char) : Option Nat :=
  if chars.all Char.isDigit then some (Nat.ofDigitChars 10 chars 0) else none

/-- Up to six digits after the point, as microseconds. -/
def fraction? (chars : List Char) : Option Nat :=
  match chars with
  | [] => some 0
  | '.' :: digits =>
      if digits.length = 0 ∨ 6 < digits.length then none
      else (digits? digits).map fun n => n * 10 ^ (6 - digits.length)
  | _ => none

def moment? (year month day hour minute second micro : Nat) : Option Moment :=
  if 1 ≤ year ∧ year ≤ 9999 ∧ 1 ≤ month ∧ month ≤ 12 ∧ 1 ≤ day ∧
      day ≤ ((monthLengths year)[month - 1]?).getD 0 ∧ hour ≤ 23 ∧ minute ≤ 59 ∧ second ≤ 59 then
    let days := daysBeforeYear year + ((monthLengths year).take (month - 1)).sum + (day - 1)
    let micros := ((days * 24 + hour) * 60 + minute) * 60 * microsPerSecond +
      second * microsPerSecond + micro
    if h : micros < 3652059 * microsPerDay then some ⟨micros, h⟩ else none
  else none

/-- The moment an ISO text without its zone names. A date that does not exist and
digits other than the ASCII ones are refused. -/
def fromIso (text : List Char) : Option Moment :=
  match text with
  | y₁ :: y₂ :: y₃ :: y₄ :: '-' :: m₁ :: m₂ :: '-' :: d₁ :: d₂ :: 'T' :: h₁ :: h₂ :: ':' ::
      n₁ :: n₂ :: ':' :: s₁ :: s₂ :: rest => do
        let year ← digits? [y₁, y₂, y₃, y₄]
        let month ← digits? [m₁, m₂]
        let day ← digits? [d₁, d₂]
        let hour ← digits? [h₁, h₂]
        let minute ← digits? [n₁, n₂]
        let second ← digits? [s₁, s₂]
        let micro ← fraction? rest
        moment? year month day hour minute second micro
  | _ => none

example : ((fromIso "2024-02-29T23:59:58".toList).map Moment.text) = some "2024-02-29T23:59:58Z" := by
  decide

end Calendar
