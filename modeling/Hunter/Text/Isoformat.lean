import Mathlib
import Hunter.Text.Calendar
import Hunter.Text.Chars

/-!
The ISO 8601 text of an instant in UTC with its offset, the fraction of the
second left out when it is zero. Texts of two instants are ordered as the
instants are, so a store that compares the texts compares the instants.
-/

namespace Calendar

/-- The fraction of the second, if any, and the offset. -/
def fractionText (micros : Nat) : List Char :=
  (if micros = 0 then [] else '.' :: padded 6 micros) ++ ['+', '0', '0', ':', '0', '0']

/-- The date of a day count from zero, up to the `T`, and what follows it. -/
def dateText (days : Nat) (rest : List Char) : List Char :=
  let (year, day) := yearDay days
  let (month, day) := monthDay (monthLengths (year + 1)) 1 day
  padded 4 (year + 1) ++ '-' :: (padded 2 month ++ '-' :: (padded 2 day ++ 'T' :: rest))

/-- `datetime.isoformat` of an instant in UTC. -/
def Moment.isoformat (moment : Moment) : String :=
  let seconds := moment.val / microsPerSecond
  String.ofList (dateText (seconds / 86400) (padded 2 (seconds / 3600 % 24) ++ ':' ::
    (padded 2 (seconds / 60 % 60) ++ ':' :: (padded 2 (seconds % 60) ++
      fractionText (moment.val % microsPerSecond)))))

theorem digitChar_lt {a b : Nat} (ha : a < 10) (hb : b < 10) : a.digitChar < b.digitChar ↔ a < b :=
  (show ∀ a < 10, ∀ b < 10, (Nat.digitChar a < Nat.digitChar b ↔ a < b) by decide) a ha b hb

theorem digitChar_eq {a b : Nat} (ha : a < 10) (hb : b < 10) : a.digitChar = b.digitChar ↔ a = b :=
  (show ∀ a < 10, ∀ b < 10, (Nat.digitChar a = Nat.digitChar b ↔ a = b) by decide) a ha b hb

theorem cons_lt {c d : Char} {xs ys : List Char} : c :: xs < d :: ys ↔ c < d ∨ c = d ∧ xs < ys :=
  List.cons_lt_cons_iff

/-- Blocks of one width compare first, then what follows them. -/
theorem padded_lt (width : Nat) {n m : Nat} {xs ys : List Char} (hn : n < 10 ^ width)
    (hm : m < 10 ^ width) :
    padded width n ++ xs < padded width m ++ ys ↔ n < m ∨ n = m ∧ xs < ys := by
  induction width generalizing n m xs ys with
  | zero =>
      have : n = 0 := by simpa using hn
      have : m = 0 := by simpa using hm
      subst n m
      simp [padded]
  | succ width ih =>
      rw [Nat.pow_succ] at hn hm
      rw [padded, padded, List.append_assoc, List.append_assoc, List.singleton_append,
        List.singleton_append, ih (by omega) (by omega), cons_lt,
        digitChar_lt (Nat.mod_lt _ (by decide)) (Nat.mod_lt _ (by decide)),
        digitChar_eq (Nat.mod_lt _ (by decide)) (Nat.mod_lt _ (by decide))]
      constructor
      · rintro (whole | ⟨whole, last | ⟨last, rest⟩⟩)
        · left; omega
        · left; omega
        · exact Or.inr ⟨by omega, rest⟩
      · rintro (less | ⟨rfl, rest⟩)
        · omega
        · exact Or.inr ⟨rfl, Or.inr ⟨rfl, rest⟩⟩

theorem fractionText_lt {a b : Nat} (ha : a < 1000000) (hb : b < 1000000) :
    fractionText a < fractionText b ↔ a < b := by
  unfold fractionText
  by_cases za : a = 0 <;> by_cases zb : b = 0
  · subst za zb
    simp
  · subst za
    rw [if_pos rfl, if_neg zb, List.nil_append, List.cons_append, cons_lt]
    exact iff_of_true (Or.inl (by decide)) (by omega)
  · subst zb
    rw [if_neg za, if_pos rfl, List.nil_append, List.cons_append, cons_lt]
    refine iff_of_false ?_ (by omega)
    rintro (less | ⟨same, -⟩)
    · exact absurd less (by decide)
    · exact absurd same (by decide)
  · rw [if_neg za, if_neg zb, List.cons_append, List.cons_append, cons_lt, padded_lt 6 ha hb]
    simp

/-- The days before the years of a count that starts at zero. -/
theorem daysBeforeYear_succ (year : Nat) :
    daysBeforeYear (year + 1) = year * 365 + year / 4 - year / 100 + year / 400 := rfl

theorem daysBeforeYear_mono : Monotone fun year => daysBeforeYear (year + 1) := by
  refine monotone_nat_of_le_succ fun year => ?_
  simp only [daysBeforeYear_succ]
  omega

set_option maxRecDepth 4000 in
/-- The day count of the parts in cycles of 400, 100, 4 and 1 years. -/
theorem daysBeforeYear_cycles {a b c d k : Nat} (hb : b ≤ 3) (hc : c ≤ 24) (hd : d ≤ 3) (hk : k ≤ 365)
    (four : d < 3 → k < 365) (century : c = 24 → d = 3 → b < 3 → k < 365) :
    daysBeforeYear (a * 400 + b * 100 + c * 4 + d + 1) + k =
        146097 * a + 36524 * b + 1461 * c + 365 * d + k ∧
      146097 * a + 36524 * b + 1461 * c + 365 * d + k <
        daysBeforeYear (a * 400 + b * 100 + c * 4 + d + 2) := by
  rw [daysBeforeYear_succ, daysBeforeYear_succ]
  have f : (a * 400 + b * 100 + c * 4 + d) / 4 = a * 100 + b * 25 + c := by omega
  have g : (a * 400 + b * 100 + c * 4 + d) / 100 = a * 4 + b := by omega
  have h : (a * 400 + b * 100 + c * 4 + d) / 400 = a := by omega
  refine ⟨by rw [f, g, h]; omega, ?_⟩
  by_cases last : d = 3
  · subst last
    have f : (a * 400 + b * 100 + c * 4 + 3 + 1) / 4 = a * 100 + b * 25 + c + 1 := by omega
    rw [f]
    by_cases full : c = 24
    · subst full
      have g : (a * 400 + b * 100 + 24 * 4 + 3 + 1) / 100 = a * 4 + b + 1 := by omega
      rw [g]
      by_cases whole : b = 3
      · subst whole
        have h : (a * 400 + 3 * 100 + 24 * 4 + 3 + 1) / 400 = a + 1 := by omega
        rw [h]
        omega
      · have h : (a * 400 + b * 100 + 24 * 4 + 3 + 1) / 400 = a := by omega
        have := century rfl rfl (by omega)
        rw [h]
        omega
    · have g : (a * 400 + b * 100 + c * 4 + 3 + 1) / 100 = a * 4 + b := by omega
      have h : (a * 400 + b * 100 + c * 4 + 3 + 1) / 400 = a := by omega
      rw [g, h]
      omega
  · have f : (a * 400 + b * 100 + c * 4 + d + 1) / 4 = a * 100 + b * 25 + c := by omega
    have g : (a * 400 + b * 100 + c * 4 + d + 1) / 100 = a * 4 + b := by omega
    have h : (a * 400 + b * 100 + c * 4 + d + 1) / 400 = a := by omega
    have := four (by omega)
    rw [f, g, h]
    omega

theorem min_div_bounds {n size most : Nat} (pos : 0 < size) :
    min (n / size) most * size ≤ n ∧ min (n / size) most ≤ most ∧
      (min (n / size) most < most → n - min (n / size) most * size < size) := by
  have whole := Nat.div_mul_le_self n size
  have rest := Nat.lt_div_mul_add pos (a := n)
  by_cases h : n / size < most
  · rw [Nat.min_eq_left (Nat.le_of_lt h)]
    refine ⟨whole, Nat.le_of_lt h, fun _ => by omega⟩
  · rw [Nat.min_eq_right (by omega)]
    have : most * size ≤ n / size * size := Nat.mul_le_mul_right size (by omega)
    exact ⟨by omega, Nat.le_refl _, fun less => absurd less (Nat.lt_irrefl _)⟩

theorem yearDay_spec (days : Nat) :
    daysBeforeYear ((yearDay days).1 + 1) + (yearDay days).2 = days ∧
      days < daysBeforeYear ((yearDay days).1 + 2) ∧ (yearDay days).2 ≤ 365 := by
  unfold yearDay
  simp only
  obtain ⟨b_le, b_most, b_rest⟩ := @min_div_bounds (days % 146097) 36524 3 (by decide)
  have day := Nat.div_add_mod days 146097
  have in_cycle : days % 146097 < 146097 := Nat.mod_lt _ (by decide)
  generalize days / 146097 = a at *
  generalize min (days % 146097 / 36524) 3 = b at *
  generalize days % 146097 = r at *
  have c_lt : (r - b * 36524) / 1461 ≤ 24 := by omega
  have in_century := Nat.div_add_mod (r - b * 36524) 1461
  have in_four : (r - b * 36524) % 1461 < 1461 := Nat.mod_lt _ (by decide)
  generalize (r - b * 36524) / 1461 = c at *
  obtain ⟨d_le, d_most, d_rest⟩ := @min_div_bounds ((r - b * 36524) % 1461) 365 3 (by decide)
  generalize min ((r - b * 36524) % 1461 / 365) 3 = d at *
  generalize (r - b * 36524) % 1461 = t at *
  have k_le : t - d * 365 ≤ 365 := by omega
  have four : d < 3 → t - d * 365 < 365 := by omega
  have century : c = 24 → d = 3 → b < 3 → t - d * 365 < 365 := by omega
  obtain ⟨same, less⟩ := @daysBeforeYear_cycles a b c d _ b_most c_lt d_most k_le four century
  have total : 146097 * a + 36524 * b + 1461 * c + 365 * d + (t - d * 365) = days := by omega
  rw [total] at same less
  exact ⟨same, less, k_le⟩

theorem yearDay_lt {a b : Nat} (h : a < b) :
    (yearDay a).1 < (yearDay b).1 ∨
      (yearDay a).1 = (yearDay b).1 ∧ (yearDay a).2 < (yearDay b).2 := by
  obtain ⟨a_eq, a_lt, -⟩ := yearDay_spec a
  obtain ⟨b_eq, b_lt, -⟩ := yearDay_spec b
  rcases Nat.lt_trichotomy (yearDay a).1 (yearDay b).1 with less | same | more
  · exact Or.inl less
  · rw [same] at a_eq
    exact Or.inr ⟨same, by omega⟩
  · have : daysBeforeYear ((yearDay b).1 + 2) ≤ daysBeforeYear ((yearDay a).1 + 1) := daysBeforeYear_mono more
    omega

theorem yearDay_bounds {days : Nat} (h : days < 3652059) :
    (yearDay days).1 < 9999 ∧ (yearDay days).2 < 366 := by
  obtain ⟨eq, -, le⟩ := yearDay_spec days
  refine ⟨?_, by omega⟩
  rw [daysBeforeYear_succ] at eq
  omega
theorem le_monthDay (lengths : List Nat) (month day : Nat) : month ≤ (monthDay lengths month day).1 := by
  induction lengths generalizing month day with
  | nil => exact Nat.le_refl _
  | cons length lengths ih =>
      rw [monthDay]
      split
      · exact Nat.le_refl _
      · exact Nat.le_of_succ_le (ih (month + 1) _)

theorem monthDay_lt (lengths : List Nat) (month : Nat) {a b : Nat} (h : a < b) :
    (monthDay lengths month a).1 < (monthDay lengths month b).1 ∨
      (monthDay lengths month a).1 = (monthDay lengths month b).1 ∧
        (monthDay lengths month a).2 < (monthDay lengths month b).2 := by
  induction lengths generalizing month a b with
  | nil => exact Or.inr ⟨rfl, Nat.succ_lt_succ h⟩
  | cons length lengths ih =>
      rw [monthDay, monthDay]
      by_cases later : b < length
      · rw [if_pos later, if_pos (h.trans later)]
        exact Or.inr ⟨rfl, Nat.succ_lt_succ h⟩
      · rw [if_neg later]
        by_cases first : a < length
        · rw [if_pos first]
          exact Or.inl (le_monthDay lengths (month + 1) _)
        · rw [if_neg first]
          exact ih (month + 1) (by omega)

theorem monthDay_bounds (year : Nat) {day : Nat} (h : day < 366) :
    (monthDay (monthLengths year) 1 day).1 < 100 ∧ (monthDay (monthLengths year) 1 day).2 < 100 := by
  unfold monthLengths
  cases isLeap year with
  | false => revert day; decide +kernel
  | true => revert day; decide +kernel

theorem same_cons_lt {c : Char} {xs ys : List Char} : c :: xs < c :: ys ↔ xs < ys := by
  rw [cons_lt]
  simp

/-- Days first, then hours, minutes, seconds and the fraction. -/
theorem clock_lt (a b : Nat) :
    a < b ↔ a / 86400000000 < b / 86400000000 ∨ a / 86400000000 = b / 86400000000 ∧
      (a / 1000000 / 3600 % 24 < b / 1000000 / 3600 % 24 ∨
        a / 1000000 / 3600 % 24 = b / 1000000 / 3600 % 24 ∧
      (a / 1000000 / 60 % 60 < b / 1000000 / 60 % 60 ∨
        a / 1000000 / 60 % 60 = b / 1000000 / 60 % 60 ∧
      (a / 1000000 % 60 < b / 1000000 % 60 ∨ a / 1000000 % 60 = b / 1000000 % 60 ∧
        a % 1000000 < b % 1000000))) := by
  omega

/-- Dates compare as their years, months and days do. -/
theorem dateText_lt {a b : Nat} (ha : a < 3652059) (hb : b < 3652059) {xs ys : List Char} :
    dateText a xs < dateText b ys ↔ a < b ∨ a = b ∧ xs < ys := by
  obtain ⟨a_year, a_day⟩ := yearDay_bounds ha
  obtain ⟨b_year, b_day⟩ := yearDay_bounds hb
  obtain ⟨a_month, a_in⟩ := monthDay_bounds ((yearDay a).1 + 1) a_day
  obtain ⟨b_month, b_in⟩ := monthDay_bounds ((yearDay b).1 + 1) b_day
  unfold dateText
  simp only
  rw [padded_lt 4 (by omega) (by omega), same_cons_lt, padded_lt 2 a_month b_month, same_cons_lt,
    padded_lt 2 a_in b_in, same_cons_lt]
  have earlier : ∀ {m n : Nat}, m < n → (yearDay m).1 + 1 < (yearDay n).1 + 1 ∨
      (yearDay m).1 + 1 = (yearDay n).1 + 1 ∧
        ((monthDay (monthLengths ((yearDay m).1 + 1)) 1 (yearDay m).2).1 <
            (monthDay (monthLengths ((yearDay n).1 + 1)) 1 (yearDay n).2).1 ∨
          (monthDay (monthLengths ((yearDay m).1 + 1)) 1 (yearDay m).2).1 =
              (monthDay (monthLengths ((yearDay n).1 + 1)) 1 (yearDay n).2).1 ∧
            (monthDay (monthLengths ((yearDay m).1 + 1)) 1 (yearDay m).2).2 <
              (monthDay (monthLengths ((yearDay n).1 + 1)) 1 (yearDay n).2).2) := by
    intro m n less
    rcases yearDay_lt less with year | ⟨year, day⟩
    · exact Or.inl (by omega)
    · rw [year]
      exact Or.inr ⟨rfl, monthDay_lt _ 1 day⟩
  rcases Nat.lt_trichotomy a b with less | rfl | more
  · refine iff_of_true ?_ (Or.inl less)
    rcases earlier less with year | ⟨year, month | ⟨month, day⟩⟩
    · exact Or.inl year
    · exact Or.inr ⟨year, Or.inl month⟩
    · exact Or.inr ⟨year, Or.inr ⟨month, Or.inl day⟩⟩
  · simp
  · have := earlier more
    refine iff_of_false ?_ (by omega)
    omega

theorem isoformat_lt_iff {a b : Moment} : a.isoformat < b.isoformat ↔ a < b := by
  have date : ∀ moment : Moment, moment.val / 1000000 / 86400 < 3652059 := fun moment => by
    have bound : moment.val < 3652059 * 86400000000 := moment.isLt
    omega
  rw [← String.scalars_lt]
  simp only [Moment.isoformat, String.scalars_ofList, microsPerSecond]
  rw [dateText_lt (date a) (date b), padded_lt 2 (by omega) (by omega), same_cons_lt,
    padded_lt 2 (by omega) (by omega), same_cons_lt, padded_lt 2 (by omega) (by omega),
    fractionText_lt (by omega) (by omega), Fin.lt_def, clock_lt a.val b.val, Nat.div_div_eq_div_mul,
    Nat.div_div_eq_div_mul]

theorem isoformat_le_iff {a b : Moment} : a.isoformat ≤ b.isoformat ↔ a ≤ b := by
  rw [← not_lt, ← not_lt, isoformat_lt_iff]

example : (fromIso "2024-02-29T23:59:58.5".toList).map Moment.isoformat =
    some "2024-02-29T23:59:58.500000+00:00" := by decide

end Calendar
