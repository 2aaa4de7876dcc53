import Hunter.Text.Isoformat

/-!
ISO 8601 texts with a date, a time and an offset, as the standard reader of Python 3.11 takes
them. Reading a written text gives the instant back. The reader goes over the bytes of a text,
so a blank before the offset is passed over; an offset below one second is kept.
-/

namespace Calendar

/-- A number of a fixed count of digits. -/
def number? (width : Nat) (text : List Char) : Option (Nat × List Char) :=
  if text.length < width then none
  else (digits? (text.take width)).map fun n => (n, text.drop width)

/-- The days from zero of a date. -/
def dateDays? (year month day : Nat) : Option Nat :=
  if 1 ≤ year ∧ year ≤ 9999 ∧ 1 ≤ month ∧ month ≤ 12 ∧ 1 ≤ day ∧
      day ≤ ((monthLengths year)[month - 1]?).getD 0 then
    some (daysBeforeYear year + ((monthLengths year).take (month - 1)).sum + (day - 1))
  else none

/-- The days from zero of a day of an ISO week. The first week of a year is the one
with its first Thursday. -/
def weekDays? (year week day : Nat) : Option Nat :=
  let first := daysBeforeYear year + 1
  let weekday := (first + 6) % 7
  if 1 ≤ year ∧ year ≤ 9999 ∧ 1 ≤ day ∧ day ≤ 7 ∧ 1 ≤ week ∧
      (week ≤ 52 ∨ week = 53 ∧ (first % 7 = 4 ∨ first % 7 = 3 ∧ isLeap year = true)) then
    some (first - weekday + (if 3 < weekday then 7 else 0) + (week - 1) * 7 + (day - 1) - 1)
  else none

/-- The length of the date at the start of a text. -/
def dateLength (text : List Char) : Option Nat :=
  if text[4]? = some '-' then
    if text[5]? = some 'W' then
      if text[8]? = some '-' then
        if text.length = 9 then none
        else if (text[10]?).any Char.isDigit then some 8
        else some 10
      else some 8
    else some 10
  else if text[4]? = some 'W' then
    let last := 7 + ((text.drop 7).takeWhile Char.isDigit).length
    some (if last < 9 then last else if last % 2 = 0 then 7 else 8)
  else some 8

/-- A date of the calendar or of the weeks, its parts all dashed or all plain. -/
def date? (text : List Char) : Option Nat := do
  let (year, rest) ← number? 4 text
  let dashed := decide (rest.head? = some '-')
  let rest := if dashed then rest.tail else rest
  if rest.head? = some 'W' then
    let (week, rest) ← number? 2 rest.tail
    if rest = [] then weekDays? year week 1
    else if decide (rest.head? = some '-') = dashed then
      let (day, rest) ← number? 1 (if dashed then rest.tail else rest)
      if rest = [] then weekDays? year week day else none
    else none
  else
    let (month, rest) ← number? 2 rest
    if decide (rest.head? = some '-') = dashed then
      let (day, rest) ← number? 2 (if dashed then rest.tail else rest)
      if rest = [] then dateDays? year month day else none
    else none

/-- The microseconds of a fraction, and what follows its digits. Those after the sixth are dropped. -/
def decimals? (text : List Char) : Option (Nat × List Char) :=
  (digits? (text.take 6)).map fun n => (n * 10 ^ (6 - text.length), (text.drop 6).dropWhile Char.isDigit)

/-- The parts of a clock, its microseconds, and what is left unread. A fraction may follow any part. -/
def clockParts (colons : Bool) : Nat → List Char → Option (List Nat × Nat × List Char)
  | 0, text => (decimals? text).map fun (micro, left) => ([], micro, left)
  | parts + 1, text => do
      let (part, rest) ← number? 2 text
      match rest with
      | [] => some ([part], 0, [])
      -- The reader stops at a last byte without a look at it.
      | [c] => if c.toNat < 0x80 then some ([part], 0, [c]) else none
      | c :: more =>
          if colons = true ∧ c = ':' then
            (clockParts colons parts more).map fun (others, read) => (part :: others, read)
          else if c = '.' ∨ c = ',' then
            (decimals? more).map fun (micro, left) => ([part], micro, left)
          else if colons then none
          else (clockParts colons parts rest).map fun (others, read) => (part :: others, read)

/-- `HH[:MM[:SS[.ffffff]]]`, or the same without colons, and what is left unread. -/
def clock? (text : List Char) : Option ((Nat × Nat × Nat × Nat) × List Char) :=
  (clockParts (text[2]? = some ':') 3 text).map fun (parts, micro, left) =>
    ((parts.getD 0 0, parts.getD 1 0, parts.getD 2 0, micro), left)

/-- A zero byte ends a text too. -/
def ended : List Char → Bool
  | [] => true
  | c :: _ => c = Char.ofNat 0

/-- The offset of a zone in microseconds, less than a day, or none. -/
def offset? : List Char → Option (Option Int)
  | [] => some none
  | 'Z' :: text => if ended text then some (some 0) else none
  | sign :: text => do
      let ((hour, minute, second, micro), left) ← clock? text
      let micros := ((hour * 60 + minute) * 60 + second) * microsPerSecond + micro
      if ended left = true ∧ micros < microsPerDay then
        some (some (if sign = '-' then -(micros : Int) else micros))
      else none

def instant? (days hour minute second micro : Nat) : Option Moment :=
  if hour ≤ 23 ∧ minute ≤ 59 ∧ second ≤ 59 then
    let micros := ((days * 24 + hour) * 60 + minute) * 60 * microsPerSecond +
      second * microsPerSecond + micro
    if h : micros < 3652059 * microsPerDay then some ⟨micros, h⟩ else none
  else none

def zoneSign (c : Char) : Bool := c == '-' || c == '+' || c == 'Z'

/-- `datetime.fromisoformat`: the local instant and its offset, if it has one. What is left of the
clock before a zone is not looked at. -/
def fromisoformat (text : List Char) : Option (Moment × Option Int) := do
  let length ← dateLength text
  let days ← date? (text.take length)
  match text.drop length with
  | [] => (instant? days 0 0 0 0).map fun moment => (moment, none)
  | _ :: time =>
      let zone := time.dropWhile fun c => !zoneSign c
      let ((hour, minute, second, micro), left) ← clock? (time.takeWhile fun c => !zoneSign c)
      let offset ← if zone = [] ∧ ended left = false then none else offset? zone
      let moment ← instant? days hour minute second micro
      some (moment, offset)

/-- `None` is the overflow of an instant that leaves the calendar in UTC. -/
def Moment.utc (moment : Moment) (offset : Int) : Option Moment :=
  let micros := (moment.val : Int) - offset
  if h : 0 ≤ micros ∧ micros < (3652059 * microsPerDay : Nat) then
    some ⟨micros.toNat, by omega⟩
  else none

example : ((fromisoformat "2024-W09-4T23:59:58.5+02:00".toList).bind fun (moment, offset) =>
    offset.bind moment.utc).map Moment.isoformat = some "2024-02-29T21:59:58.500000+00:00" := by
  decide

example : ["0001-01-01 00:00:00 +05:00", "0001-01-01T00:+05:00"].map (fun text =>
    (fromisoformat text.toList).map Prod.snd) = [some (some 18000000000), some (some 18000000000)] := by
  decide

theorem Moment.days_lt (moment : Moment) : moment.val / 1000000 / 86400 < 3652059 := by
  have bound : moment.val < 3652059 * 86400000000 := moment.isLt
  omega

theorem ofDigitChars_padded {width n : Nat} (h : n < 10 ^ width) :
    Nat.ofDigitChars 10 (padded width n) 0 = n := by
  induction width generalizing n with
  | zero => simp [padded, Nat.lt_one_iff.mp h]
  | succ width ih =>
      have whole : n / 10 < 10 ^ width := by
        rw [Nat.pow_succ] at h
        omega
      have last : n % 10 < 10 := Nat.mod_lt _ (by decide)
      rw [padded, Nat.ofDigitChars_append, ih whole, Nat.ofDigitChars_cons_digitChar_of_lt_ten last,
        Nat.ofDigitChars_nil]
      omega

theorem digits?_padded {width n : Nat} (h : n < 10 ^ width) : digits? (padded width n) = some n := by
  rw [digits?, if_pos (padded_all width n), ofDigitChars_padded h]

theorem number?_padded {width n : Nat} (h : n < 10 ^ width) (rest : List Char) :
    number? width (padded width n ++ rest) = some (n, rest) := by
  have length := padded_length width n
  have fits : ¬ (padded width n ++ rest).length < width := by
    rw [List.length_append, length]
    omega
  rw [number?, if_neg fits, List.take_left' length, List.drop_left' length, digits?_padded h]
  rfl

/-- The month and the day stand for the day of the year. -/
theorem monthDay_spec (lengths : List Nat) (month day : Nat) (h : day < lengths.sum) :
    ∃ i, (monthDay lengths month day).1 = month + i ∧ i < lengths.length ∧
      (lengths.take i).sum + ((monthDay lengths month day).2 - 1) = day ∧
      1 ≤ (monthDay lengths month day).2 ∧ (monthDay lengths month day).2 ≤ lengths[i]?.getD 0 := by
  induction lengths generalizing month day with
  | nil => exact absurd h (Nat.not_lt_zero _)
  | cons length lengths ih =>
      rw [monthDay]
      by_cases inside : day < length
      · rw [if_pos inside]
        exact ⟨0, rfl, Nat.succ_pos _, by simp, Nat.succ_pos _, inside⟩
      · rw [if_neg inside]
        rw [List.sum_cons] at h
        obtain ⟨i, month_eq, bound, sum, first, last⟩ := ih (month + 1) (day - length) (by omega)
        refine ⟨i + 1, by omega, Nat.succ_lt_succ bound, ?_, first, last⟩
        rw [List.take_succ_cons, List.sum_cons]
        omega

theorem isLeap_iff (year : Nat) :
    isLeap year = true ↔ 4 ∣ year ∧ (¬ 100 ∣ year ∨ 400 ∣ year) := by
  simp [isLeap, Nat.dvd_iff_mod_eq_zero]

theorem daysBeforeYear_next (year : Nat) :
    daysBeforeYear (year + 2) = daysBeforeYear (year + 1) + (monthLengths (year + 1)).sum := by
  have total : (monthLengths (year + 1)).sum = 365 + if isLeap (year + 1) = true then 1 else 0 := by
    rw [monthLengths]
    cases isLeap (year + 1) <;> rfl
  have century : year / 100 ≤ year / 4 := Nat.div_le_div_left (by decide) (by decide)
  rw [daysBeforeYear_succ, daysBeforeYear_succ, total, Nat.succ_div, Nat.succ_div, Nat.succ_div]
  simp only [isLeap_iff]
  by_cases four : 4 ∣ year + 1
  · by_cases hundred : 100 ∣ year + 1
    · by_cases cycle : 400 ∣ year + 1
      · simp only [four, hundred, cycle, if_true, not_true, false_or, and_self]
        omega
      · simp only [four, hundred, cycle, if_true, if_false, not_true, or_self, and_false]
        omega
    · have cycle : ¬ 400 ∣ year + 1 := fun h => hundred (Nat.dvd_trans (by decide) h)
      simp only [four, hundred, cycle, if_true, if_false, not_false_eq_true, true_or, and_self]
      omega
  · have hundred : ¬ 100 ∣ year + 1 := fun h => four (Nat.dvd_trans (by decide) h)
    have cycle : ¬ 400 ∣ year + 1 := fun h => four (Nat.dvd_trans (by decide) h)
    simp only [four, hundred, cycle, if_false, false_and]
    omega

/-- The day of the year lies in the year. -/
theorem yearDay_lt_sum (days : Nat) :
    (yearDay days).2 < (monthLengths ((yearDay days).1 + 1)).sum := by
  obtain ⟨total, below, -⟩ := yearDay_spec days
  rw [daysBeforeYear_next] at below
  omega

theorem dateDays?_yearDay {days : Nat} (h : days < 3652059) :
    dateDays? ((yearDay days).1 + 1)
      (monthDay (monthLengths ((yearDay days).1 + 1)) 1 (yearDay days).2).1
      (monthDay (monthLengths ((yearDay days).1 + 1)) 1 (yearDay days).2).2 = some days := by
  obtain ⟨i, month, bound, sum, first, last⟩ := monthDay_spec _ 1 _ (yearDay_lt_sum days)
  have year := (yearDay_bounds h).1
  have total := (yearDay_spec days).1
  have months : (monthLengths ((yearDay days).1 + 1)).length = 12 := rfl
  rw [months] at bound
  rw [dateDays?, month, Nat.add_sub_cancel_left, if_pos ⟨by omega, by omega, by omega, by omega, first, last⟩]
  rw [Nat.add_assoc, sum, total]

theorem padded_cons (width n : Nat) : ∃ c rest, padded (width + 1) n = c :: rest ∧ c.isDigit = true := by
  cases whole : padded (width + 1) n with
  | nil =>
      have := padded_length (width + 1) n
      rw [whole] at this
      cases this
  | cons c rest =>
      have digits := padded_all (width + 1) n
      rw [whole, List.all_cons, Bool.and_eq_true] at digits
      exact ⟨c, rest, rfl, digits.1⟩

/-- The date of a written text is read back. -/
theorem date?_dateText {days : Nat} (h : days < 3652059) (rest : List Char) :
    dateLength (dateText days rest) = some 10 ∧ date? ((dateText days rest).take 10) = some days ∧
      (dateText days rest).drop 10 = 'T' :: rest := by
  obtain ⟨year, day⟩ := yearDay_bounds h
  obtain ⟨month_lt, day_lt⟩ := monthDay_bounds ((yearDay days).1 + 1) day
  have year_lt : (yearDay days).1 + 1 < 10 ^ 4 := by omega
  have read := dateDays?_yearDay h
  rw [dateText]
  simp only
  generalize (yearDay days).1 + 1 = y at *
  generalize (monthDay (monthLengths y) 1 (yearDay days).2).1 = m at *
  generalize (monthDay (monthLengths y) 1 (yearDay days).2).2 = d at *
  have four := padded_length 4 y
  have two := padded_length 2 d
  obtain ⟨c, tail, first, digit⟩ := padded_cons 1 m
  have one := padded_length 2 m
  rw [first, List.length_cons, Nat.add_right_cancel_iff] at one
  have front : (padded 4 y ++ '-' :: (padded 2 m ++ '-' :: padded 2 d)).length = 10 := by
    simp [padded_length]
  have split : padded 4 y ++ '-' :: (padded 2 m ++ '-' :: (padded 2 d ++ 'T' :: rest)) =
      (padded 4 y ++ '-' :: (padded 2 m ++ '-' :: padded 2 d)) ++ 'T' :: rest := by
    simp
  have letter : c ≠ 'W' := by
    rintro rfl
    cases digit
  have dash : c ≠ '-' := by
    rintro rfl
    cases digit
  refine ⟨?_, ?_, ?_⟩
  · have fourth : (padded 4 y ++ '-' :: (padded 2 m ++ '-' :: (padded 2 d ++ 'T' :: rest)))[4]? =
        some '-' := by
      rw [List.getElem?_append_right (Nat.le_of_eq four), four]
      rfl
    have fifth : (padded 4 y ++ '-' :: (padded 2 m ++ '-' :: (padded 2 d ++ 'T' :: rest)))[5]? =
        some c := by
      rw [List.getElem?_append_right (by omega), four, first]
      rfl
    rw [dateLength, if_pos fourth, fifth, if_neg (by simpa using letter)]
  · rw [split, List.take_left' front, date?, number?_padded year_lt]
    have month : number? 2 (padded 2 m ++ '-' :: padded 2 d) = some (m, '-' :: padded 2 d) :=
      number?_padded month_lt _
    have last : number? 2 (padded 2 d) = some (d, []) := by
      simpa using number?_padded day_lt []
    simp only [Option.bind_eq_bind, Option.bind_some, List.head?_cons, decide_true, if_true,
      List.tail_cons]
    rw [if_neg (by rw [first]; simpa using letter), month]
    simp [last, read]
  · rw [split, List.drop_left' front]

/-- The fraction that is written after the seconds: none, or six digits. -/
inductive Fraction : List Char → Nat → Prop
  | none : Fraction [] 0
  | digits {micro : Nat} (small : micro < 1000000) : Fraction ('.' :: padded 6 micro) micro

theorem decimals?_padded {micro : Nat} (small : micro < 1000000) :
    decimals? (padded 6 micro) = some (micro, []) := by
  have length := padded_length 6 micro
  rw [decimals?, List.take_of_length_le (Nat.le_of_eq length), digits?_padded small,
    List.drop_of_length_le (Nat.le_of_eq length), length]
  simp

/-- The clock of a written text is read back. -/
theorem clock?_digits {hour minute second micro : Nat} (hh : hour < 100) (mm : minute < 100)
    (ss : second < 100) {fraction : List Char} (written : Fraction fraction micro) :
    clock? (padded 2 hour ++ ':' :: (padded 2 minute ++ ':' :: (padded 2 second ++ fraction))) =
      some ((hour, minute, second, micro), []) := by
  have colon : (padded 2 hour ++ ':' :: (padded 2 minute ++ ':' :: (padded 2 second ++ fraction)))[2]? =
      some ':' := by
    rw [List.getElem?_append_right (Nat.le_of_eq (padded_length 2 hour)), padded_length]
    rfl
  have last : clockParts true 1 (padded 2 second ++ fraction) = some ([second], micro, []) := by
    rw [clockParts, number?_padded (show second < 10 ^ 2 from ss)]
    cases written with
    | none => rfl
    | digits small =>
        obtain ⟨c, rest, first, -⟩ := padded_cons 5 micro
        have read := decimals?_padded small
        rw [first] at read ⊢
        simp [read]
  have middle : clockParts true 2 (padded 2 minute ++ ':' :: (padded 2 second ++ fraction)) =
      some ([minute, second], micro, []) := by
    obtain ⟨c, rest, first, -⟩ := padded_cons 1 second
    rw [clockParts, number?_padded (show minute < 10 ^ 2 from mm)]
    rw [first] at last ⊢
    simpa using last
  rw [clock?, colon, decide_eq_true rfl, clockParts, number?_padded (show hour < 10 ^ 2 from hh)]
  obtain ⟨c, rest, first, -⟩ := padded_cons 1 minute
  rw [first] at middle ⊢
  simp only [List.cons_append] at middle
  simp [middle]

theorem instant?_moment (moment : Moment) :
    instant? (moment.val / 1000000 / 86400) (moment.val / 1000000 / 3600 % 24)
      (moment.val / 1000000 / 60 % 60) (moment.val / 1000000 % 60) (moment.val % 1000000) =
      some moment := by
  have bound : moment.val < 3652059 * microsPerDay := moment.isLt
  have whole : ((moment.val / 1000000 / 86400 * 24 + moment.val / 1000000 / 3600 % 24) * 60 +
      moment.val / 1000000 / 60 % 60) * 60 * microsPerSecond +
      moment.val / 1000000 % 60 * microsPerSecond + moment.val % 1000000 = moment.val := by
    rw [microsPerSecond]
    omega
  rw [instant?, if_pos ⟨by omega, by omega, by omega⟩]
  simp only [whole, bound, dite_true]

theorem zoneSign_of_isDigit {c : Char} (digit : c.isDigit = true) : zoneSign c = false := by
  simp only [zoneSign, Bool.or_eq_false_iff, beq_eq_false_iff_ne]
  refine ⟨⟨?_, ?_⟩, ?_⟩ <;> rintro rfl <;> cases digit

/-- The time of a written text, up to the zone. -/
def Moment.clockText (moment : Moment) (fraction : List Char) : List Char :=
  padded 2 (moment.val / 1000000 / 3600 % 24) ++ ':' :: (padded 2 (moment.val / 1000000 / 60 % 60) ++
    ':' :: (padded 2 (moment.val / 1000000 % 60) ++ fraction))

theorem clockText_plain (moment : Moment) {fraction : List Char}
    (plain : ∀ c ∈ fraction, zoneSign c = false) :
    ∀ c ∈ moment.clockText fraction, (!zoneSign c) = true := by
  intro c member
  rw [Bool.not_eq_true']
  have digits : ∀ width n, c ∈ padded width n → zoneSign c = false := fun width n inside =>
    zoneSign_of_isDigit (List.all_eq_true.mp (padded_all width n) c inside)
  simp only [Moment.clockText, List.mem_append, List.mem_cons] at member
  rcases member with h | rfl | h | rfl | h | h
  · exact digits _ _ h
  · rfl
  · exact digits _ _ h
  · rfl
  · exact digits _ _ h
  · exact plain c h

theorem Fraction.plain {fraction : List Char} {micro : Nat} (written : Fraction fraction micro) :
    ∀ c ∈ fraction, zoneSign c = false := by
  intro c member
  cases written with
  | none => cases member
  | digits =>
      rcases List.mem_cons.mp member with rfl | inside
      · rfl
      · exact zoneSign_of_isDigit (List.all_eq_true.mp (padded_all 6 micro) c inside)

/-- What is read from a written text is the instant and the offset of its zone. -/
theorem fromisoformat_clockText (moment : Moment) {fraction zone : List Char} {sign : Char}
    {offset : Option Int} (written : Fraction fraction (moment.val % 1000000))
    (signed : zoneSign sign = true) (reads : offset? (sign :: zone) = some offset) :
    fromisoformat (dateText (moment.val / 1000000 / 86400)
      (moment.clockText fraction ++ sign :: zone)) = some (moment, offset) := by
  have stop : (!zoneSign sign) = false := by rw [signed]; rfl
  have time := clockText_plain moment written.plain
  have front : (moment.clockText fraction ++ sign :: zone).takeWhile (fun c => !zoneSign c) =
      moment.clockText fraction := by
    rw [List.takeWhile_append_of_pos time, List.takeWhile_cons_of_neg (by simp [stop]),
      List.append_nil]
  have back : (moment.clockText fraction ++ sign :: zone).dropWhile (fun c => !zoneSign c) =
      sign :: zone := by
    rw [List.dropWhile_append_of_pos time, List.dropWhile_cons_of_neg (by simp [stop])]
  obtain ⟨length, date, rest⟩ := date?_dateText moment.days_lt (moment.clockText fraction ++ sign :: zone)
  have clock : clock? (moment.clockText fraction) = some ((moment.val / 1000000 / 3600 % 24,
      moment.val / 1000000 / 60 % 60, moment.val / 1000000 % 60, moment.val % 1000000), []) :=
    clock?_digits (by omega) (by omega) (by omega) written
  rw [fromisoformat, length]
  simp only [Option.bind_eq_bind, Option.bind_some, date, rest]
  rw [front, back, clock, reads]
  simp [instant?_moment]

/-- The ISO text of an instant in UTC is read back. -/
theorem fromisoformat_isoformat (moment : Moment) :
    fromisoformat moment.isoformat.scalars = some (moment, some 0) := by
  have zone : offset? ['+', '0', '0', ':', '0', '0'] = some (some 0) := by decide
  rw [Moment.isoformat, String.scalars_ofList]
  by_cases whole : moment.val % 1000000 = 0
  · have read := fromisoformat_clockText moment (by rw [whole]; exact .none) (show zoneSign '+' = true from rfl)
      zone
    simpa only [Moment.clockText, microsPerSecond, fractionText, whole, if_true, List.append_assoc,
      List.cons_append, List.nil_append] using read
  · have read := fromisoformat_clockText moment (.digits (Nat.mod_lt moment.val (by decide)))
      (show zoneSign '+' = true from rfl) zone
    simpa only [Moment.clockText, microsPerSecond, fractionText, whole, if_false, List.append_assoc,
      List.cons_append] using read

theorem Moment.utc_zero (moment : Moment) : moment.utc 0 = some moment := by
  have bound : (moment.val : Int) < (3652059 * microsPerDay : Nat) := Int.ofNat_lt.mpr moment.isLt
  have low : (0 : Int) ≤ moment.val := Int.natCast_nonneg _
  simp only [Moment.utc, Int.sub_zero]
  rw [dif_pos ⟨low, bound⟩]
  simp

end Calendar
