import Mathlib
import Hunter.Data.Fallible
import Hunter.IssueAgent.Patterns
import Hunter.Text.Timestamp
import Hunter.Text.Words

/-!
The schedules of automation jobs: whether one is due at an instant, and the next instant at which it
is. The two are computed apart, on the clock of a zone with a fixed offset. They agree where the
least due minute is one that the search can reach: the weekly search keeps the day of the week it
starts on, and the search of an expression ends after 366 days.
-/

namespace Hunter.Scheduling

open Calendar Fallible

inductive Raised where
  | overflowError
  | valueError
  | zeroDivisionError
  deriving DecidableEq, Repr

inductive AutomationSchedule where
  | hourly
  | everySixHours
  | daily
  | weekly
  | cron (expression : String)
  | once (runAt : Moment)
  deriving DecidableEq

def microsPerMinute : Nat := 60 * microsPerSecond

def microsPerHour : Nat := 3600 * microsPerSecond

/-- The offset of a zone from UTC in microseconds. -/
abbrev Zone : Type := { offset : Int // -(microsPerDay : Int) < offset ∧ offset < microsPerDay }

/-- `astimezone`. -/
def Zone.clock (zone : Zone) (at_ : Moment) : Except Raised Moment :=
  match at_.utc (-zone.val) with
  | some local_ => .ok local_
  | none => .error .overflowError

def minute (local_ : Moment) : Nat := local_.val / microsPerMinute % 60

def hour (local_ : Moment) : Nat := local_.val / microsPerHour % 24

/-- Monday is zero, as the first day of the calendar is. -/
def weekday (local_ : Moment) : Nat := local_.val / microsPerDay % 7

def monthAndDay (local_ : Moment) : Nat × Nat :=
  let (year, day) := yearDay (local_.val / microsPerDay)
  monthDay (monthLengths (year + 1)) 1 day

/-- A sum of a clock time and an interval. -/
def later (local_ : Moment) (micros : Nat) : Except Raised Moment :=
  match local_.plus micros with
  | some sum => .ok sum
  | none => .error .overflowError

/-- `_ceil`: the start of the unit that a time lies in. -/
def ceil (unit : Nat) (local_ : Moment) : Moment :=
  ⟨local_.val / unit * unit, Nat.lt_of_le_of_lt (Nat.div_mul_le_self _ _) local_.isLt⟩

def digitOf (c : Char) : Option Nat :=
  (IssueAgent.digitZeros.find? fun first => first ≤ c.toNat && c.toNat < first + 10).map
    fun first => c.toNat - first

/-- Digits, with single underscores between them. -/
def intDigits : List Char → Option (List Nat)
  | [] => none
  | [c] => (digitOf c).map fun digit => [digit]
  | c :: '_' :: text => do
      let digit ← digitOf c
      let digits ← intDigits text
      some (digit :: digits)
  | c :: text => do
      let digit ← digitOf c
      let digits ← intDigits text
      some (digit :: digits)

def unsigned (text : List Char) : Option Int :=
  match intDigits text with
  | some digits =>
      if digits.length ≤ 4300 then
        some (Int.ofNat (digits.foldl (fun value digit => 10 * value + digit) 0))
      else none
  | none => none

/-- `int` of a text without spaces. -/
def int? : List Char → Option Int
  | '-' :: text => (unsigned text).map fun n => -n
  | '+' :: text => unsigned text
  | text => unsigned text

/-- `_cron_match`. -/
def cronMatch (value : Nat) (expression : List Char) (minimum maximum : Nat) : Except Raised Bool :=
  match expression with
  | ['*'] => .ok true
  | '*' :: '/' :: step =>
      match int? step with
      | some step =>
          if step = 0 then .error .zeroDivisionError
          else .ok (decide (((value : Int) - minimum) % step = 0))
      | none => .error .valueError
  | expression =>
      match int? expression with
      | some n => .ok (decide ((value : Int) = n ∧ minimum ≤ value ∧ value ≤ maximum))
      | none => .error .valueError

/-- `and`: what is not needed is not evaluated. -/
def both (first second : Except Raised Bool) : Except Raised Bool := do
  if ← first then second else .ok false

/-- The five fields of an expression at a time. -/
def cronDue (fields : List (List Char)) (local_ : Moment) : Except Raised Bool :=
  match fields with
  | [minutes, hours, days, months, weekdays] =>
      both (cronMatch (minute local_) minutes 0 59)
        (both (cronMatch (hour local_) hours 0 23)
          (both (cronMatch (monthAndDay local_).2 days 1 31)
            (both (cronMatch (monthAndDay local_).1 months 1 12)
              (cronMatch (weekday local_) weekdays 0 6))))
  | _ => .error .valueError

/-- What `is_due` compares on the clock. -/
def dueOnClock (schedule : AutomationSchedule) (at_ local_ : Moment) : Except Raised Bool :=
  match schedule with
  | .once runAt => .ok (decide (runAt ≤ at_))
  | .hourly => .ok (decide (minute local_ = 0))
  | .everySixHours => .ok (decide (minute local_ = 0 ∧ hour local_ % 6 = 0))
  | .daily => .ok (decide (hour local_ = 0 ∧ minute local_ = 0))
  | .weekly => .ok (decide (weekday local_ = 0 ∧ hour local_ = 0 ∧ minute local_ = 0))
  | .cron expression => cronDue (Chars.words expression.scalars) local_

def isDue (schedule : AutomationSchedule) (at_ : Moment) (zone : Zone) : Except Raised Bool := do
  let local_ ← zone.clock at_
  dueOnClock schedule at_ local_

/-- The hours up to a multiple of six, which is at most five turns away. -/
def upToSixth : Nat → Moment → Except Raised Moment
  | 0, candidate => .ok candidate
  | turns + 1, candidate =>
      if hour candidate % 6 = 0 then .ok candidate
      else do
        let candidate ← later candidate microsPerHour
        upToSixth turns candidate

/-- The minutes that are tried one after the other. -/
def searchCron (fields : List (List Char)) : Nat → Moment → Except Raised Moment
  | 0, _ => .error .valueError
  | tries + 1, candidate => do
      if ← cronDue fields candidate then .ok candidate
      else
        let candidate ← later candidate microsPerMinute
        searchCron fields tries candidate

def cronTries : Nat := 366 * 24 * 60

/-- `_next_cron`. -/
def nextCron (fields : List (List Char)) (after : Moment) : Except Raised Moment := do
  require (fields.length = 5) .valueError
  let candidate ← later (ceil microsPerMinute after) microsPerMinute
  searchCron fields cronTries candidate

/-- The next time on the clock. -/
def nextOnClock (schedule : AutomationSchedule) (zone : Zone) (local_ : Moment) :
    Except Raised Moment :=
  match schedule with
  | .once runAt => zone.clock runAt
  | .hourly => do
      let sum ← later local_ microsPerHour
      .ok (ceil microsPerHour sum)
  | .everySixHours => do
      let sum ← later local_ microsPerHour
      upToSixth 5 (ceil microsPerHour sum)
  | .daily => do
      let sum ← later local_ microsPerDay
      .ok (ceil microsPerDay sum)
  | .weekly => do
      let sum ← later local_ (7 * microsPerDay)
      .ok (ceil microsPerDay sum)
  | .cron expression => nextCron (Chars.words expression.scalars) local_

def nextScheduledAt (schedule : AutomationSchedule) (after : Moment) (zone : Zone) :
    Except Raised Moment := do
  let local_ ← zone.clock after
  nextOnClock schedule zone local_

/-- A schedule that recurs, and that can be evaluated at every time. -/
def Recurring : AutomationSchedule → Prop
  | .once _ => False
  | .cron expression => ∀ local_, ∃ due, cronDue (Chars.words expression.scalars) local_ = .ok due
  | _ => True

def WholeMinute (local_ : Moment) : Prop := local_.val % microsPerMinute = 0

/-- The schedule is due at an instant, which is a whole minute on the clock. -/
def DueMinute (schedule : AutomationSchedule) (zone : Zone) (t : Moment) : Prop :=
  isDue schedule t zone = .ok true ∧ ∃ local_, zone.clock t = .ok local_ ∧ WholeMinute local_

structure LeastDue (schedule : AutomationSchedule) (zone : Zone) (after t : Moment) : Prop where
  later : after < t
  due : DueMinute schedule zone t
  least : ∀ u, after < u → DueMinute schedule zone u → t ≤ u

/-- How a computation of a time ends. -/
def Ends (reached : Moment → Prop) (failed : Prop) : Except Raised Moment → Prop
  | .ok next => reached next
  | .error _ => failed

theorem Ends.imp {reached reached' : Moment → Prop} {failed failed' : Prop} {result : Except Raised Moment}
    (ends : Ends reached failed result) (found : ∀ next, reached next → reached' next)
    (lost : failed → failed') : Ends reached' failed' result := by
  cases result with
  | ok next => exact found next ends
  | error raised => exact lost ends

/-- The next instant is the least one that is due, and none is due where it is refused. -/
def Agrees (schedule : AutomationSchedule) (after : Moment) (zone : Zone) : Prop :=
  Ends (fun local_ => ∃ t, zone.clock t = .ok local_ ∧ LeastDue schedule zone after t)
    (∀ u, after < u → ¬DueMinute schedule zone u) (nextScheduledAt schedule after zone)

/-- The search from a time can end at another one. -/
def Reaches (schedule : AutomationSchedule) (local_ next : Moment) : Prop :=
  match schedule with
  | .weekly => weekday local_ = 0
  | .cron _ => next.val / microsPerMinute ≤ local_.val / microsPerMinute + cronTries
  | _ => True

/-- A time on the clock that is a due minute, whether or not it is an instant. -/
def DueOnClock (schedule : AutomationSchedule) (local_ : Moment) : Prop :=
  dueOnClock schedule local_ local_ = .ok true ∧ WholeMinute local_

/-- The least due minute is one that the search reaches. Where none is due, the search reaches
none on the clock either, which may be behind the last instant. -/
structure Covered (schedule : AutomationSchedule) (after : Moment) (zone : Zone) : Prop where
  reached : ∀ t, LeastDue schedule zone after t → ∃ local_ next, zone.clock after = .ok local_ ∧
    zone.clock t = .ok next ∧ Reaches schedule local_ next
  nothing : (∀ u, after < u → ¬DueMinute schedule zone u) → ∀ local_ next,
    zone.clock after = .ok local_ → local_ < next → DueOnClock schedule next →
    ¬Reaches schedule local_ next

theorem later_ok {a b : Moment} {micros : Nat} : later a micros = .ok b ↔ b.val = a.val + micros := by
  unfold later Moment.plus
  split
  · rename_i sum found
    split at found
    · rw [Except.ok.injEq, ← Option.some.inj found]
      exact ⟨fun same => same ▸ rfl, fun same => Fin.ext same.symm⟩
    · cases found
  · rename_i missing
    split at missing
    · cases missing
    · rename_i late
      refine iff_of_false nofun fun same => late ?_
      rw [← same]
      exact b.isLt

theorem later_error {a : Moment} {micros : Nat} {raised : Raised} (failed : later a micros = .error raised) :
    3652059 * microsPerDay ≤ a.val + micros := by
  unfold later Moment.plus at failed
  split at failed
  · cases failed
  · rename_i missing
    split at missing
    · cases missing
    · rename_i late
      exact Nat.not_lt.mp late

theorem clock_ok {zone : Zone} {t local_ : Moment} :
    zone.clock t = .ok local_ ↔ (local_.val : Int) = t.val + zone.val := by
  unfold Zone.clock Moment.utc
  dsimp only
  split
  · rename_i found known
    split at known
    · rename_i inside
      cases known
      rw [Except.ok.injEq]
      constructor
      · intro same
        cases same
        rw [Int.toNat_of_nonneg inside.1]
        omega
      · intro same
        refine Fin.ext ?_
        change ((t.val : Int) - -zone.val).toNat = local_.val
        omega
    · cases known
  · rename_i missing
    split at missing
    · cases missing
    · rename_i outside
      refine iff_of_false nofun fun same => outside ?_
      have := local_.isLt
      omega

theorem ceil_val (unit : Nat) (local_ : Moment) : (ceil unit local_).val = local_.val / unit * unit := rfl

/-- The least multiple after a time. -/
theorem ceil_later {unit : Nat} (pos : 0 < unit) {local_ sum : Moment}
    (found : later local_ unit = .ok sum) : local_ < ceil unit sum ∧ (ceil unit sum).val % unit = 0 ∧
      ∀ d : Moment, local_ < d → d.val % unit = 0 → ceil unit sum ≤ d := by
  have value : (ceil unit sum).val = (local_.val / unit + 1) * unit := by
    rw [ceil_val, later_ok.mp found, Nat.add_div_right _ pos]
  refine ⟨?_, ?_, fun d after multiple => ?_⟩
  · rw [Fin.lt_def, value]
    exact Nat.lt_mul_of_div_lt (Nat.lt_succ_self _) pos
  · rw [value]
    exact Nat.mul_mod_left _ _
  · obtain ⟨k, whole⟩ := Nat.dvd_of_mod_eq_zero multiple
    rw [Fin.lt_def, whole] at after
    rw [Fin.le_def, value, whole, Nat.mul_comm unit k]
    exact Nat.mul_le_mul_right unit (Nat.div_lt_of_lt_mul after)

theorem no_multiple {unit : Nat} (divides : unit ∣ 3652059 * microsPerDay) {local_ : Moment}
    {raised : Raised} (failed : later local_ unit = .error raised) {d : Moment} (after : local_ < d) :
    d.val % unit ≠ 0 := by
  intro multiple
  obtain ⟨k, whole⟩ := Nat.dvd_of_mod_eq_zero multiple
  obtain ⟨n, size⟩ := divides
  have inside := d.isLt
  rw [whole, size] at inside
  have below : k + 1 ≤ n := Nat.lt_of_mul_lt_mul_left inside
  have last : unit * (k + 1) ≤ unit * n := Nat.mul_le_mul_left unit below
  have bound := later_error failed
  rw [Fin.lt_def, whole] at after
  rw [Nat.mul_add, Nat.mul_one] at last
  omega

theorem hourly_iff {local_ : Moment} : DueOnClock .hourly local_ ↔ local_.val % microsPerHour = 0 := by
  rw [DueOnClock, dueOnClock, Except.ok.injEq, decide_eq_true_iff, minute, WholeMinute]
  simp only [microsPerMinute, microsPerHour, microsPerSecond]
  omega

theorem sixth_iff {local_ : Moment} :
    DueOnClock .everySixHours local_ ↔ local_.val % (6 * microsPerHour) = 0 := by
  rw [DueOnClock, dueOnClock, Except.ok.injEq, decide_eq_true_iff, minute, hour, WholeMinute]
  simp only [microsPerMinute, microsPerHour, microsPerSecond]
  omega

theorem daily_iff {local_ : Moment} : DueOnClock .daily local_ ↔ local_.val % microsPerDay = 0 := by
  rw [DueOnClock, dueOnClock, Except.ok.injEq, decide_eq_true_iff, minute, hour, WholeMinute]
  simp only [microsPerMinute, microsPerHour, microsPerSecond, microsPerDay]
  omega

theorem weekly_iff {local_ : Moment} :
    DueOnClock .weekly local_ ↔ local_.val % (7 * microsPerDay) = 0 := by
  rw [DueOnClock, dueOnClock, Except.ok.injEq, decide_eq_true_iff, minute, hour, weekday, WholeMinute]
  simp only [microsPerMinute, microsPerHour, microsPerSecond, microsPerDay]
  omega

structure LeastOnClock (schedule : AutomationSchedule) (local_ next : Moment) : Prop where
  later : local_ < next
  due : DueOnClock schedule next
  least : ∀ d, local_ < d → DueOnClock schedule d → next ≤ d

/-- What a search may give: the least due minute, or a time that is not due, at least a day after
one that is, or nothing where nothing that is due can be reached. -/
inductive Searched (schedule : AutomationSchedule) (local_ : Moment) : Except Raised Moment → Prop
  | least {next : Moment} : LeastOnClock schedule local_ next → Reaches schedule local_ next →
      Searched schedule local_ (.ok next)
  | missed {next d : Moment} : ¬DueOnClock schedule next → (∀ d, ¬Reaches schedule local_ d) →
      local_ < d → d.val + microsPerDay ≤ next.val → DueOnClock schedule d →
      Searched schedule local_ (.ok next)
  | lost {raised : Raised} : (∀ d, local_ < d → DueOnClock schedule d → ¬Reaches schedule local_ d) →
      Searched schedule local_ (.error raised)

theorem searched_multiple {schedule : AutomationSchedule} {unit : Nat} {local_ : Moment}
    (pos : 0 < unit) (divides : unit ∣ 3652059 * microsPerDay)
    (due : ∀ d, DueOnClock schedule d ↔ d.val % unit = 0) (reaches : ∀ d, Reaches schedule local_ d) :
    Searched schedule local_ (do
      let sum ← later local_ unit
      .ok (ceil unit sum)) := by
  cases found : later local_ unit with
  | error raised => exact .lost fun d after due_ => absurd ((due d).mp due_) (no_multiple divides found after)
  | ok sum =>
      obtain ⟨after, multiple, least⟩ := ceil_later pos found
      exact .least ⟨after, (due _).mpr multiple, fun d after' due_ => least d after' ((due d).mp due_)⟩
        (reaches _)

theorem upToSixth_spec {turns : Nat} {candidate : Moment} (whole : candidate.val % microsPerHour = 0)
    (enough : (6 - hour candidate % 6) % 6 ≤ turns) :
    Ends (fun next => candidate ≤ next ∧ next.val % (6 * microsPerHour) = 0 ∧
        ∀ d : Moment, candidate ≤ d → d.val % (6 * microsPerHour) = 0 → next ≤ d)
      (∀ d : Moment, candidate ≤ d → d.val % (6 * microsPerHour) ≠ 0) (upToSixth turns candidate) := by
  have sixth (c : Moment) (whole : c.val % microsPerHour = 0) :
      hour c % 6 = 0 ↔ c.val % (6 * microsPerHour) = 0 := by
    simp only [hour, microsPerHour, microsPerSecond] at whole ⊢
    omega
  induction turns generalizing candidate with
  | zero => exact ⟨Nat.le_refl _, (sixth candidate whole).mp (by omega), fun d after _ => after⟩
  | succ turns ih =>
      rw [upToSixth]
      by_cases reached : hour candidate % 6 = 0
      · rw [if_pos reached]
        exact ⟨Nat.le_refl _, (sixth candidate whole).mp reached, fun d after _ => after⟩
      · rw [if_neg reached]
        -- a multiple of six hours is not the candidate, so it comes at least an hour later
        have beyond (d : Moment) (after : candidate ≤ d) (multiple : d.val % (6 * microsPerHour) = 0) :
            candidate < d ∧ d.val % microsPerHour = 0 := by
          have other : candidate ≠ d := fun same => reached ((sixth candidate whole).mpr (same ▸ multiple))
          refine ⟨lt_of_le_of_ne after other, ?_⟩
          simp only [microsPerHour, microsPerSecond] at multiple ⊢
          omega
        cases sum : later candidate microsPerHour with
        | error raised =>
            intro d after multiple
            obtain ⟨after, hourly⟩ := beyond d after multiple
            exact no_multiple ⟨3652059 * 24, by decide⟩ sum after hourly
        | ok next =>
            have value := later_ok.mp sum
            have whole' : next.val % microsPerHour = 0 := by
              rw [value, Nat.add_mod_right]
              exact whole
            have enough' : (6 - hour next % 6) % 6 ≤ turns := by
              simp only [hour, microsPerHour, microsPerSecond] at reached enough value ⊢
              omega
            have step (d : Moment) (after : candidate ≤ d) (multiple : d.val % (6 * microsPerHour) = 0) :
                next ≤ d := by
              obtain ⟨after, hourly⟩ := beyond d after multiple
              rw [Fin.lt_def] at after
              rw [Fin.le_def, value]
              simp only [microsPerHour, microsPerSecond] at whole hourly ⊢
              omega
            have front : candidate ≤ next := by
              rw [Fin.le_def, value]
              exact Nat.le_add_right _ _
            rw [ok_bind]
            refine (ih whole' enough').imp (fun found rest => ?_) fun rest d after multiple => ?_
            · exact ⟨front.trans rest.1, rest.2.1,
                fun d after multiple => rest.2.2 d (step d after multiple) multiple⟩
            · exact rest d (step d after multiple) multiple

/-- A whole minute after another one comes at least a minute later. -/
theorem minute_later {a b d : Moment} (whole : WholeMinute a) (whole' : WholeMinute d) (after : a < d)
    (next : later a microsPerMinute = .ok b) : b ≤ d := by
  rw [Fin.lt_def] at after
  rw [Fin.le_def, later_ok.mp next]
  simp only [WholeMinute, microsPerMinute, microsPerSecond] at whole whole' ⊢
  omega

/-- The minutes of a search, each evaluated without an exception. -/
theorem searchCron_spec {fields : List (List Char)}
    (total : ∀ local_, ∃ due, cronDue fields local_ = .ok due) {tries : Nat} {candidate : Moment}
    (whole : WholeMinute candidate) :
    Ends (fun next => candidate ≤ next ∧ WholeMinute next ∧ cronDue fields next = .ok true ∧
        next.val / microsPerMinute < candidate.val / microsPerMinute + tries ∧
        ∀ d, candidate ≤ d → WholeMinute d → cronDue fields d = .ok true → next ≤ d)
      (∀ d, candidate ≤ d → WholeMinute d →
        d.val / microsPerMinute < candidate.val / microsPerMinute + tries →
        cronDue fields d ≠ .ok true) (searchCron fields tries candidate) := by
  induction tries generalizing candidate with
  | zero =>
      intro d after _ before
      exact absurd (Nat.div_le_div_right after) (Nat.not_le.mpr before)
  | succ tries ih =>
      rw [searchCron]
      obtain ⟨due, read⟩ := total candidate
      rw [read, ok_bind]
      cases due with
      | true => exact ⟨Nat.le_refl _, whole, read, by omega, fun d after _ _ => after⟩
      | false =>
          rw [if_neg Bool.false_ne_true]
          have beyond (d : Moment) (after : candidate ≤ d) (due : cronDue fields d = .ok true) :
              candidate < d := by
            refine lt_of_le_of_ne after fun same => ?_
            rw [same, due] at read
            cases read
          cases sum : later candidate microsPerMinute with
          | error raised =>
              intro d after whole' _ due
              exact no_multiple ⟨3652059 * 1440, by decide⟩ sum (beyond d after due) whole'
          | ok next =>
              have value := later_ok.mp sum
              have whole' : WholeMinute next := by
                rw [WholeMinute, value, Nat.add_mod_right]
                exact whole
              have count : next.val / microsPerMinute = candidate.val / microsPerMinute + 1 := by
                rw [value, Nat.add_div_right _ (by decide)]
              have front : candidate ≤ next := by
                rw [Fin.le_def, value]
                exact Nat.le_add_right _ _
              rw [ok_bind]
              refine (ih whole').imp (fun found rest => ?_) fun rest d after minute before due => ?_
              · refine ⟨front.trans rest.1, rest.2.1, rest.2.2.1, by omega, fun d after minute due => ?_⟩
                exact rest.2.2.2.2 d (minute_later whole minute (beyond d after due) sum) minute due
              · exact rest d (minute_later whole minute (beyond d after due) sum) minute (by omega) due

theorem searched_sixth (local_ : Moment) : Searched .everySixHours local_ (do
    let sum ← later local_ microsPerHour
    upToSixth 5 (ceil microsPerHour sum)) := by
  have hourly (d : Moment) (due : DueOnClock .everySixHours d) : d.val % microsPerHour = 0 := by
    have multiple := sixth_iff.mp due
    simp only [microsPerHour, microsPerSecond] at multiple ⊢
    omega
  cases sum : later local_ microsPerHour with
  | error raised =>
      exact .lost fun d after due _ => no_multiple ⟨3652059 * 24, by decide⟩ sum after (hourly d due)
  | ok first =>
      obtain ⟨after, multiple, least⟩ := ceil_later (by decide) sum
      rw [ok_bind]
      have enough : (6 - hour (ceil microsPerHour first) % 6) % 6 ≤ 5 := by omega
      have ends := upToSixth_spec multiple enough
      cases found : upToSixth 5 (ceil microsPerHour first) with
      | error raised =>
          rw [found] at ends
          exact .lost fun d after due _ => ends d (least d after (hourly d due)) (sixth_iff.mp due)
      | ok next =>
          rw [found] at ends
          refine .least ⟨lt_of_lt_of_le after ends.1, sixth_iff.mpr ends.2.1, fun d after due => ?_⟩ trivial
          exact ends.2.2 d (least d after (hourly d due)) (sixth_iff.mp due)

/-- From a Monday the search finds the next one, and from another day that day of the next week. -/
theorem searched_weekly (local_ : Moment) : Searched .weekly local_ (do
    let sum ← later local_ (7 * microsPerDay)
    .ok (ceil microsPerDay sum)) := by
  cases found : later local_ (7 * microsPerDay) with
  | error raised =>
      refine .lost fun d after due monday => ?_
      have multiple := weekly_iff.mp due
      have bound := later_error found
      have inside := d.isLt
      rw [Fin.lt_def] at after
      simp only [Reaches, weekday, microsPerDay, microsPerSecond] at monday multiple bound inside
      omega
  | ok sum =>
      have value := later_ok.mp found
      rcases Nat.eq_zero_or_pos (weekday local_) with monday | other
      · refine .least ⟨?_, weekly_iff.mpr ?_, fun d after due => ?_⟩ monday
        · rw [Fin.lt_def, ceil_val, value]
          simp only [weekday, microsPerDay, microsPerSecond] at monday ⊢
          omega
        · rw [ceil_val, value]
          simp only [weekday, microsPerDay, microsPerSecond] at monday ⊢
          omega
        · have multiple := weekly_iff.mp due
          rw [Fin.lt_def] at after
          rw [Fin.le_def, ceil_val, value]
          simp only [weekday, microsPerDay, microsPerSecond] at monday multiple after ⊢
          omega
      · have inside := (ceil microsPerDay sum).isLt
        rw [ceil_val, value] at inside
        have weeks : local_.val / (7 * microsPerDay) = local_.val / microsPerDay / 7 := by
          rw [Nat.div_div_eq_div_mul, Nat.mul_comm microsPerDay 7]
        have days : (local_.val + 7 * microsPerDay) / microsPerDay = local_.val / microsPerDay + 7 :=
          Nat.add_mul_div_right _ _ (by decide)
        have next : (local_.val / microsPerDay / 7 + 1) * 7 + 1 ≤ local_.val / microsPerDay + 7 := by
          simp only [weekday] at other
          omega
        have whole : ((local_.val / microsPerDay / 7 + 1) * 7 + 1) * microsPerDay ≤
            (local_.val / microsPerDay + 7) * microsPerDay := Nat.mul_le_mul_right _ next
        have bound : (local_.val / microsPerDay / 7 + 1) * 7 * microsPerDay < 3652059 * microsPerDay := by
          rw [days] at inside
          rw [Nat.add_mul, Nat.one_mul] at whole
          omega
        refine .missed (d := ⟨_, bound⟩) (fun due => ?_)
          (fun _ monday => absurd monday (Nat.ne_of_gt other)) ?_ ?_ ?_
        · have multiple := weekly_iff.mp due
          rw [ceil_val, value] at multiple
          simp only [weekday, microsPerDay, microsPerSecond] at other multiple
          omega
        · rw [Fin.lt_def]
          change local_.val < (local_.val / microsPerDay / 7 + 1) * 7 * microsPerDay
          rw [Nat.mul_assoc, ← weeks]
          exact Nat.lt_mul_of_div_lt (Nat.lt_succ_self _) (by decide)
        · rw [ceil_val, value, days]
          change (local_.val / microsPerDay / 7 + 1) * 7 * microsPerDay + microsPerDay ≤ _
          rw [Nat.add_mul, Nat.one_mul] at whole
          exact whole
        · refine weekly_iff.mpr ?_
          change (local_.val / microsPerDay / 7 + 1) * 7 * microsPerDay % (7 * microsPerDay) = 0
          rw [Nat.mul_assoc]
          exact Nat.mul_mod_left _ _

theorem five_fields {fields : List (List Char)}
    (total : ∀ local_, ∃ due, cronDue fields local_ = .ok due) : fields.length = 5 := by
  obtain ⟨due, read⟩ := total ⟨0, by decide⟩
  unfold cronDue at read
  split at read
  · rfl
  · cases read

theorem searched_cron {expression : String} (recurring : Recurring (.cron expression)) (local_ : Moment) :
    Searched (.cron expression) local_ (nextCron (Chars.words expression.scalars) local_) := by
  rw [nextCron, require_of (five_fields recurring), ok_bind]
  have start : WholeMinute (ceil microsPerMinute local_) := Nat.mul_mod_left _ _
  have before : ceil microsPerMinute local_ ≤ local_ := Nat.div_mul_le_self _ _
  cases sum : later (ceil microsPerMinute local_) microsPerMinute with
  | error raised =>
      refine .lost fun d after due => ?_
      exact absurd due.2 (no_multiple ⟨3652059 * 1440, by decide⟩ sum (lt_of_le_of_lt before after))
  | ok first =>
      have value := later_ok.mp sum
      have whole : WholeMinute first := by
        rw [WholeMinute, value, Nat.add_mod_right]
        exact start
      have count : first.val / microsPerMinute = local_.val / microsPerMinute + 1 := by
        rw [value, Nat.add_div_right _ (by decide), ceil_val, Nat.mul_div_cancel _ (by decide)]
      have first_le (d : Moment) (after : local_ < d) (minute : WholeMinute d) : first ≤ d :=
        minute_later start minute (lt_of_le_of_lt before after) sum
      have ends := @searchCron_spec _ recurring cronTries first whole
      rw [ok_bind]
      cases found : searchCron (Chars.words expression.scalars) cronTries first with
      | error raised =>
          rw [found] at ends
          refine .lost fun d after due reached => ?_
          refine ends d (first_le d after due.2) due.2 ?_ due.1
          rw [count]
          exact Nat.lt_of_le_of_lt reached (by omega)
      | ok next =>
          rw [found] at ends
          obtain ⟨after, minute, due, near, least⟩ := ends
          have start_lt : local_ < first := by
            rw [Fin.lt_def, value, ceil_val]
            exact Nat.lt_div_mul_add (by decide)
          have reached : Reaches (.cron expression) local_ next := by
            rw [count] at near
            change next.val / microsPerMinute ≤ local_.val / microsPerMinute + cronTries
            omega
          refine .least ⟨lt_of_lt_of_le start_lt after, ⟨due, minute⟩, ?_⟩ reached
          exact fun d after due => least d (first_le d after due.2) due.2 due.1

theorem searched {schedule : AutomationSchedule} (recurring : Recurring schedule) (zone : Zone)
    (local_ : Moment) : Searched schedule local_ (nextOnClock schedule zone local_) := by
  cases schedule with
  | hourly =>
      rw [nextOnClock]
      exact searched_multiple (by decide) ⟨3652059 * 24, by decide⟩ (fun _ => hourly_iff) fun _ => trivial
  | everySixHours =>
      rw [nextOnClock]
      exact searched_sixth local_
  | daily =>
      rw [nextOnClock]
      exact searched_multiple (by decide) ⟨3652059, by decide⟩ (fun _ => daily_iff) fun _ => trivial
  | weekly =>
      rw [nextOnClock]
      exact searched_weekly local_
  | cron expression =>
      rw [nextOnClock]
      exact searched_cron recurring local_
  | once runAt => exact recurring.elim

section

variable {schedule : AutomationSchedule} {zone : Zone}

theorem dueMinute_iff (recurring : Recurring schedule) {t : Moment} :
    DueMinute schedule zone t ↔ ∃ local_, zone.clock t = .ok local_ ∧ DueOnClock schedule local_ := by
  have same (local_ : Moment) : dueOnClock schedule t local_ = dueOnClock schedule local_ local_ := by
    cases schedule with
    | once runAt => exact recurring.elim
    | _ => rfl
  constructor
  · rintro ⟨due, local_, known, whole⟩
    rw [isDue, known, ok_bind, same] at due
    exact ⟨local_, known, due, whole⟩
  · rintro ⟨local_, known, due, whole⟩
    refine ⟨?_, local_, known, whole⟩
    rw [isDue, known, ok_bind, same]
    exact due

theorem clock_lt {a b x y : Moment} (first : zone.clock a = .ok x) (second : zone.clock b = .ok y) :
    a < b ↔ x < y := by
  have first := clock_ok.mp first
  have second := clock_ok.mp second
  rw [Fin.lt_def, Fin.lt_def]
  omega

/-- A time between those of two instants is that of an instant. -/
theorem clock_between {a b x y d : Moment} (first : zone.clock a = .ok x) (second : zone.clock b = .ok y)
    (low : x ≤ d) (high : d ≤ y) : ∃ t, zone.clock t = .ok d := by
  have first := clock_ok.mp first
  have second := clock_ok.mp second
  rw [Fin.le_def] at low high
  have inside := b.isLt
  refine ⟨⟨((d.val : Int) - zone.val).toNat, by omega⟩, clock_ok.mpr ?_⟩
  change (d.val : Int) = (((d.val : Int) - zone.val).toNat : Int) + zone.val
  omega

theorem exists_leastDue {after u : Moment} (follows : after < u) (due : DueMinute schedule zone u) :
    ∃ t, LeastDue schedule zone after t := by
  obtain ⟨t, ⟨first, due⟩, least⟩ := WellFounded.has_min (wellFounded_lt : WellFounded fun a b : Moment => a < b)
    { t | after < t ∧ DueMinute schedule zone t } ⟨u, follows, due⟩
  exact ⟨t, first, due, fun v follows due => not_lt.mp (least v ⟨follows, due⟩)⟩

/-- The next instant agrees with the due minutes exactly where the search covers them. -/
theorem nextScheduledAt_agrees (schedule : AutomationSchedule) (recurring : Recurring schedule)
    (after : Moment) (zone : Zone) : Agrees schedule after zone ↔ Covered schedule after zone := by
  have none_of_none (none : ∀ t, ¬LeastDue schedule zone after t) :
      ∀ u, after < u → ¬DueMinute schedule zone u := by
    intro u follows due
    obtain ⟨t, least⟩ := exists_leastDue follows due
    exact none t least
  rw [Agrees, nextScheduledAt]
  cases known : zone.clock after with
  | error raised =>
      constructor
      · intro none
        refine ⟨fun t least => absurd least.due (none t least.later), fun _ local_ _ same => ?_⟩
        rw [known] at same
        cases same
      · intro covered
        refine none_of_none fun t least => ?_
        obtain ⟨_, _, same, -⟩ := covered.reached t least
        rw [known] at same
        cases same
  | ok local_ =>
      rw [ok_bind]
      have ends := searched recurring zone local_
      cases found : nextOnClock schedule zone local_ with
      | error raised =>
          rw [found] at ends
          cases ends with
          | lost lost =>
              constructor
              · intro none
                refine ⟨fun t least => absurd least.due (none t least.later), fun _ other next same => ?_⟩
                cases known.symm.trans same
                exact lost next
              · intro covered
                refine none_of_none fun t least => ?_
                obtain ⟨other, next, same, at_, reached⟩ := covered.reached t least
                cases known.symm.trans same
                obtain ⟨next', at_', due⟩ := (dueMinute_iff recurring).mp least.due
                cases at_.symm.trans at_'
                exact lost next ((clock_lt known at_).mp least.later) due reached
      | ok next =>
          rw [found] at ends
          cases ends with
          | least least reached =>
              constructor
              · rintro ⟨t, at_, first⟩
                refine ⟨fun t' first' => ?_, fun none => absurd first.due (none t first.later)⟩
                have same : t' = t :=
                  le_antisymm (first'.least t first.later first.due) (first.least t' first'.later first'.due)
                exact ⟨local_, next, known, same ▸ at_, reached⟩
              · intro covered
                by_cases exists_ : ∃ u, after < u ∧ DueMinute schedule zone u
                · obtain ⟨u, follows, due⟩ := exists_
                  obtain ⟨d, at_d, due⟩ := (dueMinute_iff recurring).mp due
                  have before : next ≤ d := least.least d ((clock_lt known at_d).mp follows) due
                  obtain ⟨t, at_⟩ := clock_between known at_d (le_of_lt least.later) before
                  refine ⟨t, at_, (clock_lt known at_).mpr least.later,
                    (dueMinute_iff recurring).mpr ⟨next, at_, least.due⟩, fun v follows due => ?_⟩
                  obtain ⟨e, at_e, due⟩ := (dueMinute_iff recurring).mp due
                  refine not_lt.mp fun before => ?_
                  have less := (clock_lt at_e at_).mp before
                  exact absurd (least.least e ((clock_lt known at_e).mp follows) due) (not_le.mpr less)
                · have none : ∀ u, after < u → ¬DueMinute schedule zone u :=
                    fun u follows due => exists_ ⟨u, follows, due⟩
                  exact absurd reached (covered.nothing none local_ next known least.later least.due)
          | @missed _ d undue never later_ before due =>
              refine iff_of_false ?_ fun covered => ?_
              · rintro ⟨t, at_, first⟩
                obtain ⟨next', at_', due⟩ := (dueMinute_iff recurring).mp first.due
                cases at_.symm.trans at_'
                exact undue due
              · -- the missed minute is more than a day before the end of the clock, so it is an instant
                obtain ⟨t, at_⟩ : ∃ t, zone.clock t = .ok d := by
                  have start := clock_ok.mp known
                  have inside := next.isLt
                  have bound := zone.property
                  rw [Fin.lt_def] at later_
                  refine ⟨⟨((d.val : Int) - zone.val).toNat, by omega⟩, clock_ok.mpr ?_⟩
                  change (d.val : Int) = (((d.val : Int) - zone.val).toNat : Int) + zone.val
                  omega
                obtain ⟨first, least⟩ := exists_leastDue ((clock_lt known at_).mpr later_)
                  ((dueMinute_iff recurring).mpr ⟨d, at_, due⟩)
                obtain ⟨_, next', same, -, reached⟩ := covered.reached first least
                cases known.symm.trans same
                exact never next' reached

end

theorem daily_recurring : Recurring .daily := trivial

theorem weekly_recurring : Recurring .weekly := trivial

theorem utc_within : -(microsPerDay : Int) < 0 ∧ (0 : Int) < microsPerDay := by decide

def sampleUtc : Zone := ⟨0, utc_within⟩

def sampleTuesday : Moment := ⟨739621 * microsPerDay, by decide⟩

theorem sample_clock (t : Moment) : sampleUtc.clock t = .ok t := clock_ok.mpr (Int.add_zero _).symm

theorem nextScheduledAt_agrees_sample : Agrees .daily sampleTuesday sampleUtc := by
  refine (nextScheduledAt_agrees .daily daily_recurring sampleTuesday sampleUtc).mpr ⟨fun t _ => ?_, ?_⟩
  · exact ⟨_, t, sample_clock sampleTuesday, sample_clock t, trivial⟩
  · intro none local_ next known follows due _
    cases (sample_clock sampleTuesday).symm.trans known
    exact none next follows ((dueMinute_iff daily_recurring).mpr ⟨next, sample_clock next, due⟩)

/-- A weekly job is due on Mondays, and the next instant after a Tuesday is a Tuesday. -/
theorem nextScheduledAt_agrees_fails : Recurring .weekly ∧ ¬Agrees .weekly sampleTuesday sampleUtc := by
  refine ⟨weekly_recurring, fun agrees => ?_⟩
  have sum : later sampleTuesday (7 * microsPerDay) = .ok ⟨739628 * microsPerDay, by decide⟩ :=
    later_ok.mpr (by decide)
  rw [Agrees, nextScheduledAt, sample_clock, ok_bind, nextOnClock, sum, ok_bind] at agrees
  obtain ⟨t, known, first⟩ := agrees
  obtain ⟨local_, at_, due⟩ := (dueMinute_iff weekly_recurring).mp first.due
  cases known.symm.trans at_
  exact absurd (weekly_iff.mp due) (by decide)

end Hunter.Scheduling
