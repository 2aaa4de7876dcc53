import Mathlib
import Hunter.Data.Fallible
import Hunter.Text.Timestamp

/-!
What the records of source handling hold. A time is a text or a date with its clock and, where it
has one, its offset; it is read as an instant, and an instant that leaves the calendar raises.
-/

namespace Hunter.SourceHandling

open Calendar Fallible

inductive Value where
  | none
  | bool (value : Bool)
  | number (value : Int)
  | text (value : String)
  | datetime (wall : Moment) (offset : Option Int)
  | list (items : List Value)
  | tuple (items : List Value)
  /-- A `set` or a `frozenset`. -/
  | set (frozen : Bool) (items : List Value)
  | mapping (fields : List (String × Value))
  | other (object : Nat)

abbrev Record := List (String × Value)

/-- `Mapping.get`. -/
def Record.get? (record : Record) (field : String) : Option Value :=
  (record.find? fun entry => entry.1 = field).map Prod.snd

/-- What a conversion of a clock raises. -/
inductive ClockError where
  | overflowError
  | valueError
  | osError
  deriving DecidableEq, Repr

inductive Raised where
  | blocked (message : String)
  | clock (error : ClockError)
  | typeError
  | keyError
  deriving DecidableEq, Repr

/-- The clocks of the machine: `datetime.fromisoformat`, which takes a text or raises a `ValueError`,
and the zone of a clock without an offset. -/
structure Clocks where
  fromisoformat : List Char → Option (Moment × Option Int)
  localZone : Moment → Except ClockError Moment

/-- `datetime.astimezone(UTC)`. -/
def astimezone (clocks : Clocks) (wall : Moment) : Option Int → Except ClockError Moment
  | some offset =>
      match wall.utc offset with
      | some moment => .ok moment
      | none => .error .overflowError
  | none => clocks.localZone wall

/-- `text.replace("Z", "+00:00")`. -/
def replaceZone (text : List Char) : List Char :=
  text.flatMap fun c => if c = 'Z' then ['+', '0', '0', ':', '0', '0'] else [c]

/-- `_as_datetime`. Only a `ValueError` is caught, and only of a text. -/
def asDatetime (clocks : Clocks) : Option Value → Except Raised (Option Moment)
  | some (.datetime wall offset) =>
      match astimezone clocks wall offset with
      | .ok moment => .ok (some moment)
      | .error error => .error (.clock error)
  | some (.text text) =>
      match clocks.fromisoformat (replaceZone text.scalars) with
      | none => .ok none
      | some (wall, offset) =>
          match astimezone clocks wall offset with
          | .ok moment => .ok (some moment)
          | .error .valueError => .ok none
          | .error error => .error (.clock error)
  | _ => .ok none

/-- The first of some fields that holds a text which is not empty. -/
def firstText (record : Record) : List String → Option String
  | [] => none
  | field :: fields =>
      match record.get? field with
      | some (.text value) => if value ≠ "" then some value else firstText record fields
      | _ => firstText record fields

/-- `_record_id`. -/
def recordId (record : Record) : Option String :=
  firstText record ["id", "fact_record_id", "policy_record_id", "authorization_rule_id",
    "source_handling_fact_id", "source_handling_policy_id", "field_category_registry_id"]

/-- `_supersedes_id`. -/
def supersedesId (record : Record) : Option String :=
  firstText record ["supersedes", "supersedes_record_id", "supersedes_fact_record_id",
    "supersedes_policy_record_id", "supersedes_field_category_registry_id",
    "supersedes_rule_record_id", "supersedes_authorization_rule_id"]

/-- A cutoff without an offset compares with no instant. -/
structure Cutoff where
  wall : Moment
  offset : Option Int

/-- The instant of the cutoff in microseconds. -/
def Cutoff.instant (cutoff : Cutoff) : Option Int :=
  cutoff.offset.map fun offset => (cutoff.wall.val : Int) - offset

/-- `value > cutoff`. -/
def Cutoff.before (cutoff : Cutoff) (moment : Moment) : Except Raised Bool :=
  match cutoff.instant with
  | some instant => .ok (instant < (moment.val : Int))
  | none => .error .typeError

/-- The times that have to be known, the admission among them if the record has one. -/
def timeFields (record : Record) : List String :=
  ["effective_from", "recorded_at", "known_at"] ++
    if (record.get? "admission_time").isSome then ["admission_time"] else []

def timesKnown (clocks : Clocks) (record : Record) (cutoff : Cutoff) :
    List String → Except Raised Bool
  | [] => .ok true
  | field :: fields => do
      match ← asDatetime clocks (record.get? field) with
      | none => .ok false
      | some moment =>
          if ← cutoff.before moment then .ok false else timesKnown clocks record cutoff fields

/-- `strict_known_eligible`. -/
def strictKnownEligible (clocks : Clocks) (record : Record) (cutoff : Cutoff) :
    Except Raised Bool :=
  timesKnown clocks record cutoff (timeFields record)

end Hunter.SourceHandling
