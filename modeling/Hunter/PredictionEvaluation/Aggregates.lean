import Hunter.Data.Bins
import Hunter.PredictionEvaluation.Deadline

/-!
Aggregates of evaluations. A request lists the evaluations that make up the cohort of its own
filter, and is answered by a pair of snapshots. The payloads of the snapshots say all of the
request, their identities only whose aggregate they are and which evaluations they are of.
-/

namespace Hunter.PredictionEvaluation

open Calendar Fallible
open Execution (Canonical.sequence)
open MarketValidation (blank sha256)

structure AggregateRequest where
  aggregateId : String
  cohort : String
  filterDefinition : String
  targetIds : List String
  windowStart : Moment
  windowEnd : Moment
  policyId : String
  policyVersion : String
  modelVersion : String
  methodologyVersion : String
  configurationVersion : String
  evaluationIds : List String
  texts : ∀ text ∈ [aggregateId, cohort, filterDefinition, policyId, policyVersion, modelVersion,
    methodologyVersion, configurationVersion], blank text = false
  window : windowStart ≤ windowEnd
  distinct : evaluationIds.Nodup
  targets : targetIds.Nodup
  deriving DecidableEq

/-- The results in floating point, rounded and written as JSON. -/
structure Numerics where
  accuracy : (numerator denominator : Nat) → Json
  wilson : (numerator denominator : Nat) → Json
  brier : List (Decimal × Bool) → Json
  meanForecast : List Decimal → Json
  observedRate : List Bool → Json

def loadCurrentEvaluation (stored : Store) (identity : String) : Py AnalyticalRecord :=
  match stored.load identity with
  | none => .error (.valueError "aggregate source must be an exact canonical evaluation record")
  | some record => do
      require (IsEvaluation record)
        (.valueError "aggregate source must be an exact canonical evaluation record")
      require (stored.current evaluationType record.targetIdentity = some record)
        (.valueError "aggregate source evaluation is superseded")
      return record

/-- The evaluation is of the policy, the versions and the window of the request. -/
def Compatible (request : AggregateRequest) (record : AnalyticalRecord) : Prop :=
  match record.payload with
  | .evaluation lifecycle =>
      lifecycle.policyId = request.policyId ∧ lifecycle.policyVersion = request.policyVersion ∧
      lifecycle.modelVersion = some request.modelVersion ∧
      lifecycle.methodologyVersion = request.methodologyVersion ∧
      lifecycle.configurationVersion = request.configurationVersion ∧
      request.windowStart ≤ record.effectiveAt ∧ record.effectiveAt ≤ request.windowEnd
  | _ => False

instance (request : AggregateRequest) (record : AnalyticalRecord) : Decidable (Compatible request record) := by
  unfold Compatible
  split <;> infer_instance

def Eligible (stored : Store) (request : AggregateRequest) (record : AnalyticalRecord) : Prop :=
  stored.current evaluationType record.targetIdentity = some record ∧
    (request.targetIds = [] ∨ record.targetIdentity ∈ request.targetIds) ∧ Compatible request record

instance (stored : Store) (request : AggregateRequest) (record : AnalyticalRecord) :
    Decidable (Eligible stored request record) := inferInstanceAs (Decidable (_ ∧ _))

def eligibleIds (stored : Store) (request : AggregateRequest) : List String :=
  ((evaluations stored).filter fun record => Eligible stored request record).map AnalyticalRecord.id

/-- The request lists the complete cohort of its filter. -/
def Complete (stored : Store) (request : AggregateRequest) : Prop :=
  (∀ identity ∈ eligibleIds stored request, identity ∈ request.evaluationIds) ∧
    ∀ identity ∈ request.evaluationIds, identity ∈ eligibleIds stored request

instance (stored : Store) (request : AggregateRequest) : Decidable (Complete stored request) :=
  inferInstanceAs (Decidable (_ ∧ _))

section

variable (listed : List AnalyticalRecord)

def states : List LifecycleState := listed.filterMap AnalyticalRecord.state?

/-- `payload["state"] in {"evaluated-correct", "evaluated-incorrect"}`. -/
def Judged (record : AnalyticalRecord) : Prop :=
  record.state? ∈ [some LifecycleState.evaluatedCorrect, some .evaluatedIncorrect]

instance (record : AnalyticalRecord) : Decidable (Judged record) := inferInstanceAs (Decidable (_ ∈ _))

def included : List AnalyticalRecord := listed.filter fun record => Judged record

def correct (record : AnalyticalRecord) : Bool := record.state? = some .evaluatedCorrect

def numerator : Nat := ((included listed).filter correct).length

def denominator : Nat := (included listed).length

/-- The states whose text does not start with `evaluated-`, counted. -/
def exclusions : List (String × Nat) :=
  (((states listed).dedup.filter fun state => ¬"evaluated-".toList <+: state.text.toList).map fun state =>
    (state.text, (states listed).count state)).mergeSort fun a b => a.1 ≤ b.1

/-- `payload.get("forecast_probability")`. -/
def forecastProbability (record : AnalyticalRecord) : Option Decimal :=
  match record.payload with
  | .evaluation lifecycle => lifecycle.forecastProbability
  | _ => none

/-- The forecasts with their outcomes, if every included evaluation has a forecast. -/
def forecasts : Option (List (Decimal × Bool)) :=
  if ∀ record ∈ included listed, (forecastProbability record).isSome then
    some ((included listed).filterMap fun record =>
      (forecastProbability record).map fun probability => (probability, correct record))
  else none

end

/-- The floating-point numbers `index / 10`, exactly and as they are written. -/
def tenths : List (ℚ × Json) := [
  (0, .float ⟨"0.0".toList, by decide⟩),
  (3602879701896397 / 36028797018963968, .float ⟨"0.1".toList, by decide⟩),
  (3602879701896397 / 18014398509481984, .float ⟨"0.2".toList, by decide⟩),
  (5404319552844595 / 18014398509481984, .float ⟨"0.3".toList, by decide⟩),
  (3602879701896397 / 9007199254740992, .float ⟨"0.4".toList, by decide⟩),
  (1 / 2, .float ⟨"0.5".toList, by decide⟩),
  (5404319552844595 / 9007199254740992, .float ⟨"0.6".toList, by decide⟩),
  (3152519739159347 / 4503599627370496, .float ⟨"0.7".toList, by decide⟩),
  (3602879701896397 / 4503599627370496, .float ⟨"0.8".toList, by decide⟩),
  (8106479329266893 / 9007199254740992, .float ⟨"0.9".toList, by decide⟩),
  (1, .float ⟨"1.0".toList, by decide⟩)]

def tenth (index : Nat) : ℚ × Json := tenths.getD index (1, .null)

def binMembers (forecasts : List (Decimal × Bool)) (index : Nat) : List (Decimal × Bool) :=
  forecasts.filter fun forecast => Bins.inBin (fun index => (tenth index).1) 9 index forecast.1.value

def status (sufficient : Bool) : Json := .str (if sufficient then "available" else "insufficient-sample")

def calibrationBin (numerics : Numerics) (minimum : Nat) (index : Nat) (members : List (Decimal × Bool)) : Json :=
  let sufficient : Bool := minimum ≤ members.length
  .obj [
    ("lower", (tenth index).2),
    ("upper", (tenth (index + 1)).2),
    ("count", .int members.length),
    ("status", status sufficient),
    ("mean_forecast", if sufficient then numerics.meanForecast (members.map Prod.fst) else .null),
    ("observed_rate", if sufficient then numerics.observedRate (members.map Prod.snd) else .null)]

def calibrationBins (numerics : Numerics) (forecasts : List (Decimal × Bool)) (minimum : Nat) : List Json :=
  (List.range 10).map fun index => calibrationBin numerics minimum index (binMembers forecasts index)

/-- The digest of the identities of the evaluations. -/
def fingerprint (evaluationIds : List String) : String :=
  sha256 (Json.asciiDumps (Canonical.sequence (evaluationIds.map Json.str)))

section

variable (numerics : Numerics) (request : AggregateRequest) (policy : EvaluationPolicy)
  (listed : List AnalyticalRecord)

def sufficientSample : Bool := policy.minimumSampleSize ≤ denominator listed

/-- What both snapshots say before and after their status. -/
def common (status : Json) : List (String × Json) := [
  ("aggregate_id", .str request.aggregateId),
  ("cohort", .str request.cohort),
  ("filter_definition", .str request.filterDefinition),
  ("target_ids", .arr (request.targetIds.map Json.str)),
  ("window_start", .str request.windowStart.isoformat),
  ("window_end", .str request.windowEnd.isoformat),
  ("policy_id", .str request.policyId),
  ("policy_version", .str request.policyVersion),
  ("model_version", .str request.modelVersion),
  ("methodology_version", .str request.methodologyVersion),
  ("configuration_version", .str request.configurationVersion),
  ("source_evaluation_ids", .arr (listed.map fun record => .str record.id)),
  ("source_record_fingerprint", .str (fingerprint (listed.map AnalyticalRecord.id))),
  ("numerator", .int (numerator listed)),
  ("denominator", .int (denominator listed)),
  ("exclusions", .obj ((exclusions listed).map fun (state, count) => (state, .int count))),
  ("status", status)]

def accuracyPayload : Payload :=
  let sufficient := sufficientSample policy listed
  .snapshot .accuracy request.aggregateId (.obj (common request listed (status sufficient) ++ [
    ("accuracy", if sufficient ∧ denominator listed ≠ 0 then
      numerics.accuracy (numerator listed) (denominator listed) else .null),
    ("confidence_interval_95_wilson", if sufficient then
      numerics.wilson (numerator listed) (denominator listed) else .null)]))

def calibrationPayload : Payload :=
  match sufficientSample policy listed, forecasts listed with
  | true, some forecasts =>
      .snapshot .calibration request.aggregateId (.obj (common request listed (status true) ++ [
        ("brier_score", numerics.brier forecasts),
        ("reliability_bins", .arr (calibrationBins numerics forecasts policy.minimumCalibrationBinSize))]))
  | _, _ =>
      .snapshot .calibration request.aggregateId (.obj (common request listed (status false) ++ [
        ("brier_score", .null), ("reliability_bins", .arr [])]))

end

def aggregateKey (aggregateId : String) (evaluationIds : List String) : List (String × Json) :=
  [("aggregate_id", .str aggregateId), ("fingerprint", .str (fingerprint evaluationIds))]

def snapshotRecord (request : AggregateRequest) (context : EvaluationContext) (listed : List AnalyticalRecord)
    (payload : Payload) (predecessor : Option AnalyticalRecord) : Py AnalyticalRecord :=
  record (aggregateKey request.aggregateId (listed.map AnalyticalRecord.id)) request.windowEnd context payload
    (some request.modelVersion) (some request.methodologyVersion) (listed.map AnalyticalRecord.id)
    (listed.map fun _ => schemaVersion) [] predecessor
    (if predecessor.isSome then some "aggregate source set correction" else none)

/-- The current snapshots, if they hold these payloads already. -/
def held (stored : Store) (aggregateId : String) (accuracy calibration : Payload) :
    Option (AnalyticalRecord × AnalyticalRecord) :=
  match stored.current accuracyType aggregateId, stored.current calibrationType aggregateId with
  | some first, some second =>
      if first.payload = accuracy ∧ second.payload = calibration then some (first, second) else none
  | _, _ => none

def operationAfter (predecessor : Option AnalyticalRecord) : Operation :=
  if predecessor.isSome then .correct else .create

/-- Both snapshots, each after the current one, in one transaction. -/
def recordSnapshots (stored : Store) (request : AggregateRequest) (context : EvaluationContext)
    (listed : List AnalyticalRecord) (accuracy calibration : Payload) :
    Py ((AnalyticalRecord × AnalyticalRecord) × Store) := do
  let predecessorAccuracy := stored.current accuracyType request.aggregateId
  let predecessorCalibration := stored.current calibrationType request.aggregateId
  let accuracyRecord ← snapshotRecord request context listed accuracy predecessorAccuracy
  let calibrationRecord ← snapshotRecord request context listed calibration predecessorCalibration
  let first ← authorize accuracyRecord (operationAfter predecessorAccuracy)
  let second ← authorize calibrationRecord (operationAfter predecessorCalibration)
  let after ← stored.persistMany [first, second]
  return ((accuracyRecord, calibrationRecord), after)

def aggregate (numerics : Numerics) (stored : Store) (request : AggregateRequest)
    (context : EvaluationContext) : Py ((AnalyticalRecord × AnalyticalRecord) × Store) := do
  let policyRecord ← loadPolicy stored request.policyId request.policyVersion
  let policy ← policyRecord.policy
  let listed ← request.evaluationIds.mapM (loadCurrentEvaluation stored)
  require (∀ record ∈ listed, Compatible request record)
    (.valueError "aggregate cannot mix incompatible evaluations")
  require (Complete stored request)
    (.valueError "aggregate source IDs must equal the complete declared cohort")
  let accuracy := accuracyPayload numerics request policy listed
  let calibration := calibrationPayload numerics request policy listed
  match held stored request.aggregateId accuracy calibration with
  | some pair => .ok (pair, stored)
  | none => recordSnapshots stored request context listed accuracy calibration

inductive Turn where
  | call (call : Call)
  | aggregate (request : AggregateRequest) (context : EvaluationContext)

/-- The store after a turn. An exception leaves it as it was. -/
def turned (correctness : Correctness) (numerics : Numerics) (stored : Store) : Turn → Store
  | .call call =>
      match call.decide correctness stored with
      | .ok (.planned plans) => written stored plans
      | _ => stored
  | .aggregate request context => committed stored (aggregate numerics stored request context)

def afterTurns (correctness : Correctness) (numerics : Numerics) (turns : List Turn) : Store :=
  turns.foldl (turned correctness numerics) []

end Hunter.PredictionEvaluation
