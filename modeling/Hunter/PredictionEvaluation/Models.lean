import Mathlib
import Hunter.Data.Fallible
import Hunter.Execution.AsciiJson
import Hunter.MarketValidation.History
import Hunter.Text.Decimal

/-!
The records of prediction evaluation and their store. Policies, publications, evaluations and
snapshots are rows of one table. A row is never changed: a later row names it, and the current
row of a target is the one that no other row of the target names.
-/

namespace Hunter.PredictionEvaluation

open Calendar Fallible
open Execution (Canonical.mapping hashFormatVersion)
open MarketValidation (blank sha256)

inductive Exn where
  | valueError (message : String)
  | lookupError (message : String)
  | keyError (key : String)
  | overflowError
  | validationError (message : String)
  | authorizationError (message : String)
  | correctionConflict (message : String)
  | identityConflict (id : String)
  deriving DecidableEq, Repr

abbrev Py : Type → Type := Except Exn

inductive LifecycleState where
  | pending | due | awaitingData | evaluable | evaluatedCorrect | evaluatedIncorrect | unevaluable
  | invalidated | superseded
  deriving DecidableEq, Repr

namespace LifecycleState

def text : LifecycleState → String
  | pending => "pending"
  | due => "due"
  | awaitingData => "awaiting-data"
  | evaluable => "evaluable"
  | evaluatedCorrect => "evaluated-correct"
  | evaluatedIncorrect => "evaluated-incorrect"
  | unevaluable => "unevaluable"
  | invalidated => "invalidated"
  | superseded => "superseded"

def allowedTransitions : LifecycleState → List LifecycleState
  | pending => [due, invalidated, superseded]
  | due => [awaitingData, evaluable, unevaluable, invalidated, superseded]
  | awaitingData => [evaluable, unevaluable, invalidated, superseded]
  | evaluable => [evaluatedCorrect, evaluatedIncorrect, invalidated, superseded]
  | evaluatedCorrect => [superseded]
  | evaluatedIncorrect => [superseded]
  | unevaluable => [superseded]
  | invalidated => [superseded]
  | superseded => []

end LifecycleState

inductive ComparisonMode where
  | absoluteThreshold | changeFromBaseline | benchmarkRelative
  deriving DecidableEq, Repr

inductive ComparisonOperator where
  | gt | gte | lt | lte | eq
  deriving DecidableEq, Repr

structure EvaluationPolicy where
  policyId : String
  policyVersion : String
  claimType : String
  entityType : String
  comparisonMode : ComparisonMode
  allowedOperator : ComparisonOperator
  measurementUnit : String
  baselineRule : String
  requiredPrecision : Nat
  horizonRule : String
  observationWindowSeconds : Nat
  outcomeDataDeadlineSeconds : Nat
  outcomeSourceType : String
  outcomeSourceVersion : String
  benchmarkRule : Option String
  tolerance : Decimal
  missingDataRule : String
  ambiguousDataRule : String
  strictKnownRule : String
  minimumSampleSize : Nat
  minimumCalibrationBinSize : Nat
  correctionPolicy : String
  methodologyVersion : String
  texts : ∀ text ∈ [policyId, policyVersion, claimType, entityType, measurementUnit, baselineRule,
    horizonRule, outcomeSourceType, outcomeSourceVersion, missingDataRule, ambiguousDataRule,
    strictKnownRule, correctionPolicy, methodologyVersion], blank text = false
  precise : requiredPrecision ≤ 12
  sampled : 1 ≤ minimumSampleSize ∧ 1 ≤ minimumCalibrationBinSize
  tolerant : 0 ≤ tolerance.value
  benchmarked : comparisonMode = .benchmarkRelative → ∃ rule ∈ benchmarkRule, rule ≠ ""
  deriving DecidableEq

@[ext]
structure PredictionPublication where
  predictionId : String
  targetId : String
  entityType : String
  claimType : String
  claim : String
  operator : ComparisonOperator
  threshold : Decimal
  condition : String
  measurementUnit : String
  baselineValue : Decimal
  baselineObservationId : String
  baselineSourceVersion : String
  baselineEvidenceReferences : List String
  benchmarkId : Option String
  effectiveAt : Moment
  publishedAt : Moment
  dueAt : Moment
  recordedAt : Moment
  knownAt : Moment
  policyId : String
  policyVersion : String
  modelVersion : String
  methodologyVersion : String
  configurationVersion : String
  sourceRecordIds : List String
  sourceVersions : List String
  evidenceReferences : List String
  forecastProbability : Option Decimal
  texts : ∀ text ∈ [predictionId, targetId, entityType, claimType, claim, condition, measurementUnit,
    baselineObservationId, baselineSourceVersion, policyId, policyVersion, modelVersion,
    methodologyVersion, configurationVersion], blank text = false
  known : knownAt ≤ recordedAt
  ahead : publishedAt ≤ dueAt ∧ effectiveAt ≤ dueAt
  versions : sourceRecordIds.length = sourceVersions.length
  provenance : baselineEvidenceReferences ≠ [] ∧ evidenceReferences ≠ [] ∧ sourceRecordIds ≠ []
  probability : ∀ forecast ∈ forecastProbability, 0 ≤ forecast.value ∧ forecast.value ≤ 1

instance : DecidableEq PredictionPublication := fun _ _ =>
  decidable_of_iff _ PredictionPublication.ext_iff.symm

structure OutcomeObservation where
  observationId : String
  targetId : String
  entityType : String
  sourceType : String
  sourceVersion : String
  value : Decimal
  measurementUnit : String
  effectiveAt : Moment
  recordedAt : Moment
  knownAt : Option Moment
  evidenceReferences : List String
  benchmarkId : Option String
  benchmarkValue : Option Decimal
  supersedesId : Option String
  texts : ∀ text ∈ [observationId, targetId, entityType, sourceType, sourceVersion, measurementUnit],
    blank text = false
  known : ∀ moment ∈ knownAt, moment ≤ recordedAt
  provenance : evidenceReferences ≠ []
  deriving DecidableEq

structure EvaluationContext where
  recordedAt : Moment
  knownBy : Moment
  known : knownBy ≤ recordedAt
  deriving DecidableEq

structure Evaluation where
  predictionId : String
  state : LifecycleState
  reason : String
  correctness : Option Bool
  publicationRecordId : String
  policyRecordId : String
  policyId : String
  policyVersion : String
  modelVersion : Option String
  methodologyVersion : String
  configurationVersion : String
  forecastProbability : Option Decimal
  outcome : Option OutcomeObservation
  deriving DecidableEq

inductive SnapshotType where
  | accuracy | calibration
  deriving DecidableEq, Repr

inductive Payload where
  | policy (policy : EvaluationPolicy)
  | publication (publication : PredictionPublication) (policyRecordId : String)
  | evaluation (evaluation : Evaluation)
  | snapshot (snapshotType : SnapshotType) (aggregateId : String) (aggregate : Json)
  deriving DecidableEq

def policyType : String := "canonical.prediction-evaluation-policy"

def publicationType : String := "canonical.prediction-publication"

def evaluationType : String := "canonical.prediction-evaluation"

def accuracyType : String := "canonical.prediction-accuracy-snapshot"

def calibrationType : String := "canonical.prediction-calibration-snapshot"

def recordPrefix : String := "prediction-evaluation"

def schemaVersion : String := "canonical-prediction-evaluation-v1"

def policyTarget (policyId version : String) : String := policyId ++ ":" ++ version

namespace Payload

def semanticType : Payload → String
  | policy _ => policyType
  | publication _ _ => publicationType
  | evaluation _ => evaluationType
  | snapshot .accuracy _ _ => accuracyType
  | snapshot .calibration _ _ => calibrationType

def targetIdentity : Payload → String
  | policy bound => policyTarget bound.policyId bound.policyVersion
  | publication native _ => native.predictionId
  | evaluation lifecycle => lifecycle.predictionId
  | snapshot _ aggregateId _ => aggregateId

end Payload

/-- A record of the one schema there is, whose known time is known. -/
structure AnalyticalRecord where
  id : String
  createdAt : Moment
  effectiveAt : Moment
  knownAt : Moment
  modelVersion : Option String
  methodologyFingerprint : Option String
  sourceRecordIds : List String
  sourceVersions : List String
  evidenceReferences : List String
  supersedesId : Option String
  correctionReason : Option String
  payload : Payload
  deriving DecidableEq

namespace AnalyticalRecord

def semanticType (record : AnalyticalRecord) : String := record.payload.semanticType

def targetIdentity (record : AnalyticalRecord) : String := record.payload.targetIdentity

def logicalIdentity (record : AnalyticalRecord) : String :=
  record.semanticType ++ ":" ++ record.targetIdentity

def recordedAt (record : AnalyticalRecord) : Moment := record.createdAt

/-- `payload["policy"]`. -/
def policy (record : AnalyticalRecord) : Py EvaluationPolicy :=
  match record.payload with
  | .policy bound => .ok bound
  | _ => .error (.keyError "policy")

/-- `payload["publication"]`. -/
def native (record : AnalyticalRecord) : Py PredictionPublication :=
  match record.payload with
  | .publication native _ => .ok native
  | _ => .error (.keyError "publication")

/-- `payload.get("state")`. -/
def state? (record : AnalyticalRecord) : Option LifecycleState :=
  match record.payload with
  | .evaluation lifecycle => some lifecycle.state
  | _ => none

/-- `payload["state"]`. -/
def state (record : AnalyticalRecord) : Py LifecycleState :=
  match record.state? with
  | some state => .ok state
  | none => .error (.keyError "state")

/-- What the construction of a record checks of what it is given. -/
def check (record : AnalyticalRecord) : Py Unit := do
  require (∀ text ∈ record.modelVersion, blank text = false) (.validationError "model_version is required")
  require (∀ text ∈ record.methodologyFingerprint, blank text = false)
    (.validationError "methodology_fingerprint is required")
  require (record.sourceRecordIds.length = record.sourceVersions.length)
    (.validationError "source_record_ids and source_versions must have equal length")
  require (∀ text ∈ record.sourceRecordIds, blank text = false)
    (.validationError "source_record_ids cannot contain blank values")
  require (∀ text ∈ record.sourceVersions, blank text = false)
    (.validationError "source_versions cannot contain blank values")
  require (∀ text ∈ record.evidenceReferences, blank text = false)
    (.validationError "evidence_references cannot contain blank values")
  match record.supersedesId with
  | some predecessor => do
      require (predecessor ≠ record.id) (.validationError "an analytical record cannot supersede itself")
      require (record.correctionReason ≠ none ∧ record.correctionReason ≠ some "")
        (.validationError "correction_reason is required when supersedes_id is set")
  | none =>
      require (record.correctionReason = none) (.validationError "correction_reason requires supersedes_id")

end AnalyticalRecord

@[irreducible] def stableIdentifier (nameSpace : String) (payload : Json) (schemaVersion : String) : String :=
  nameSpace ++ ":" ++ schemaVersion ++ ":" ++ sha256 (Json.asciiDumps (Canonical.mapping
    [("hash_format_version", .str hashFormatVersion), ("namespace", .str nameSpace),
      ("schema_version", .str schemaVersion), ("payload", payload)]))

def recordId (semanticType : String) (identityKey : List (String × Json)) : String :=
  stableIdentifier recordPrefix
    (Canonical.mapping [("semantic_type", .str semanticType), ("identity", Canonical.mapping identityKey)])
    schemaVersion

def identityOf (predecessor : Option AnalyticalRecord) : Json :=
  match predecessor with
  | some record => .str record.id
  | none => .null

/-- The record of a payload under the identity of its key. -/
def record (identityKey : List (String × Json)) (effectiveAt : Moment) (context : EvaluationContext)
    (payload : Payload) (modelVersion methodology : Option String)
    (sourceIds sourceVersions evidence : List String) (predecessor : Option AnalyticalRecord)
    (correctionReason : Option String) : Py AnalyticalRecord := do
  let made : AnalyticalRecord :=
    { id := recordId payload.semanticType identityKey
      createdAt := context.recordedAt
      effectiveAt
      knownAt := context.knownBy
      modelVersion
      methodologyFingerprint := methodology
      sourceRecordIds := sourceIds
      sourceVersions
      evidenceReferences := evidence
      supersedesId := predecessor.map AnalyticalRecord.id
      correctionReason
      payload }
  made.check
  return made

/-- The record under an identity that is known. -/
theorem record_identity {identity : String} {identityKey : List (String × Json)} (effectiveAt : Moment)
    (context : EvaluationContext) (payload : Payload) (modelVersion methodology : Option String)
    (sourceIds sourceVersions evidence : List String) (predecessor : Option AnalyticalRecord)
    (correctionReason : Option String) (same : recordId payload.semanticType identityKey = identity) :
    record identityKey effectiveAt context payload modelVersion methodology sourceIds sourceVersions evidence
        predecessor correctionReason =
      (let made : AnalyticalRecord := ⟨identity, context.recordedAt, effectiveAt, context.knownBy, modelVersion,
        methodology, sourceIds, sourceVersions, evidence, predecessor.map AnalyticalRecord.id, correctionReason,
        payload⟩
      made.check.map fun _ => made) := by
  subst same
  rfl

inductive Operation where
  | create | correct
  deriving DecidableEq, Repr

structure AuthorizedAnalyticalWrite where
  record : AnalyticalRecord
  operation : Operation
  deriving DecidableEq

/-- What the construction of a write checks. -/
def authorize (record : AnalyticalRecord) (operation : Operation) : Py AuthorizedAnalyticalWrite := do
  require (operation = .create → record.supersedesId = none)
    (.valueError "create operation cannot supersede a record")
  require (operation = .correct → record.supersedesId ≠ none)
    (.valueError "correct operation requires an explicit predecessor")
  return ⟨record, operation⟩

/-- The stored records. None is ever deleted. -/
abbrev Store := List AnalyticalRecord

namespace Store

def load (stored : Store) (identity : String) : Option AnalyticalRecord :=
  stored.find? fun record => record.id = identity

/-- The hash of a record covers all of it, and is compared as the record. -/
def save (stored : Store) (record : AnalyticalRecord) : Py Store :=
  match stored.load record.id with
  | some existing => do
      require (existing = record) (.identityConflict record.id)
      return stored
  | none => .ok (stored ++ [record])

def checkOperation (stored : Store) (plan : AuthorizedAnalyticalWrite) : Py Unit :=
  match plan.operation with
  | .create => .ok ()
  | .correct =>
      match stored.load (plan.record.supersedesId.getD "") with
      | none => .error (.correctionConflict "correction predecessor does not exist")
      | some predecessor =>
          require (predecessor.logicalIdentity = plan.record.logicalIdentity)
            (.correctionConflict "correction must preserve logical_identity")

def persist (stored : Store) (plan : AuthorizedAnalyticalWrite) : Py Store := do
  stored.checkOperation plan
  stored.save plan.record

def persistMany (stored : Store) (plans : List AuthorizedAnalyticalWrite) : Py Store :=
  plans.foldlM persist stored

def targetHistory (stored : Store) (semanticType target : String) : List AnalyticalRecord :=
  stored.filter fun record => record.semanticType = semanticType ∧ record.targetIdentity = target

def place (record : AnalyticalRecord) : Moment ×ₗ String := toLex (record.recordedAt, record.id)

/-- The latest of the records of the target that none of them names. -/
def current (stored : Store) (semanticType target : String) : Option AnalyticalRecord :=
  let records := stored.targetHistory semanticType target
  let superseded := records.filterMap AnalyticalRecord.supersedesId
  let unsuperseded := records.filter fun record => record.id ∉ superseded
  (unsuperseded.mergeSort fun a b => place b ≤ place a).head?

end Store

end Hunter.PredictionEvaluation
