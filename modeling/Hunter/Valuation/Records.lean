import Mathlib
import Hunter.ValueCapture.Models

/-!
Fair value estimates and the assessments of them. A call makes an estimate of what was known and
an assessment that refers to it, and stores both in one transaction, each as a root or as the
correction of a stored record of its own kind.
-/

namespace Hunter.Valuation

open Calendar Fallible
open MarketValidation (blank sha256)
open ValueCapture (EconomicClaimIdentity identityFields)

inductive Exn where
  | valueError (message : String)
  | authorityError (message : String)
  | integrityError (message : String)
  deriving DecidableEq, Repr

abbrev Py : Type → Type := Except Exn

/-- What the evidence that was known is valued at, with the records it was taken from. -/
structure Valued where
  currency : String
  horizonDays : Int
  supplyBasisSelectionRule : String
  discountRatePolicyId : String
  discountRatePolicyVersion : String
  discountRateApplied : String
  fairValuePerDilutedUnitP10 : String
  fairValuePerDilutedUnitP50 : String
  fairValuePerDilutedUnitP90 : String
  totalDilutedValueP10 : String
  totalDilutedValueP50 : String
  totalDilutedValueP90 : String
  modelDispersionRatio : String
  confidence : String
  confidenceBase : String
  confidenceDispersionFactor : String
  confidenceFreshnessFactor : String
  methodologyRecordId : String
  methodologyRecordVersion : String
  evidenceRecordId : String
  evidenceRecordVersion : String
  ruleRecordId : String
  ruleRecordVersion : String
  supplyRecordId : String
  supplyRecordVersion : String
  marketFactRecordIds : List String
  marketFactRecordVersions : List String
  deriving DecidableEq

/-- An accepted record without a conflict, of the one schema there is. -/
structure FairValueEstimateRecord where
  recordId : String
  logicalId : String
  identity : EconomicClaimIdentity
  effectiveAt : Moment
  recordedAt : Moment
  knownAt : Moment
  valued : Valued
  contentHash : String
  supersedesRecordId : Option String
  correctionReason : String
  deriving DecidableEq

/-- An accepted record without a conflict, whose normalized value is unavailable. -/
structure ValuationAssessmentRecord where
  recordId : String
  logicalId : String
  identity : EconomicClaimIdentity
  effectiveAt : Moment
  recordedAt : Moment
  knownAt : Moment
  fairValueEstimateRecordId : String
  fairValueEstimateRecordVersion : String
  confidence : String
  contentHash : String
  supersedesRecordId : Option String
  correctionReason : String
  deriving DecidableEq

def valuationSchemaVersion : String := "canonical-valuation-v1"

def semanticVersion : String := "1.0.0"

def requiredCorrelationGroup : String := "valuation-mispricing"

def requiredText (fields : List (String × String)) : Py Unit :=
  match fields.find? fun field => blank field.2 with
  | some (name, _) => .error (.valueError (name ++ " must not be blank"))
  | none => .ok ()

def decimal (text : String) : Py Decimal :=
  match Decimal.parse text.scalars with
  | some number => .ok number
  | none => .error (.valueError ("invalid decimal value: " ++ text))

def checkBounded (name text : String) : Py Unit := do
  let number ← decimal text
  require (0 ≤ number.value ∧ number.value ≤ 1) (.valueError (name ++ " must be between 0 and 1"))

def nonNegativeDecimal (name text : String) : Py Decimal := do
  let number ← decimal text
  require (0 ≤ number.value) (.valueError (name ++ " must be non-negative"))
  return number

/-- The three quantiles of a value are in their order. -/
def checkQuantiles (name p10 p50 p90 : String) : Py Unit := do
  let low ← nonNegativeDecimal (name ++ "_p10") p10
  let middle ← nonNegativeDecimal (name ++ "_p50") p50
  let high ← nonNegativeDecimal (name ++ "_p90") p90
  require (low.value ≤ middle.value ∧ middle.value ≤ high.value)
    (.valueError (name ++ " p10 <= p50 <= p90 must hold"))

def normalizeChronology (effectiveAt recordedAt knownAt : Moment) : Py Unit := do
  require (effectiveAt ≤ recordedAt) (.valueError "effective_at must be <= recorded_at")
  require (recordedAt ≤ knownAt) (.valueError "recorded_at must be <= known_at")

def validateCorrection (supersedesRecordId : Option String) (correctionReason : String) : Py Unit :=
  require ((supersedesRecordId = none ∨ supersedesRecordId = some "") ↔ blank correctionReason = true)
    (.valueError "supersedes_record_id and correction_reason must be provided together")

def FairValueEstimateRecord.check (record : FairValueEstimateRecord) : Py Unit := do
  let valued := record.valued
  requiredText [("record_id", record.recordId), ("logical_id", record.logicalId),
    ("currency", valued.currency), ("supply_basis_selection_rule", valued.supplyBasisSelectionRule),
    ("discount_rate_policy_id", valued.discountRatePolicyId),
    ("discount_rate_policy_version", valued.discountRatePolicyVersion),
    ("discount_rate_applied", valued.discountRateApplied),
    ("fair_value_per_diluted_unit_p10", valued.fairValuePerDilutedUnitP10),
    ("fair_value_per_diluted_unit_p50", valued.fairValuePerDilutedUnitP50),
    ("fair_value_per_diluted_unit_p90", valued.fairValuePerDilutedUnitP90),
    ("total_diluted_value_p10", valued.totalDilutedValueP10),
    ("total_diluted_value_p50", valued.totalDilutedValueP50),
    ("total_diluted_value_p90", valued.totalDilutedValueP90),
    ("model_dispersion_ratio", valued.modelDispersionRatio), ("confidence", valued.confidence),
    ("confidence_base", valued.confidenceBase),
    ("confidence_dispersion_factor", valued.confidenceDispersionFactor),
    ("confidence_freshness_factor", valued.confidenceFreshnessFactor),
    ("methodology_record_id", valued.methodologyRecordId),
    ("methodology_record_version", valued.methodologyRecordVersion),
    ("evidence_record_id", valued.evidenceRecordId),
    ("evidence_record_version", valued.evidenceRecordVersion), ("rule_record_id", valued.ruleRecordId),
    ("rule_record_version", valued.ruleRecordVersion), ("supply_record_id", valued.supplyRecordId),
    ("supply_record_version", valued.supplyRecordVersion), ("content_hash", record.contentHash)]
  require (valued.horizonDays = 365) (.valueError "horizon_days must be 365 per ADR 0021/ADR 0022")
  checkBounded "discount_rate_applied" valued.discountRateApplied
  checkBounded "confidence" valued.confidence
  checkBounded "confidence_base" valued.confidenceBase
  checkBounded "confidence_dispersion_factor" valued.confidenceDispersionFactor
  checkBounded "confidence_freshness_factor" valued.confidenceFreshnessFactor
  let confidence ← decimal valued.confidence
  let base ← decimal valued.confidenceBase
  require (confidence.value ≤ base.value) (.valueError "confidence must not exceed confidence_base")
  checkQuantiles "fair_value_per_diluted_unit" valued.fairValuePerDilutedUnitP10
    valued.fairValuePerDilutedUnitP50 valued.fairValuePerDilutedUnitP90
  checkQuantiles "total_diluted_value" valued.totalDilutedValueP10 valued.totalDilutedValueP50
    valued.totalDilutedValueP90
  require (valued.marketFactRecordIds.length = valued.marketFactRecordVersions.length)
    (.valueError "market_fact_record_ids and versions must have equal length")
  require (∀ text ∈ valued.marketFactRecordIds, blank text = false)
    (.valueError "market_fact_record_ids must contain nonblank strings")
  require (∀ text ∈ valued.marketFactRecordVersions, blank text = false)
    (.valueError "market_fact_record_versions must contain nonblank strings")
  normalizeChronology record.effectiveAt record.recordedAt record.knownAt
  validateCorrection record.supersedesRecordId record.correctionReason

def ValuationAssessmentRecord.check (record : ValuationAssessmentRecord) : Py Unit := do
  requiredText [("record_id", record.recordId), ("logical_id", record.logicalId),
    ("fair_value_estimate_record_id", record.fairValueEstimateRecordId),
    ("fair_value_estimate_record_version", record.fairValueEstimateRecordVersion),
    ("confidence", record.confidence), ("content_hash", record.contentHash)]
  checkBounded "confidence" record.confidence
  normalizeChronology record.effectiveAt record.recordedAt record.knownAt
  validateCorrection record.supersedesRecordId record.correctionReason

structure EstimateRequest where
  identity : EconomicClaimIdentity
  effectiveAt : Moment
  recordedAt : Moment
  knownAt : Moment
  supersedesEstimateRecordId : Option String
  supersedesAssessmentRecordId : Option String
  correctionReason : String
  deriving DecidableEq

def optionalText (text : Option String) : Json := (text.map Json.str).getD .null

def logicalIdOf (identity : EconomicClaimIdentity) (methodologyRecordId : String) : String :=
  sha256 ("|".intercalate [identity.entityId, identity.economicClaimId, identity.assetId,
    identity.representationId, identity.tokenId, identity.chain, identity.contractAddress,
    methodologyRecordId])

def estimateContent (request : EstimateRequest) (valued : Valued) (logicalId : String) : Json :=
  .obj [("schema_version", .str valuationSchemaVersion), ("semantic_version", .str semanticVersion),
    ("identity", identityFields request.identity), ("effective_at", .str request.effectiveAt.isoformat),
    ("recorded_at", .str request.recordedAt.isoformat), ("known_at", .str request.knownAt.isoformat),
    ("quality_state", .str "accepted"), ("conflict_state", .str "none"), ("currency", .str valued.currency),
    ("horizon_days", .int valued.horizonDays),
    ("supply_basis_selection_rule", .str valued.supplyBasisSelectionRule),
    ("discount_rate_policy_id", .str valued.discountRatePolicyId),
    ("discount_rate_policy_version", .str valued.discountRatePolicyVersion),
    ("discount_rate_applied", .str valued.discountRateApplied),
    ("fair_value_per_diluted_unit_p10", .str valued.fairValuePerDilutedUnitP10),
    ("fair_value_per_diluted_unit_p50", .str valued.fairValuePerDilutedUnitP50),
    ("fair_value_per_diluted_unit_p90", .str valued.fairValuePerDilutedUnitP90),
    ("total_diluted_value_p10", .str valued.totalDilutedValueP10),
    ("total_diluted_value_p50", .str valued.totalDilutedValueP50),
    ("total_diluted_value_p90", .str valued.totalDilutedValueP90),
    ("model_dispersion_ratio", .str valued.modelDispersionRatio), ("confidence", .str valued.confidence),
    ("confidence_base", .str valued.confidenceBase),
    ("confidence_dispersion_factor", .str valued.confidenceDispersionFactor),
    ("confidence_freshness_factor", .str valued.confidenceFreshnessFactor),
    ("methodology_record_id", .str valued.methodologyRecordId),
    ("methodology_record_version", .str valued.methodologyRecordVersion),
    ("evidence_record_id", .str valued.evidenceRecordId),
    ("evidence_record_version", .str valued.evidenceRecordVersion),
    ("rule_record_id", .str valued.ruleRecordId), ("rule_record_version", .str valued.ruleRecordVersion),
    ("supply_record_id", .str valued.supplyRecordId),
    ("supply_record_version", .str valued.supplyRecordVersion),
    ("market_fact_record_ids", .arr (valued.marketFactRecordIds.map .str)),
    ("market_fact_record_versions", .arr (valued.marketFactRecordVersions.map .str)),
    ("supersedes_record_id", optionalText request.supersedesEstimateRecordId),
    ("correction_reason", .str request.correctionReason), ("logical_id", .str logicalId)]

def assessmentContent (request : EstimateRequest) (estimate : FairValueEstimateRecord) : Json :=
  .obj [("schema_version", .str valuationSchemaVersion), ("semantic_version", .str semanticVersion),
    ("identity", identityFields request.identity), ("effective_at", .str request.effectiveAt.isoformat),
    ("recorded_at", .str request.recordedAt.isoformat), ("known_at", .str request.knownAt.isoformat),
    ("quality_state", .str "accepted"), ("conflict_state", .str "none"),
    ("fair_value_estimate_record_id", .str estimate.recordId),
    ("fair_value_estimate_record_version", .str semanticVersion),
    ("confidence", .str estimate.valued.confidence), ("normalization_status", .str "unavailable"),
    ("normalized_value", .null), ("correlation_group", .str requiredCorrelationGroup),
    ("supersedes_record_id", optionalText request.supersedesAssessmentRecordId),
    ("correction_reason", .str request.correctionReason), ("logical_id", .str estimate.logicalId)]

def normalizeEstimate (request : EstimateRequest) (valued : Valued) : FairValueEstimateRecord :=
  let logicalId := logicalIdOf request.identity valued.methodologyRecordId
  let contentHash := sha256 (Json.asciiDumps (estimateContent request valued logicalId))
  { recordId := sha256 (logicalId ++ ":" ++ contentHash)
    logicalId
    identity := request.identity
    effectiveAt := request.effectiveAt
    recordedAt := request.recordedAt
    knownAt := request.knownAt
    valued
    contentHash
    supersedesRecordId := request.supersedesEstimateRecordId
    correctionReason := request.correctionReason }

def normalizeAssessment (request : EstimateRequest) (estimate : FairValueEstimateRecord) :
    ValuationAssessmentRecord :=
  let contentHash := sha256 (Json.asciiDumps (assessmentContent request estimate))
  { recordId := sha256 (estimate.logicalId ++ ":" ++ contentHash)
    logicalId := estimate.logicalId
    identity := request.identity
    effectiveAt := request.effectiveAt
    recordedAt := request.recordedAt
    knownAt := request.knownAt
    fairValueEstimateRecordId := estimate.recordId
    fairValueEstimateRecordVersion := semanticVersion
    confidence := estimate.valued.confidence
    contentHash
    supersedesRecordId := request.supersedesAssessmentRecordId
    correctionReason := request.correctionReason }

inductive SnapshotType where
  | estimate | assessment
  deriving DecidableEq, Repr

/-- A row of the table of snapshots. -/
inductive Snapshot where
  | estimate (record : FairValueEstimateRecord)
  | assessment (record : ValuationAssessmentRecord)
  /-- A row of another type. -/
  | other (id : String) (payload : Json)
  deriving DecidableEq

/-- What a correction reads of a snapshot of one of the two types. -/
structure Link where
  recordId : String
  logicalId : String
  supersedesRecordId : Option String
  recordedAt : Moment
  knownAt : Moment

def FairValueEstimateRecord.link (record : FairValueEstimateRecord) : Link :=
  ⟨record.recordId, record.logicalId, record.supersedesRecordId, record.recordedAt, record.knownAt⟩

def ValuationAssessmentRecord.link (record : ValuationAssessmentRecord) : Link :=
  ⟨record.recordId, record.logicalId, record.supersedesRecordId, record.recordedAt, record.knownAt⟩

namespace Snapshot

def id : Snapshot → String
  | estimate record => record.recordId
  | assessment record => record.recordId
  | other id _ => id

def link? (snapshotType : SnapshotType) : Snapshot → Option Link
  | estimate record => if snapshotType = .estimate then some record.link else none
  | assessment record => if snapshotType = .assessment then some record.link else none
  | other _ _ => none

def estimate? : Snapshot → Option FairValueEstimateRecord
  | estimate record => some record
  | _ => none

def assessment? : Snapshot → Option ValuationAssessmentRecord
  | assessment record => some record
  | _ => none

end Snapshot

abbrev Store := List Snapshot

def Store.load (stored : Store) (id : String) : Option Snapshot :=
  stored.find? fun snapshot => snapshot.id = id

/-- A row that is there already has to be the same. -/
def Store.save (stored : Store) (snapshot : Snapshot) : Py Store :=
  match stored.load snapshot.id with
  | some existing => do
      require (existing = snapshot) (.integrityError ("Record identity conflict: " ++ snapshot.id))
      return stored
  | none => .ok (stored ++ [snapshot])

def Store.links (stored : Store) (snapshotType : SnapshotType) : List Link :=
  stored.filterMap (Snapshot.link? snapshotType)

def authorizeCorrection (stored : Store) (snapshotType : SnapshotType) (record : Link) : Py Unit :=
  match record.supersedesRecordId with
  | none =>
      require (∀ item ∈ stored.links snapshotType,
          item.logicalId = record.logicalId → item.recordId = record.recordId)
        (.integrityError ("a root record already exists for this logical_id; use a correction " ++
          "(supersedes_record_id) instead of a second independent root record"))
  | some supersedesRecordId =>
      match (stored.load supersedesRecordId).bind (Snapshot.link? snapshotType) with
      | none => .error (.integrityError "correction predecessor does not exist")
      | some prior => do
          require (prior.logicalId = record.logicalId)
            (.integrityError "correction must preserve logical_id")
          require (prior.recordedAt < record.recordedAt)
            (.integrityError "correction recorded_at must follow predecessor")
          require (prior.knownAt < record.knownAt)
            (.integrityError "correction known_at must follow predecessor")
          require (∀ item ∈ stored.links snapshotType,
              item.supersedesRecordId = some supersedesRecordId → item.recordId = record.recordId)
            (.integrityError "branching correction lineage is prohibited")

/-- Both rows are saved, after both have been authorized. -/
def persist (stored : Store) (estimate : FairValueEstimateRecord) (assessment : ValuationAssessmentRecord) :
    Py Store := do
  authorizeCorrection stored .estimate estimate.link
  authorizeCorrection stored .assessment assessment.link
  let saved ← stored.save (.estimate estimate)
  saved.save (.assessment assessment)

/-- The records of a call and the store with them, where nothing raises. -/
def recordValuation (stored : Store) (request : EstimateRequest) (known : Py Valued) :
    Py ((FairValueEstimateRecord × ValuationAssessmentRecord) × Store) := do
  let valued ← known
  let estimate := normalizeEstimate request valued
  estimate.check
  let assessment := normalizeAssessment request estimate
  assessment.check
  let after ← persist stored estimate assessment
  return ((estimate, assessment), after)

/-- The result of a call, given what the evidence that was known is valued at, and the store after
it. An exception rolls the transaction back. -/
def estimateFairValue (stored : Store) (request : EstimateRequest) (known : Py Valued) :
    Py (FairValueEstimateRecord × ValuationAssessmentRecord) × Store :=
  let result := recordValuation stored request known
  (result.map Prod.fst, committed stored result)

/-- What a replay reads of a record. -/
structure Times where
  recordId : String
  effectiveAt : Moment
  recordedAt : Moment
  knownAt : Moment
  supersedesRecordId : Option String

def FairValueEstimateRecord.times (record : FairValueEstimateRecord) : Times :=
  ⟨record.recordId, record.effectiveAt, record.recordedAt, record.knownAt, record.supersedesRecordId⟩

def ValuationAssessmentRecord.times (record : ValuationAssessmentRecord) : Times :=
  ⟨record.recordId, record.effectiveAt, record.recordedAt, record.knownAt, record.supersedesRecordId⟩

def Times.rank (times : Times) : Moment ×ₗ Moment ×ₗ Moment ×ₗ String :=
  toLex (times.effectiveAt, toLex (times.recordedAt, toLex (times.knownAt, times.recordId)))

def strictKnown {α : Type} (times : α → Times) (records : List α) (effectiveAsOf knownBy : Moment) : Option α :=
  let eligible := records.filter fun item => (times item).effectiveAt ≤ effectiveAsOf ∧
    (times item).recordedAt ≤ knownBy ∧ (times item).knownAt ≤ knownBy
  let superseded := eligible.filterMap fun item => (times item).supersedesRecordId
  let current := eligible.filter fun item => (times item).recordId ∉ superseded
  (current.mergeSort fun a b => (times b).rank ≤ (times a).rank).head?

/-- The order the history is listed in is not read. -/
def fairValueHistory (stored : Store) (logicalId : String) : List FairValueEstimateRecord :=
  (stored.filterMap Snapshot.estimate?).filter fun record => record.logicalId = logicalId

def valuationAssessmentHistory (stored : Store) (logicalId : String) : List ValuationAssessmentRecord :=
  (stored.filterMap Snapshot.assessment?).filter fun record => record.logicalId = logicalId

end Hunter.Valuation
