import Mathlib
import Hunter.Data.Fallible
import Hunter.Text.Decimal
import Hunter.ValueCapture.Models

/-!
Assessments of mispricing. A fair value and an observed price are compared if they pass the
checks and took effect at compatible times; otherwise the assessment holds no numbers. The
distance of the two times is the number of days of a signed difference, which is rounded
down before its sign is dropped.
-/

namespace Hunter.Mispricing

open Calendar Fallible
open MarketValidation (blank)
open ValueCapture (EconomicClaimIdentity QualityState ConflictState)

inductive Exn where
  | valueError (message : String)
  | authorityError (message : String)
  deriving DecidableEq, Repr

abbrev Py : Type → Type := Except Exn

inductive AvailabilityState where
  | available | uncalibratedNormalization | noFairValue | noMarketObservation | identityMismatch
  | unitMismatch | supplyBasisMismatch | zeroOrNegativePrice | incompatibleTimes | staleInputs
  | conflictedInputs | unsupportedMethodology
  deriving DecidableEq, Repr

def timestampToleranceDays : Nat := 7

def supportedFormulaVersion : String := "mispricing-raw-ratio-v1"

structure MispricingMethodologySnapshot where
  recordId : String
  semanticVersion : String
  formulaVersion : String
  timestampToleranceDays : Nat
  requiredQuoteCurrency : String
  requiredSupplyBasis : String
  effectiveAt : Moment
  recordedAt : Moment
  knownAt : Moment
  qualityState : QualityState
  conflictState : ConflictState
  texts : ∀ text ∈ [recordId, semanticVersion, formulaVersion, requiredQuoteCurrency], blank text = false
  tolerance : timestampToleranceDays = Mispricing.timestampToleranceDays
  supplyBasis : requiredSupplyBasis = "fully_diluted_supply"

/-- An estimate of a fair value, whose decimals are read. -/
structure FairValueEstimateRecord where
  recordId : String
  logicalId : String
  semanticVersion : String
  identity : EconomicClaimIdentity
  currency : String
  supplyBasisSelectionRule : String
  fairValuePerDilutedUnitP10 : Decimal
  fairValuePerDilutedUnitP50 : Decimal
  fairValuePerDilutedUnitP90 : Decimal
  modelDispersionRatio : Decimal
  confidence : Decimal
  effectiveAt : Moment
  conflictState : ConflictState
  texts : ∀ text ∈ [recordId, logicalId, semanticVersion], blank text = false
  quantiles : 0 ≤ fairValuePerDilutedUnitP10.value ∧
    fairValuePerDilutedUnitP10.value ≤ fairValuePerDilutedUnitP50.value ∧
    fairValuePerDilutedUnitP50.value ≤ fairValuePerDilutedUnitP90.value
  bounded : 0 ≤ confidence.value ∧ confidence.value ≤ 1

/-- An observed price. Its value is a finite decimal. -/
structure ObservedMarketFactRecord where
  recordId : String
  semanticVersion : String
  entityId : String
  representationId : String
  value : Decimal
  quoteCurrency : Option String
  confidence : Decimal
  effectiveAt : Moment
  conflictState : ConflictState
  texts : ∀ text ∈ [recordId, semanticVersion], blank text = false
  bounded : 0 ≤ confidence.value ∧ confidence.value ≤ 1

/-- The times and the correction of a call, as the record of it requires them. -/
structure Request where
  identity : EconomicClaimIdentity
  methodologyRecordId : String
  effectiveAt : Moment
  recordedAt : Moment
  knownAt : Moment
  supersedesRecordId : Option String
  correctionReason : String
  chronology : effectiveAt ≤ recordedAt ∧ recordedAt ≤ knownAt
  correction : ValueCapture.correctionGiven supersedesRecordId correctionReason

structure Confidence where
  fairValue : ℚ
  marketQuality : ℚ
  dispersion : ℚ
  timestamp : ℚ
  overall : ℚ
  deriving DecidableEq

/-- The numbers of an assessment, and the records that they come from. -/
structure RawValues where
  fairValueRecordId : String
  fairValueRecordVersion : String
  marketFactRecordId : String
  marketFactRecordVersion : String
  fairValueP10 : ℚ
  fairValueP50 : ℚ
  fairValueP90 : ℚ
  observedMarketPrice : ℚ
  rawSignedRatio : ℚ
  uncertaintyIntervalLower : ℚ
  uncertaintyIntervalUpper : ℚ
  confidence : Confidence
  deriving DecidableEq

/-- An assessment without numbers has its fields blank. -/
structure MispricingAssessmentRecord where
  identity : EconomicClaimIdentity
  methodologyRecordId : String
  methodologyRecordVersion : String
  raw : Option RawValues
  availabilityState : AvailabilityState
  effectiveAt : Moment
  recordedAt : Moment
  knownAt : Moment
  supersedesRecordId : Option String
  correctionReason : String
  deriving DecidableEq

def requiredText (fields : List (String × String)) : Py Unit :=
  match fields.find? fun field => blank field.2 with
  | some (name, _) => .error (.valueError (name ++ " must not be blank"))
  | none => .ok ()

def boundedDecimal (name : String) (number : ℚ) : Py Unit :=
  require (0 ≤ number ∧ number ≤ 1) (.valueError (name ++ " must be between 0 and 1"))

def weakest (confidence : Confidence) : ℚ :=
  min (min (min confidence.fairValue confidence.marketQuality) confidence.dispersion) confidence.timestamp

def Confidence.check (confidence : Confidence) : Py Unit := do
  boundedDecimal "confidence_fair_value" confidence.fairValue
  boundedDecimal "confidence_market_quality" confidence.marketQuality
  boundedDecimal "confidence_dispersion" confidence.dispersion
  boundedDecimal "confidence_timestamp" confidence.timestamp
  boundedDecimal "confidence" confidence.overall
  require (confidence.overall ≤ weakest confidence)
    (.valueError "overall confidence cannot exceed the weakest mandatory component")

def RawValues.check (raw : RawValues) : Py Unit := do
  let price := raw.observedMarketPrice
  require (0 < price) (.valueError "observed_market_price must be strictly positive per ADR 0021")
  require (0 ≤ raw.fairValueP10) (.valueError "fair_value_p10 must be a finite, non-negative decimal")
  require (0 ≤ raw.fairValueP50) (.valueError "fair_value_p50 must be a finite, non-negative decimal")
  require (0 ≤ raw.fairValueP90) (.valueError "fair_value_p90 must be a finite, non-negative decimal")
  require (-1 ≤ raw.rawSignedRatio)
    (.valueError "raw_signed_ratio must be finite and within the declared raw range [-1, +inf)")
  require (raw.rawSignedRatio = (raw.fairValueP50 - price) / price)
    (.valueError "raw_signed_ratio does not equal (fair_value_p50 - price) / price")
  require (raw.uncertaintyIntervalLower = (raw.fairValueP10 - price) / price)
    (.valueError "uncertainty_interval_lower does not equal (fair_value_p10 - price) / price")
  require (raw.uncertaintyIntervalUpper = (raw.fairValueP90 - price) / price)
    (.valueError "uncertainty_interval_upper does not equal (fair_value_p90 - price) / price")

def MispricingAssessmentRecord.checkRaw (record : MispricingAssessmentRecord) : Py Unit :=
  match record.raw with
  | some raw => do
      raw.confidence.check
      requiredText [("methodology_record_id", record.methodologyRecordId),
        ("methodology_record_version", record.methodologyRecordVersion),
        ("fair_value_record_id", raw.fairValueRecordId),
        ("fair_value_record_version", raw.fairValueRecordVersion),
        ("market_fact_record_id", raw.marketFactRecordId),
        ("market_fact_record_version", raw.marketFactRecordVersion)]
      raw.check
  | none => .ok ()

def MispricingAssessmentRecord.check (record : MispricingAssessmentRecord) : Py Unit := do
  record.checkRaw
  require (record.effectiveAt ≤ record.recordedAt) (.valueError "effective_at must be <= recorded_at")
  require (record.recordedAt ≤ record.knownAt) (.valueError "recorded_at must be <= known_at")
  require ((record.supersedesRecordId = none ∨ record.supersedesRecordId = some "") ↔
      blank record.correctionReason = true)
    (.valueError "supersedes_record_id and correction_reason must be provided together")

/-- `_authoritative_methodology`, of the methodology of the record id. -/
def authoritativeMethodology (stored : Option MispricingMethodologySnapshot) (request : Request) :
    Option MispricingMethodologySnapshot :=
  stored.filter fun methodology =>
    methodology.qualityState = .accepted ∧ methodology.conflictState.settled = true ∧
      methodology.recordedAt ≤ request.recordedAt ∧ methodology.knownAt ≤ request.knownAt ∧
      methodology.effectiveAt ≤ request.effectiveAt

def identityMatches (estimate target : EconomicClaimIdentity) : Prop :=
  estimate.entityId = target.entityId ∧ estimate.assetId = target.assetId ∧
    estimate.representationId = target.representationId

instance (estimate target : EconomicClaimIdentity) : Decidable (identityMatches estimate target) :=
  inferInstanceAs (Decidable (_ ∧ _))

section

-- What the runtime takes for the small letters of a text is any function.
variable (lower : List Char → List Char)

/-- `.strip().lower()`. -/
def currencyKey (currency : String) : List Char := lower (Chars.strip currency.scalars)

/-- `(first - second).days`. -/
def days (first second : Moment) : Int := ((first.val : Int) - second.val) / microsPerDay

def timestampDistance (fairValue : FairValueEstimateRecord) (fact : ObservedMarketFactRecord) : Nat :=
  (days fairValue.effectiveAt fact.effectiveAt).natAbs

def timestampConfidence (distance tolerance : Nat) : ℚ :=
  max 0 (1 - min (distance : ℚ) tolerance / tolerance)

def confidenceComponents (fairValue : FairValueEstimateRecord) (fact : ObservedMarketFactRecord)
    (distance : Nat) (methodology : MispricingMethodologySnapshot) : Py Confidence := do
  let fairValueConfidence := fairValue.confidence.value
  require (0 ≤ fairValueConfidence ∧ fairValueConfidence ≤ 1)
    (.authorityError "fair value confidence must be between 0 and 1")
  let marketQuality := fact.confidence.value
  require (0 ≤ marketQuality ∧ marketQuality ≤ 1)
    (.authorityError "observed market price confidence must be between 0 and 1")
  let dispersionRatio := fairValue.modelDispersionRatio.value
  require (0 ≤ dispersionRatio)
    (.authorityError "model dispersion ratio must be a finite non-negative decimal")
  let dispersion := max 0 (1 - min dispersionRatio 1)
  let timestamp := timestampConfidence distance methodology.timestampToleranceDays
  return ⟨fairValueConfidence, marketQuality, dispersion, timestamp,
    min (min (min fairValueConfidence marketQuality) dispersion) timestamp⟩

def made (request : Request) (methodologyRecordId methodologyRecordVersion : String) (raw : Option RawValues)
    (availabilityState : AvailabilityState) : Py MispricingAssessmentRecord := do
  let record : MispricingAssessmentRecord :=
    { identity := request.identity
      methodologyRecordId
      methodologyRecordVersion
      raw
      availabilityState
      effectiveAt := request.effectiveAt
      recordedAt := request.recordedAt
      knownAt := request.knownAt
      supersedesRecordId := request.supersedesRecordId
      correctionReason := request.correctionReason }
  record.check
  return record

/-- `_persist_unavailable_assessment`. -/
def unavailable (request : Request) (methodology : MispricingMethodologySnapshot)
    (state : AvailabilityState) : Py MispricingAssessmentRecord :=
  made request methodology.recordId methodology.semanticVersion none state

/-- A fair value and a price that passed the checks, at compatible times. -/
def compared (request : Request) (methodology : MispricingMethodologySnapshot)
    (fairValue : FairValueEstimateRecord) (fact : ObservedMarketFactRecord) :
    Py MispricingAssessmentRecord := do
  let price := fact.value.value
  let p10 := fairValue.fairValuePerDilutedUnitP10.value
  let p50 := fairValue.fairValuePerDilutedUnitP50.value
  let p90 := fairValue.fairValuePerDilutedUnitP90.value
  let confidence ← confidenceComponents fairValue fact (timestampDistance fairValue fact) methodology
  made request methodology.recordId methodology.semanticVersion
    (some
      { fairValueRecordId := fairValue.recordId
        fairValueRecordVersion := fairValue.semanticVersion
        marketFactRecordId := fact.recordId
        marketFactRecordVersion := fact.semanticVersion
        fairValueP10 := p10
        fairValueP50 := p50
        fairValueP90 := p90
        observedMarketPrice := price
        rawSignedRatio := (p50 - price) / price
        uncertaintyIntervalLower := (p10 - price) / price
        uncertaintyIntervalUpper := (p90 - price) / price
        confidence })
    .uncalibratedNormalization

/-- `assess` of what was stored under the methodology's id and what was strict-known, up to the
record that it stores and returns. -/
def assess (stored : Option MispricingMethodologySnapshot) (known : Option FairValueEstimateRecord)
    (observed : Option ObservedMarketFactRecord) (request : Request) : Py MispricingAssessmentRecord :=
  match authoritativeMethodology stored request with
  | none => made request request.methodologyRecordId "" none .unsupportedMethodology
  | some methodology =>
      if methodology.formulaVersion ≠ supportedFormulaVersion then
        unavailable request methodology .unsupportedMethodology
      else match known with
      | none => unavailable request methodology .noFairValue
      | some fairValue =>
          if ¬identityMatches fairValue.identity request.identity then
            unavailable request methodology .identityMismatch
          else if currencyKey lower fairValue.currency ≠ currencyKey lower methodology.requiredQuoteCurrency then
            unavailable request methodology .unitMismatch
          else if fairValue.supplyBasisSelectionRule ≠ methodology.requiredSupplyBasis then
            unavailable request methodology .supplyBasisMismatch
          else if fairValue.conflictState.settled = false then
            unavailable request methodology .conflictedInputs
          else match observed with
          | none => unavailable request methodology .noMarketObservation
          | some fact =>
              if fact.entityId ≠ request.identity.entityId ∨
                  fact.representationId ≠ request.identity.representationId then
                unavailable request methodology .identityMismatch
              else if currencyKey lower (fact.quoteCurrency.getD "") ≠
                  currencyKey lower methodology.requiredQuoteCurrency then
                unavailable request methodology .unitMismatch
              else if fact.conflictState.settled = false then
                unavailable request methodology .conflictedInputs
              else if fact.value.value ≤ 0 then
                unavailable request methodology .zeroOrNegativePrice
              else if methodology.timestampToleranceDays < timestampDistance fairValue fact then
                unavailable request methodology .incompatibleTimes
              else compared request methodology fairValue fact

/-- The inputs pass all checks but the one of their times. -/
structure Passes (methodology : MispricingMethodologySnapshot) (fairValue : FairValueEstimateRecord)
    (fact : ObservedMarketFactRecord) (request : Request) : Prop where
  authoritative : authoritativeMethodology (some methodology) request = some methodology
  formula : methodology.formulaVersion = supportedFormulaVersion
  identity : identityMatches fairValue.identity request.identity
  currency : currencyKey lower fairValue.currency = currencyKey lower methodology.requiredQuoteCurrency
  supplyBasis : fairValue.supplyBasisSelectionRule = methodology.requiredSupplyBasis
  settled : fairValue.conflictState.settled = true
  factIdentity : fact.entityId = request.identity.entityId ∧
    fact.representationId = request.identity.representationId
  factCurrency : currencyKey lower (fact.quoteCurrency.getD "") =
    currencyKey lower methodology.requiredQuoteCurrency
  factSettled : fact.conflictState.settled = true
  price : 0 < fact.value.value
  dispersion : 0 ≤ fairValue.modelDispersionRatio.value

/-- The distance of two instants in microseconds. -/
def distance (first second : Moment) : Nat := ((first.val : Int) - second.val).natAbs

/-- The state of the assessment and the confidence in its times. -/
def decisionOf (record : MispricingAssessmentRecord) : AvailabilityState × Option ℚ :=
  (record.availabilityState, record.raw.map fun raw => raw.confidence.timestamp)

/-- The interval and the confidence of an assessment that has numbers. -/
structure Sound (raw : RawValues) : Prop where
  interval : -1 ≤ raw.uncertaintyIntervalLower ∧ raw.uncertaintyIntervalLower ≤ raw.rawSignedRatio ∧
    raw.rawSignedRatio ≤ raw.uncertaintyIntervalUpper
  confidence : raw.confidence.overall ≤ raw.confidence.fairValue ∧
    raw.confidence.overall ≤ raw.confidence.marketQuality ∧
    raw.confidence.overall ≤ raw.confidence.dispersion ∧ raw.confidence.overall ≤ raw.confidence.timestamp

structure ComparesTimes (methodology : MispricingMethodologySnapshot) (fairValue : FairValueEstimateRecord)
    (fact : ObservedMarketFactRecord) (request : Request) : Prop where
  decision : (∃ record, assess lower (some methodology) (some fairValue) (some fact) request = .ok record ∧
      record.raw ≠ none) ↔
    distance fairValue.effectiveAt fact.effectiveAt ≤ methodology.timestampToleranceDays * microsPerDay
  exchange : (assess lower (some methodology) (some { fairValue with effectiveAt := fact.effectiveAt })
      (some { fact with effectiveAt := fairValue.effectiveAt }) request).map decisionOf =
    (assess lower (some methodology) (some fairValue) (some fact) request).map decisionOf
  sound : ∀ record raw, assess lower (some methodology) (some fairValue) (some fact) request = .ok record →
    record.raw = some raw → Sound raw

end

end Hunter.Mispricing
