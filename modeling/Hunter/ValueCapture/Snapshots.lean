import Hunter.Execution.AsciiJson
import Hunter.MarketValidation.Replay
import Hunter.ValueCapture.Models

/-!
The three kinds of records that support a valuation: evidence, a supply basis and a rule of value
capture. What is checked where a record is constructed is a field of it. Its logical identity is a
digest of what it is about, and its identity one of its content.
-/

namespace Hunter.ValueCapture

open Calendar
open MarketValidation (blank sha256 blank_sha256)

inductive SupplyBasisType where
  | circulatingSupply | totalSupply | maxSupply | fullyDilutedSupply | issuedSupply | treasuryHeldSupply
  | lockedSupply | vestedButUnreleasedSupply | burnedSupply | protocolOwnedSupply
  deriving DecidableEq, Repr

def SupplyBasisType.text : SupplyBasisType → String
  | circulatingSupply => "circulating_supply"
  | totalSupply => "total_supply"
  | maxSupply => "max_supply"
  | fullyDilutedSupply => "fully_diluted_supply"
  | issuedSupply => "issued_supply"
  | treasuryHeldSupply => "treasury_held_supply"
  | lockedSupply => "locked_supply"
  | vestedButUnreleasedSupply => "vested_but_unreleased_supply"
  | burnedSupply => "burned_supply"
  | protocolOwnedSupply => "protocol_owned_supply"

inductive ValueCaptureRuleType where
  | burn | buyback | buybackAndBurn | stakingDistribution | feeDistribution | revenueDistribution
  | protocolOwnedLiquidityAccrual | redemptionEntitlement | collateralEntitlement
  | governanceDirectedDistribution | noDirectValueCapture | unavailable | unsupported
  deriving DecidableEq, Repr

def ValueCaptureRuleType.text : ValueCaptureRuleType → String
  | burn => "burn"
  | buyback => "buyback"
  | buybackAndBurn => "buyback_and_burn"
  | stakingDistribution => "staking_distribution"
  | feeDistribution => "fee_distribution"
  | revenueDistribution => "revenue_distribution"
  | protocolOwnedLiquidityAccrual => "protocol_owned_liquidity_accrual"
  | redemptionEntitlement => "redemption_entitlement"
  | collateralEntitlement => "collateral_entitlement"
  | governanceDirectedDistribution => "governance_directed_distribution"
  | noDirectValueCapture => "no_direct_value_capture"
  | unavailable => "unavailable"
  | unsupported => "unsupported"

structure Envelope where
  recordId : String
  logicalId : String
  schemaVersion : String
  semanticVersion : String
  identity : EconomicClaimIdentity
  sourceId : String
  parserVersion : String
  sourceRecordId : String
  sourceRecordVersion : String
  uncertainty : String
  effectiveAt : Moment
  recordedAt : Moment
  knownAt : Moment
  /-- The hash of the raw content or payload. -/
  rawHash : String
  qualityState : QualityState
  conflictState : ConflictState
  supersedesRecordId : Option String
  correctionReason : String
  contentHash : String
  acquisitionId : String
  deriving DecidableEq

/-- The texts of an envelope that must not be blank. -/
def Envelope.required (envelope : Envelope) : List String :=
  [envelope.recordId, envelope.logicalId, envelope.schemaVersion, envelope.semanticVersion,
    envelope.sourceId, envelope.parserVersion, envelope.sourceRecordId, envelope.sourceRecordVersion,
    envelope.rawHash, envelope.acquisitionId]

/-- What the construction of a record checks of its envelope. -/
structure Envelope.Valid (envelope : Envelope) : Prop where
  texts : ∀ text ∈ envelope.required, blank text = false
  effective : envelope.effectiveAt ≤ envelope.recordedAt
  recorded : envelope.recordedAt ≤ envelope.knownAt
  correction : correctionGiven envelope.supersedesRecordId envelope.correctionReason
  certain : boundedDecimal envelope.uncertainty
  hashed : isHash envelope.rawHash

def supplyCoherenceRelativeTolerance : Decimal := ⟨false, 1, -4⟩

abbrev QuantityComponents := List (SupplyBasisType × String)

def QuantityComponents.amount (components : QuantityComponents) (supplyBasisType : SupplyBasisType) :
    Option Decimal :=
  (components.find? fun component => component.1 = supplyBasisType).bind fun component =>
    Decimal.parse component.2.scalars

/-- The first quantity is not above the second, where there are both. -/
def QuantityComponents.Within (components : QuantityComponents) (part whole : SupplyBasisType) : Prop :=
  ∀ a ∈ components.amount part, ∀ b ∈ components.amount whole, a.value ≤ b.value

/-- The total is above the fully diluted supply by more than providers are off. -/
def QuantityComponents.Incoherent (components : QuantityComponents) : Prop :=
  ∃ total ∈ components.amount .totalSupply, ∃ diluted ∈ components.amount .fullyDilutedSupply,
    diluted.value < total.value ∧ (diluted.value = 0 ∨
      ∃ gap ∈ (Decimal.minus total diluted).bind fun difference => Decimal.divide difference diluted,
        supplyCoherenceRelativeTolerance.value < gap.value)

@[ext]
structure SupplyBasisSnapshot where
  envelope : Envelope
  supplyBasisType : SupplyBasisType
  quantity : String
  unit : String
  denominatorMeaning : String
  supplyPolicyId : String
  supplyPolicyVersion : String
  quantityComponents : QuantityComponents
  observedMarketFactIds : List String
  observedMarketFactVersions : List String
  confidence : String
  evidenceRecordIds : List String
  valid : envelope.Valid
  texts : ∀ text ∈ [quantity, unit, denominatorMeaning, supplyPolicyId, supplyPolicyVersion],
    blank text = false
  evidenced : evidenceRecordIds ≠ [] ∧ observedMarketFactIds ≠ []
  versions : observedMarketFactIds.length = observedMarketFactVersions.length
  references : ∀ text ∈ observedMarketFactIds ++ observedMarketFactVersions, blank text = false
  distinct : observedMarketFactIds.Nodup
  confident : boundedDecimal confidence
  sorted : quantityComponents.Pairwise fun a b => a.1.text < b.1.text
  counted : ∀ component ∈ quantityComponents,
    ∃ number ∈ Decimal.parse component.2.scalars, 0 ≤ number.value
  selected : ∃ number ∈ Decimal.parse quantity.scalars, 0 ≤ number.value ∧
    ∃ component ∈ quantityComponents.amount supplyBasisType, component.value = number.value
  circulating : quantityComponents.Within .circulatingSupply .totalSupply
  locked : quantityComponents.Within .lockedSupply .totalSupply
  excluded : quantityComponents.Within .treasuryHeldSupply .totalSupply
  /-- An incoherent first record is in conflict, whatever it was given as, and so is a correction
  that was given without one. -/
  surfaced : quantityComponents.Incoherent → envelope.conflictState ≠ .none ∧
    (envelope.supersedesRecordId = none → envelope.conflictState = .opened)

instance : DecidableEq SupplyBasisSnapshot := fun _ _ =>
  decidable_of_iff _ SupplyBasisSnapshot.ext_iff.symm

@[ext]
structure ValueCaptureRuleSnapshot where
  envelope : Envelope
  ruleType : ValueCaptureRuleType
  entitlementScope : String
  beneficiaryScope : String
  sourceEconomicFlow : String
  destinationEconomicFlow : String
  triggerCondition : String
  distributionFormula : String
  rateOrProportion : Option String
  governanceOrContractAuthority : String
  mechanismPolicyId : String
  mechanismPolicyVersion : String
  dilutionTreatment : String
  claimSeniority : String
  applicabilityStart : Moment
  applicabilityEnd : Moment
  limitations : List String
  evidenceRecordVersions : List String
  confidence : String
  evidenceRecordIds : List String
  valid : envelope.Valid
  texts : ∀ text ∈ [entitlementScope, beneficiaryScope, sourceEconomicFlow, destinationEconomicFlow,
    triggerCondition, governanceOrContractAuthority, mechanismPolicyId, mechanismPolicyVersion,
    dilutionTreatment, claimSeniority], blank text = false
  rated : ∀ rate ∈ rateOrProportion, boundedDecimal rate
  evidenced : evidenceRecordIds ≠ [] ∧ evidenceRecordIds.Nodup
  versions : evidenceRecordIds.length = evidenceRecordVersions.length
  references : ∀ text ∈ evidenceRecordIds ++ evidenceRecordVersions ++ limitations, blank text = false
  limited : limitations ≠ [] ∧ limitations.Pairwise (· ≤ ·)
  applicable : applicabilityStart ≤ envelope.effectiveAt ∧ envelope.effectiveAt ≤ applicabilityEnd
  confident : boundedDecimal confidence

instance : DecidableEq ValueCaptureRuleSnapshot := fun _ _ =>
  decidable_of_iff _ ValueCaptureRuleSnapshot.ext_iff.symm

def FundamentalEvidenceRecord.envelope (record : FundamentalEvidenceRecord) : Envelope where
  recordId := record.recordId
  logicalId := record.logicalId
  schemaVersion := record.schemaVersion
  semanticVersion := record.semanticVersion
  identity := record.identity
  sourceId := record.sourceId
  parserVersion := record.parserVersion
  sourceRecordId := record.sourceRecordId
  sourceRecordVersion := record.sourceRecordVersion
  uncertainty := record.uncertainty
  effectiveAt := record.effectiveAt
  recordedAt := record.recordedAt
  knownAt := record.knownAt
  rawHash := record.rawContentHash
  qualityState := record.qualityState
  conflictState := record.conflictState
  supersedesRecordId := record.supersedesRecordId
  correctionReason := record.correctionReason
  contentHash := record.contentHash
  acquisitionId := record.acquisitionId

inductive Kind where
  | evidence | supply | rule
  deriving DecidableEq, Repr

inductive Record where
  | evidence (record : FundamentalEvidenceRecord)
  | supply (record : SupplyBasisSnapshot)
  | rule (record : ValueCaptureRuleSnapshot)
  deriving DecidableEq

namespace Record

def envelope : Record → Envelope
  | evidence record => record.envelope
  | supply record => record.envelope
  | rule record => record.envelope

def kind : Record → Kind
  | evidence _ => .evidence
  | supply _ => .supply
  | rule _ => .rule

def recordId (record : Record) : String := record.envelope.recordId

def supersedesRecordId (record : Record) : Option String := record.envelope.supersedesRecordId

theorem recorded (record : Record) : record.envelope.recordedAt ≤ record.envelope.knownAt := by
  cases record with
  | evidence record => exact record.recorded
  | supply record => exact record.valid.recorded
  | rule record => exact record.valid.recorded

end Record

end Hunter.ValueCapture
