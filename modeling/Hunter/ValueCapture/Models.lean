import Hunter.MarketValidation.History
import Hunter.Text.DecimalContext

/-!
Records of fundamental value evidence. Their texts, their states and the order of their times
are checked where they are constructed, and are here fields of the records.
-/

namespace Hunter.ValueCapture

open Calendar
open MarketValidation (blank)

inductive EvidenceType where
  | officialDisclosure | onchainObservation | governanceRecord | auditedFinancialDisclosure
  | marketFactReference
  deriving DecidableEq, Repr

def EvidenceType.text : EvidenceType → String
  | .officialDisclosure => "official_disclosure"
  | .onchainObservation => "onchain_observation"
  | .governanceRecord => "governance_record"
  | .auditedFinancialDisclosure => "audited_financial_disclosure"
  | .marketFactReference => "market_fact_reference"

inductive QualityState where
  | accepted | stale | incomplete | ambiguous | unavailable | unsupported
  deriving DecidableEq, Repr

def QualityState.text : QualityState → String
  | .accepted => "accepted"
  | .stale => "stale"
  | .incomplete => "partial"
  | .ambiguous => "ambiguous"
  | .unavailable => "unavailable"
  | .unsupported => "unsupported"

inductive ConflictState where
  | none | opened | contested | resolved
  deriving DecidableEq, Repr

def ConflictState.text : ConflictState → String
  | .none => "none"
  | .opened => "open"
  | .contested => "contested"
  | .resolved => "resolved"

/-- `conflict_state in {"none", "resolved"}`. -/
def ConflictState.settled (state : ConflictState) : Bool := state = .none || state = .resolved

structure EconomicClaimIdentity where
  entityId : String
  economicClaimId : String
  assetId : String
  representationId : String
  tokenId : String
  chain : String
  contractAddress : String
  texts : ∀ text ∈ [entityId, economicClaimId, assetId, representationId, tokenId], blank text = false
  contract : chain = "" ↔ contractAddress = ""
  deriving DecidableEq

theorem EconomicClaimIdentity.no_contract : ("" : String) = "" ↔ ("" : String) = "" := Iff.rfl

/-- `asdict` of an identity. -/
def identityFields (identity : EconomicClaimIdentity) : Json :=
  .obj [("entity_id", .str identity.entityId), ("economic_claim_id", .str identity.economicClaimId),
    ("asset_id", .str identity.assetId), ("representation_id", .str identity.representationId),
    ("token_id", .str identity.tokenId), ("chain", .str identity.chain),
    ("contract_address", .str identity.contractAddress)]

/-- A text that is read as a decimal number from 0 to 1. -/
def boundedDecimal (text : String) : Prop :=
  ∃ number ∈ Decimal.parse text.scalars, 0 ≤ number.value ∧ number.value ≤ 1

/-- The predecessor and the reason of a correction are given together. -/
def correctionGiven (supersedesRecordId : Option String) (reason : String) : Prop :=
  (supersedesRecordId = none ∨ supersedesRecordId = some "") ↔ blank reason = true

def isHash (text : String) : Prop :=
  text.scalars.length = 64 ∧ ∀ c ∈ text.scalars, (Json.hexValue c).isSome

@[ext]
structure FundamentalEvidenceRecord where
  recordId : String
  logicalId : String
  schemaVersion : String
  semanticVersion : String
  identity : EconomicClaimIdentity
  evidenceType : EvidenceType
  sourceId : String
  sourceAuthorityTier : String
  sourceReference : String
  parserVersion : String
  extractedClaim : String
  amount : Option String
  unit : Option String
  accountingPeriodStart : Moment
  accountingPeriodEnd : Moment
  attributionRuleId : String
  sourceMethodology : String
  sourceRecordId : String
  sourceRecordVersion : String
  entityLinkConfidence : String
  evidenceConfidence : String
  uncertainty : String
  effectiveAt : Moment
  recordedAt : Moment
  knownAt : Moment
  rawContentHash : String
  qualityState : QualityState
  conflictState : ConflictState
  supersedesRecordId : Option String
  correctionReason : String
  contentHash : String
  acquisitionId : String
  texts : ∀ text ∈ [recordId, logicalId, schemaVersion, semanticVersion, sourceId, sourceAuthorityTier,
    sourceReference, parserVersion, extractedClaim, attributionRuleId, sourceMethodology, sourceRecordId,
    sourceRecordVersion, rawContentHash, acquisitionId], blank text = false
  effective : effectiveAt ≤ recordedAt
  recorded : recordedAt ≤ knownAt
  correction : correctionGiven supersedesRecordId correctionReason
  period : accountingPeriodStart ≤ accountingPeriodEnd
  observed : accountingPeriodEnd ≤ effectiveAt
  bounded : ∀ text ∈ [entityLinkConfidence, evidenceConfidence, uncertainty], boundedDecimal text
  hashed : isHash rawContentHash
  measured : ∀ text ∈ amount, (Decimal.parse text.scalars).isSome ∧ ∃ name ∈ unit, blank name = false
  unmeasured : amount = none → unit = none

instance : DecidableEq FundamentalEvidenceRecord := fun _ _ =>
  decidable_of_iff _ FundamentalEvidenceRecord.ext_iff.symm

end Hunter.ValueCapture
