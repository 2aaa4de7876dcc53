import Hunter.Data.Fallible
import Hunter.ValueCapture.Snapshots

/-!
The service that ingests acquisitions of value evidence. An acquisition is authorized, its record
gets its identities from its own content, the conflict policy may then mark it, and it is written
beside its receipt in one transaction. The rows of all kinds share one space of identities.
-/

namespace Hunter.ValueCapture

open Calendar Fallible
open MarketValidation (blank sha256 blank_sha256)

inductive Exn where
  | authorityError (message : String)
  | integrityError (message : String)
  | valueError (message : String)
  deriving DecidableEq, Repr

abbrev Py : Type → Type := Except Exn

structure AcquisitionReceipt where
  acquisitionId : String
  kind : Kind
  capability : String
  sourceId : String
  sourceAuthorityTier : String
  endpoint : String
  parserVersion : String
  registryFingerprint : String
  signingKeyId : String
  acquiredAt : Moment
  identity : EconomicClaimIdentity
  rawPayloadHash : String
  receiptHash : String
  signature : String
  deriving DecidableEq

/-- The source tier that an evidence record carries. -/
def Record.authorityTier? : Record → Option String
  | .evidence record => some record.sourceAuthorityTier
  | _ => none

/-- What a record takes from the receipt of its acquisition. -/
structure AcquisitionReceipt.Covers (receipt : AcquisitionReceipt) (record : Record) : Prop where
  kind : record.kind = receipt.kind
  identity : record.envelope.identity = receipt.identity
  source : record.envelope.sourceId = receipt.sourceId
  tier : ∀ tier ∈ record.authorityTier?, tier = receipt.sourceAuthorityTier
  parser : record.envelope.parserVersion = receipt.parserVersion
  recorded : record.envelope.recordedAt = receipt.acquiredAt
  known : record.envelope.knownAt = receipt.acquiredAt
  payload : record.envelope.rawHash = receipt.rawPayloadHash
  acquisition : record.envelope.acquisitionId = receipt.acquisitionId

/-- An acquisition whose payload reads as a record, which has no identities yet. -/
structure Acquisition where
  receipt : AcquisitionReceipt
  draft : Record
  covers : receipt.Covers draft
  pending : draft.recordId = "pending" ∧ draft.envelope.logicalId = "pending" ∧ draft.envelope.contentHash = ""
  deriving DecidableEq

def optionalJson (text : Option String) : Json := (text.map Json.str).getD .null

/-- `asdict` of a record under the given identities. -/
def FundamentalEvidenceRecord.asdict (record : FundamentalEvidenceRecord) (recordId logicalId contentHash : String) :
    List (String × Json) := [
  ("record_id", .str recordId),
  ("logical_id", .str logicalId),
  ("schema_version", .str record.schemaVersion),
  ("semantic_version", .str record.semanticVersion),
  ("identity", identityFields record.identity),
  ("evidence_type", .str record.evidenceType.text),
  ("source_id", .str record.sourceId),
  ("source_authority_tier", .str record.sourceAuthorityTier),
  ("source_reference", .str record.sourceReference),
  ("parser_version", .str record.parserVersion),
  ("extracted_claim", .str record.extractedClaim),
  ("amount", optionalJson record.amount),
  ("unit", optionalJson record.unit),
  ("accounting_period_start", .str record.accountingPeriodStart.isoformat),
  ("accounting_period_end", .str record.accountingPeriodEnd.isoformat),
  ("attribution_rule_id", .str record.attributionRuleId),
  ("source_methodology", .str record.sourceMethodology),
  ("source_record_id", .str record.sourceRecordId),
  ("source_record_version", .str record.sourceRecordVersion),
  ("entity_link_confidence", .str record.entityLinkConfidence),
  ("evidence_confidence", .str record.evidenceConfidence),
  ("uncertainty", .str record.uncertainty),
  ("effective_at", .str record.effectiveAt.isoformat),
  ("recorded_at", .str record.recordedAt.isoformat),
  ("known_at", .str record.knownAt.isoformat),
  ("raw_content_hash", .str record.rawContentHash),
  ("quality_state", .str record.qualityState.text),
  ("conflict_state", .str record.conflictState.text),
  ("supersedes_record_id", optionalJson record.supersedesRecordId),
  ("correction_reason", .str record.correctionReason),
  ("content_hash", .str contentHash),
  ("acquisition_id", .str record.acquisitionId)]

/-- The fields of a snapshot that both kinds of them have, under the given identities. -/
def Envelope.asdict (envelope : Envelope) (recordId logicalId contentHash : String) : List (String × Json) := [
  ("record_id", .str recordId),
  ("logical_id", .str logicalId),
  ("schema_version", .str envelope.schemaVersion),
  ("semantic_version", .str envelope.semanticVersion),
  ("identity", identityFields envelope.identity),
  ("source_id", .str envelope.sourceId),
  ("parser_version", .str envelope.parserVersion),
  ("source_record_id", .str envelope.sourceRecordId),
  ("source_record_version", .str envelope.sourceRecordVersion),
  ("uncertainty", .str envelope.uncertainty),
  ("effective_at", .str envelope.effectiveAt.isoformat),
  ("recorded_at", .str envelope.recordedAt.isoformat),
  ("known_at", .str envelope.knownAt.isoformat),
  ("raw_payload_hash", .str envelope.rawHash),
  ("quality_state", .str envelope.qualityState.text),
  ("conflict_state", .str envelope.conflictState.text),
  ("supersedes_record_id", optionalJson envelope.supersedesRecordId),
  ("correction_reason", .str envelope.correctionReason),
  ("content_hash", .str contentHash),
  ("acquisition_id", .str envelope.acquisitionId)]

def textItems (texts : List String) : Json := .arr (texts.map Json.str)

def SupplyBasisSnapshot.own (record : SupplyBasisSnapshot) : List (String × Json) := [
  ("supply_basis_type", .str record.supplyBasisType.text),
  ("quantity", .str record.quantity),
  ("unit", .str record.unit),
  ("denominator_meaning", .str record.denominatorMeaning),
  ("supply_policy_id", .str record.supplyPolicyId),
  ("supply_policy_version", .str record.supplyPolicyVersion),
  ("quantity_components", .arr (record.quantityComponents.map fun (type, quantity) =>
    .arr [.str type.text, .str quantity])),
  ("observed_market_fact_ids", textItems record.observedMarketFactIds),
  ("observed_market_fact_versions", textItems record.observedMarketFactVersions),
  ("confidence", .str record.confidence),
  ("evidence_record_ids", textItems record.evidenceRecordIds)]

def ValueCaptureRuleSnapshot.own (record : ValueCaptureRuleSnapshot) : List (String × Json) := [
  ("rule_type", .str record.ruleType.text),
  ("entitlement_scope", .str record.entitlementScope),
  ("beneficiary_scope", .str record.beneficiaryScope),
  ("source_economic_flow", .str record.sourceEconomicFlow),
  ("destination_economic_flow", .str record.destinationEconomicFlow),
  ("trigger_condition", .str record.triggerCondition),
  ("distribution_formula", .str record.distributionFormula),
  ("rate_or_proportion", optionalJson record.rateOrProportion),
  ("governance_or_contract_authority", .str record.governanceOrContractAuthority),
  ("mechanism_policy_id", .str record.mechanismPolicyId),
  ("mechanism_policy_version", .str record.mechanismPolicyVersion),
  ("dilution_treatment", .str record.dilutionTreatment),
  ("claim_seniority", .str record.claimSeniority),
  ("applicability_start", .str record.applicabilityStart.isoformat),
  ("applicability_end", .str record.applicabilityEnd.isoformat),
  ("limitations", textItems record.limitations),
  ("evidence_record_versions", textItems record.evidenceRecordVersions),
  ("confidence", .str record.confidence),
  ("evidence_record_ids", textItems record.evidenceRecordIds)]

namespace Record

def asdict (record : Record) (recordId logicalId contentHash : String) : List (String × Json) :=
  match record with
  | evidence record => record.asdict recordId logicalId contentHash
  | supply record => record.envelope.asdict recordId logicalId contentHash ++ record.own
  | rule record => record.envelope.asdict recordId logicalId contentHash ++ record.own

def category : Record → String
  | evidence record => "evidence:" ++ record.evidenceType.text ++ ":" ++ record.sourceReference
  | supply record => "supply:" ++ record.supplyBasisType.text
  | rule record => "rule:" ++ record.ruleType.text

/-- What a logical identity is the digest of. -/
def logicalText (record : Record) : String :=
  let identity := record.envelope.identity
  "|".intercalate [identity.entityId, identity.economicClaimId, identity.assetId, identity.representationId,
    identity.tokenId, identity.chain, identity.contractAddress, record.category]

/-- `_logical_id`. -/
def logicalIdOf (record : Record) : String := sha256 record.logicalText

/-- `_content_hash`. -/
def contentHashOf (record : Record) (logicalId : String) : String :=
  sha256 (Json.asciiDumps (.obj (record.asdict "" logicalId "")))

def conflictPolicyExcludedFields : List String := [
  "record_id", "logical_id", "content_hash", "recorded_at", "known_at", "quality_state", "conflict_state",
  "supersedes_record_id", "correction_reason", "acquisition_id"]

/-- `_value_fingerprint`. -/
def valueFingerprint (record : Record) : String :=
  sha256 (Json.asciiDumps (.obj ((record.asdict record.recordId record.envelope.logicalId
    record.envelope.contentHash).filter fun field => field.1 ∉ conflictPolicyExcludedFields)))

end Record

def Envelope.identified (envelope : Envelope) (recordId logicalId contentHash : String) : Envelope :=
  { envelope with recordId, logicalId, contentHash }

theorem Envelope.Valid.identified {envelope : Envelope} (valid : envelope.Valid)
    {recordId logicalId contentHash : String} (texts : blank recordId = false ∧ blank logicalId = false) :
    (envelope.identified recordId logicalId contentHash).Valid := by
  refine ⟨fun text there => ?_, valid.effective, valid.recorded, valid.correction, valid.certain, valid.hashed⟩
  have old := valid.texts text
  simp only [Envelope.required, Envelope.identified, List.mem_cons] at there old
  rcases there with rfl | rfl | there
  · exact texts.1
  · exact texts.2
  · exact old (Or.inr (Or.inr there))

def Envelope.marked (envelope : Envelope) : Envelope := { envelope with conflictState := .opened }

theorem Envelope.Valid.marked {envelope : Envelope} (valid : envelope.Valid) : envelope.marked.Valid :=
  ⟨valid.texts, valid.effective, valid.recorded, valid.correction, valid.certain, valid.hashed⟩

namespace Record

/-- `replace(record, logical_id=…, content_hash=…, record_id=…)`. -/
def identified (record : Record) (recordId logicalId contentHash : String)
    (nonblank : blank recordId = false ∧ blank logicalId = false) : Record :=
  match record with
  | evidence record => .evidence
      { record with
        recordId, logicalId, contentHash
        texts := by
          intro text there
          have old := record.texts text
          simp only [List.mem_cons] at there old
          rcases there with rfl | rfl | there
          · exact nonblank.1
          · exact nonblank.2
          · exact old (Or.inr (Or.inr there)) }
  | supply record => .supply
      { record with
        envelope := record.envelope.identified recordId logicalId contentHash
        valid := record.valid.identified nonblank }
  | rule record => .rule
      { record with
        envelope := record.envelope.identified recordId logicalId contentHash
        valid := record.valid.identified nonblank }

/-- `replace(record, conflict_state="open")`. -/
def marked : Record → Record
  | evidence record => .evidence { record with conflictState := .opened }
  | supply record => .supply
      { record with
        envelope := record.envelope.marked
        valid := record.valid.marked
        surfaced := fun _ => ⟨nofun, fun _ => rfl⟩ }
  | rule record => .rule { record with envelope := record.envelope.marked, valid := record.valid.marked }

/-- `_normalize`: the identities of a record come from its content. -/
def normalize (record : Record) : Record :=
  let logicalId := record.logicalIdOf
  let contentHash := record.contentHashOf logicalId
  record.identified (sha256 (logicalId ++ ":" ++ contentHash)) logicalId contentHash
    ⟨blank_sha256 _, blank_sha256 _⟩

end Record

inductive Row where
  | receipt (receipt : AcquisitionReceipt)
  | record (record : Record)
  deriving DecidableEq

namespace Row

def id : Row → String
  | receipt received => received.acquisitionId
  | record kept => kept.recordId

def record? : Row → Option Record
  | receipt _ => none
  | record kept => some kept

end Row

/-- The stored rows. None is ever deleted. -/
abbrev Store := List Row

namespace Store

def load (stored : Store) (id : String) : Option Row := stored.find? fun row => row.id = id

/-- The hash of a row covers all of it, and is compared as the row. -/
def save (stored : Store) (row : Row) : Py Store :=
  match stored.load row.id with
  | some existing => do
      require (existing = row) (.integrityError ("Record identity conflict: " ++ row.id))
      return stored
  | none => .ok (stored ++ [row])

/-- The record of a kind under an identity. -/
def record (stored : Store) (kind : Kind) (id : String) : Option Record :=
  ((stored.load id).bind Row.record?).filter fun record => record.kind = kind

def records (stored : Store) (kind : Kind) : List Record :=
  (stored.filterMap Row.record?).filter fun record => record.kind = kind

def history (stored : Store) (kind : Kind) (logicalId : String) : List Record :=
  (stored.records kind).filter fun record => record.envelope.logicalId = logicalId

end Store

inductive AuthorityTier where
  | unverified | aggregator | onchain | audited | official
  deriving DecidableEq, Repr

def AuthorityTier.rank : AuthorityTier → Nat
  | unverified => 0
  | aggregator => 1
  | onchain => 2
  | audited => 3
  | official => 4

structure ValueCaptureSourceConfig where
  sourceId : String
  authorityTier : AuthorityTier
  fingerprint : String
  correctionPredecessorTiers : List AuthorityTier
  deriving DecidableEq

structure ObservedMarketFact where
  semanticVersion : String
  entityId : String
  assetId : String
  representationId : String
  chain : String
  contractAddress : String
  effectiveAt : Moment
  recordedAt : Moment
  knownAt : Moment
  qualityState : String
  conflictState : String
  deriving DecidableEq

structure RegisteredValueCaptureProvider where
  sourceId : String
  /-- `verify`: the signature of the result under the key of the provider. -/
  verifies : Acquisition → Bool

/-- What the service was built with. -/
structure Authorities where
  sources : List ValueCaptureSourceConfig
  /-- `authorize`: the endpoint, the parser and the capability are those of the source. -/
  admits : ValueCaptureSourceConfig → AcquisitionReceipt → Py Unit
  verifyReceipt : AcquisitionReceipt → Bool
  /-- `market_fact_repository.record`. -/
  marketFact : String → Option ObservedMarketFact

/-- An ingestion: the provider, its result and the kind of record that the caller asks for. -/
structure Ingestion where
  provider : RegisteredValueCaptureProvider
  result : Acquisition
  expectedKind : Kind

section

variable (authorities : Authorities)

/-- `registry.require`. -/
def Authorities.source (sourceId : String) : Py ValueCaptureSourceConfig :=
  match authorities.sources.find? fun source => source.sourceId = sourceId with
  | some source => .ok source
  | none => .error (.valueError ("unregistered value-capture source: " ++ sourceId))

def authorizeCorrectionTransition (predecessorSourceId successorSourceId : String) : Py Unit := do
  let predecessor ← authorities.source predecessorSourceId
  let successor ← authorities.source successorSourceId
  if predecessor.sourceId = successor.sourceId then return ()
  else do
    require (predecessor.authorityTier ∈ successor.correctionPredecessorTiers)
      (.valueError "correction source transition is not registry-authorized")
    require (predecessor.authorityTier.rank ≤ successor.authorityTier.rank)
      (.valueError "correction cannot downgrade source authority")

def authorizeResult (ingestion : Ingestion) : Py Unit := do
  let receipt := ingestion.result.receipt
  require (ingestion.provider.verifies ingestion.result = true)
    (.authorityError "provider signature or acquisition receipt is invalid")
  require (ingestion.provider.sourceId = receipt.sourceId)
    (.authorityError "provider source does not match acquisition receipt")
  require (receipt.kind = ingestion.expectedKind) (.authorityError "provider acquisition kind mismatch")
  let source ← authorities.source receipt.sourceId
  authorities.admits source receipt
  require (receipt.registryFingerprint = source.fingerprint) (.authorityError "registry fingerprint mismatch")

/-- The evidence that a snapshot refers to, with the versions that a rule expects of it. -/
def evidenceReferences : Record → List (String × Option String)
  | .evidence _ => []
  | .supply record => record.evidenceRecordIds.map fun id => (id, none)
  | .rule record => record.evidenceRecordIds.zip (record.evidenceRecordVersions.map some)

def checkEvidence (stored : Store) (record : Record) (reference : String × Option String) : Py Unit := do
  match stored.record .evidence reference.1 with
  | none => .error (.authorityError ("authoritative evidence does not exist: " ++ reference.1))
  | some found => do
      let evidence := found.envelope
      let snapshot := record.envelope
      require (evidence.identity = snapshot.identity)
        (.authorityError "evidence identity does not match snapshot identity")
      require (∀ version ∈ reference.2, evidence.semanticVersion = version)
        (.authorityError "evidence version does not match snapshot reference")
      require (evidence.sourceId = snapshot.sourceId ∧ evidence.parserVersion = snapshot.parserVersion)
        (.authorityError "evidence source/parser provenance mismatch")
      require (evidence.effectiveAt ≤ snapshot.effectiveAt)
        (.authorityError "future-effective evidence cannot support snapshot")
      require (evidence.recordedAt ≤ snapshot.recordedAt ∧ evidence.knownAt ≤ snapshot.knownAt)
        (.authorityError "future-known evidence cannot support snapshot")
      require (evidence.qualityState = .accepted ∧ evidence.conflictState.settled = true)
        (.authorityError "non-authoritative evidence cannot support snapshot")

def requireEvidence (stored : Store) (record : Record) : Py Unit :=
  (evidenceReferences record).forM (checkEvidence stored record)

/-- The observed market facts that a supply basis refers to, with their versions. -/
def factReferences : Record → List (String × String)
  | .supply record => record.observedMarketFactIds.zip record.observedMarketFactVersions
  | _ => []

def checkMarketFact (record : Record) (reference : String × String) : Py Unit := do
  match authorities.marketFact reference.1 with
  | none => .error (.authorityError ("authoritative observed market fact does not exist: " ++ reference.1))
  | some fact => do
      let snapshot := record.envelope
      require (fact.semanticVersion = reference.2)
        (.authorityError "observed market fact version does not match snapshot reference")
      require (fact.entityId = snapshot.identity.entityId ∧ fact.assetId = snapshot.identity.assetId ∧
          fact.representationId = snapshot.identity.representationId ∧ fact.chain = snapshot.identity.chain ∧
          fact.contractAddress = snapshot.identity.contractAddress)
        (.authorityError "observed market fact identity does not match snapshot identity")
      require (fact.effectiveAt ≤ snapshot.effectiveAt)
        (.authorityError "future-effective market fact cannot support snapshot")
      require (fact.recordedAt ≤ snapshot.recordedAt ∧ fact.knownAt ≤ snapshot.knownAt)
        (.authorityError "future-known market fact cannot support snapshot")
      require (fact.qualityState = "accepted" ∧ fact.conflictState ∈ ["none", "resolved"])
        (.authorityError "non-authoritative market fact cannot support snapshot")

def requireObservedMarketFacts (record : Record) : Py Unit :=
  (factReferences record).forM (checkMarketFact authorities record)

/-- An accepted record of the same subject and time, which nothing supersedes, says otherwise. -/
def Divergent (stored : Store) (record : Record) : Prop :=
  ∃ item ∈ stored.history record.kind record.envelope.logicalId,
    item.recordId ∉ (stored.history record.kind record.envelope.logicalId).filterMap Record.supersedesRecordId ∧
    some item.recordId ≠ record.supersedesRecordId ∧ item.envelope.qualityState = .accepted ∧
    item.envelope.effectiveAt = record.envelope.effectiveAt ∧ item.valueFingerprint ≠ record.valueFingerprint

instance (stored : Store) (record : Record) : Decidable (Divergent stored record) :=
  inferInstanceAs (Decidable (∃ _ ∈ _, _))

def applyConflictPolicy (stored : Store) (record : Record) : Record :=
  if Divergent stored record ∧ record.envelope.conflictState = .none then record.marked else record

def authorizeCorrection (stored : Store) (record : Record) : Py Unit :=
  match record.supersedesRecordId with
  | none => .ok ()
  | some predecessorId =>
      match stored.record record.kind predecessorId with
      | none => .error (.authorityError "correction predecessor does not exist")
      | some predecessor =>
          authorizeCorrectionTransition authorities predecessor.envelope.sourceId record.envelope.sourceId

def validateReceiptBinding (receipt : AcquisitionReceipt) (record : Record) : Py Unit := do
  require (receipt.acquisitionId = record.envelope.acquisitionId)
    (.integrityError "record acquisition_id does not match receipt")
  require (receipt.rawPayloadHash = record.envelope.rawHash)
    (.integrityError "record payload hash does not match receipt")
  require (receipt.sourceId = record.envelope.sourceId ∧ receipt.parserVersion = record.envelope.parserVersion)
    (.integrityError "record source/parser does not match receipt")
  require (receipt.identity = record.envelope.identity) (.integrityError "record identity does not match receipt")
  require (receipt.acquiredAt = record.envelope.recordedAt ∧ receipt.acquiredAt = record.envelope.knownAt)
    (.integrityError "record chronology does not match receipt")

/-- A correction follows a stored record of its kind that nothing follows yet. -/
def checkPredecessor (stored : Store) (record : Record) : Py Unit :=
  match record.supersedesRecordId with
  | none => .ok ()
  | some predecessor =>
      match stored.record record.kind predecessor with
      | none => .error (.integrityError "superseded record does not exist")
      | some prior => do
          require (prior.envelope.logicalId = record.envelope.logicalId)
            (.integrityError "correction must preserve logical_id")
          require (prior.envelope.recordedAt < record.envelope.recordedAt)
            (.integrityError "correction recorded_at must follow predecessor")
          require (prior.envelope.knownAt < record.envelope.knownAt)
            (.integrityError "correction known_at must follow predecessor")
          require (∀ item ∈ stored.records record.kind, item.supersedesRecordId ≠ some predecessor)
            (.integrityError "branching correction lineage is prohibited")

def insertRecord (stored : Store) (record : Record) : Py Store := do
  checkPredecessor stored record
  stored.save (.record record)

/-- `ingest_evidence`, `ingest_supply` and `ingest_rule`. -/
def ingest (stored : Store) (ingestion : Ingestion) : Py (Record × Store) := do
  let receipt := ingestion.result.receipt
  authorizeResult authorities ingestion
  let record := applyConflictPolicy stored ingestion.result.draft.normalize
  authorizeCorrection authorities stored record
  requireEvidence stored record
  requireObservedMarketFacts authorities record
  require (authorities.verifyReceipt receipt = true)
    (.integrityError "receipt hash or signature is not verification-key authorized")
  validateReceiptBinding receipt record
  let received ← stored.save (.receipt receipt)
  let after ← insertRecord received record
  return (record, after)

end

end Hunter.ValueCapture
