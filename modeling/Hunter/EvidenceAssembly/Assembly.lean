import Mathlib
import Hunter.Data.Sorting
import Hunter.EvidenceAssembly.Registry
import Hunter.ValueCapture.Models

/-!
The assembly of evidence for a window from disclosures of shorter periods. The constituents
are checked against the authorities, duplicates are dropped, and what is left has to cover the
window without a gap before its amounts are added. The record that is made from them is stored
as a root or as the correction of a stored one.
-/

namespace Hunter.EvidenceAssembly

open Calendar Fallible
open MarketValidation (blank readTime sha256)
open ValueCapture (EconomicClaimIdentity FundamentalEvidenceRecord QualityState identityFields)

structure AssemblyConflictRecord where
  recordId : String
  entityId : String
  economicClaimId : String
  accountingWindowStart : Moment
  accountingWindowEnd : Moment
  candidateRecordIds : List String
  reason : String
  recordedAt : Moment
  knownAt : Moment
  contentHash : String
  deriving DecidableEq

inductive AssemblyExn where
  | assemblyError (message : String)
  /-- The conflict is given to the repository before the error is raised. -/
  | conflict (conflict : AssemblyConflictRecord) (message : String)
  | persistenceError (message : String)
  | valueError (message : String)
  | overflow
  deriving DecidableEq

@[ext]
structure AssemblyConstituent where
  record : FundamentalEvidenceRecord
  shapeId : String
  currency : String
  rawUnit : String
  accountingMeaning : AccountingMeaning
  supplyBasisId : String
  pathwayId : String
  representationContinuityProofId : String
  pathwayContinuityProofId : String
  supplyBasisContinuityProofId : String
  texts : ∀ text ∈ [shapeId, currency, rawUnit, supplyBasisId, pathwayId], blank text = false
  measured : record.unit.isSome ∧ record.amount.isSome

instance : DecidableEq AssemblyConstituent := fun _ _ =>
  decidable_of_iff _ AssemblyConstituent.ext_iff.symm

structure AuthoritativeEvidenceSemantics where
  evidenceRecordId : String
  evidenceRecordVersion : String
  shapeId : String
  currency : String
  rawUnit : String
  accountingMeaning : AccountingMeaning
  supplyBasisId : String
  pathwayId : String
  effectiveAt : Moment
  recordedAt : Moment
  knownAt : Moment
  qualityState : QualityState
  conflictState : ValueCapture.ConflictState
  representationContinuityAsserted : Bool
  representationContinuityProofId : String
  deriving DecidableEq

structure MethodologyEvidenceInputContract where
  contractId : String
  contractVersion : String
  acceptsAssembledEvidence : Bool
  acceptedShapeIds : List String
  acceptedAssemblyRuleVersions : List String
  accountingWindowStart : Moment
  accountingWindowEnd : Moment
  exactGapFreeNonOverlappingCoverageRequired : Bool
  allowRepresentationBoundaryCrossing : Bool
  allowPathwayBoundaryCrossing : Bool
  allowSupplyBasisBoundaryCrossing : Bool
  provenanceContentHashRequired : Bool
  conflictPolicy : String
  minimumQualityState : String
  entityId : String
  representationId : String
  valueCapturePathwayId : String
  currency : String
  unit : String
  missingnessBehavior : String
  strictKnownRequired : Bool
  effectiveAt : Moment
  recordedAt : Moment
  knownAt : Moment
  qualityState : QualityState
  conflictState : ValueCapture.ConflictState
  deriving DecidableEq

/-- The answers of the authorities that an assembly asks, and how the runtime folds the case of a
text. -/
structure Authorities where
  overlappingEvidence : (entityId economicClaimId : String) →
    (accountingWindowStart accountingWindowEnd knownBy : Moment) → List FundamentalEvidenceRecord
  strictKnownContract : (contractId contractVersion : String) → (effectiveAsOf knownBy : Moment) →
    Option MethodologyEvidenceInputContract
  strictKnownRegistry : (version : String) → (knownBy : Moment) → Option EvidenceShapeRegistry
  strictKnownSemantics : (evidenceRecordId evidenceRecordVersion : String) → (knownBy : Moment) →
    Option AuthoritativeEvidenceSemantics
  /-- `str.casefold`. -/
  casefold : String → String

/-- An aware time with the text that `isoformat` gives in its own offset. -/
structure Stamp where
  instant : Moment
  text : String
  reads : readTime text = .ok (.aware instant)

structure AssemblyRequest where
  constituents : List AssemblyConstituent
  accountingWindowStart : Stamp
  accountingWindowEnd : Stamp
  recordedAt : Moment
  replayCutoff : Moment
  methodologyContractId : String
  methodologyContractVersion : String
  evidenceShapeRegistryVersion : String
  semanticVersion : String
  supersedesRecordId : Option String
  correctionReason : String

/-- The amount and the confidence are held as the numbers that their texts are of. -/
structure AssembledFundamentalEvidenceRecord where
  recordId : String
  logicalId : String
  semanticVersion : String
  evidenceShapeRegistryVersion : String
  methodologyContractId : String
  methodologyContractVersion : String
  identity : EconomicClaimIdentity
  representationContinuityProofId : String
  valueCapturePathwayId : String
  pathwayContinuityProofId : String
  supplyBasisId : String
  supplyBasisContinuityProofId : String
  currency : String
  unit : String
  accountingMeaning : AccountingMeaning
  accountingWindowStart : Moment
  accountingWindowEnd : Moment
  amount : Decimal
  constituentRecordIds : List String
  constituentLogicalIds : List String
  constituentVersions : List String
  constituentContentHashes : List String
  constituentSourceIds : List String
  constituentSourceReferences : List String
  constituentShapeIds : List String
  assemblyContentHash : String
  effectiveAt : Moment
  recordedAt : Moment
  knownAt : Moment
  confidenceState : Decimal
  supersedesRecordId : Option String
  correctionReason : String
  deriving DecidableEq

def assemblyRuleVersion : String := "lossless-exact-coverage-v1"

/-- `asdict` of a record. -/
def recordFields (record : FundamentalEvidenceRecord) : List (String × Json) :=
  [("record_id", .str record.recordId), ("logical_id", .str record.logicalId),
    ("schema_version", .str record.schemaVersion), ("semantic_version", .str record.semanticVersion),
    ("identity", identityFields record.identity),
    ("evidence_type", .str record.evidenceType.text), ("source_id", .str record.sourceId),
    ("source_authority_tier", .str record.sourceAuthorityTier),
    ("source_reference", .str record.sourceReference), ("parser_version", .str record.parserVersion),
    ("extracted_claim", .str record.extractedClaim), ("amount", optionalText record.amount),
    ("unit", optionalText record.unit),
    ("accounting_period_start", .str record.accountingPeriodStart.isoformat),
    ("accounting_period_end", .str record.accountingPeriodEnd.isoformat),
    ("attribution_rule_id", .str record.attributionRuleId),
    ("source_methodology", .str record.sourceMethodology), ("source_record_id", .str record.sourceRecordId),
    ("source_record_version", .str record.sourceRecordVersion),
    ("entity_link_confidence", .str record.entityLinkConfidence),
    ("evidence_confidence", .str record.evidenceConfidence), ("uncertainty", .str record.uncertainty),
    ("effective_at", .str record.effectiveAt.isoformat), ("recorded_at", .str record.recordedAt.isoformat),
    ("known_at", .str record.knownAt.isoformat), ("raw_content_hash", .str record.rawContentHash),
    ("quality_state", .str record.qualityState.text), ("conflict_state", .str record.conflictState.text),
    ("supersedes_record_id", optionalText record.supersedesRecordId),
    ("correction_reason", .str record.correctionReason), ("content_hash", .str record.contentHash),
    ("acquisition_id", .str record.acquisitionId)]

/-- What two records that disclose the same have in common. -/
def disclosed (record : FundamentalEvidenceRecord) : List (String × Json) :=
  (recordFields record).filter fun field =>
    field.1 ∉ ["record_id", "logical_id", "source_record_id", "acquisition_id", "content_hash"]

namespace AssemblyConstituent

def relevant (item : AssemblyConstituent) : List (String × Json) × List String :=
  (disclosed item.record, [item.shapeId, item.currency, item.rawUnit, item.accountingMeaning.text,
    item.supplyBasisId, item.pathwayId, item.representationContinuityProofId,
    item.pathwayContinuityProofId, item.supplyBasisContinuityProofId])

def window (item : AssemblyConstituent) : Moment × Moment :=
  (item.record.accountingPeriodStart, item.record.accountingPeriodEnd)

def place (item : AssemblyConstituent) : Moment ×ₗ String :=
  toLex (item.record.accountingPeriodStart, item.record.recordId)

end AssemblyConstituent

def fetchContract (authorities : Authorities) (request : AssemblyRequest) :
    Except AssemblyExn MethodologyEvidenceInputContract :=
  match authorities.strictKnownContract request.methodologyContractId request.methodologyContractVersion
      request.accountingWindowEnd.instant request.replayCutoff with
  | none => .error (.assemblyError "no exact strict-known methodology evidence contract")
  | some contract => do
      require (contract.contractId = request.methodologyContractId ∧
          contract.contractVersion = request.methodologyContractVersion ∧
          contract.effectiveAt ≤ request.replayCutoff ∧ contract.recordedAt ≤ request.replayCutoff ∧
          contract.knownAt ≤ request.replayCutoff ∧ contract.qualityState = .accepted ∧
          contract.conflictState.settled)
        (.assemblyError "methodology evidence contract is not exact and strict-known")
      return contract

def fetchRegistry (authorities : Authorities) (request : AssemblyRequest) :
    Except AssemblyExn EvidenceShapeRegistry :=
  match authorities.strictKnownRegistry request.evidenceShapeRegistryVersion request.replayCutoff with
  | none => .error (.assemblyError "no exact strict-known Evidence Shape Registry snapshot")
  | some registry => do
      require (registry.version = request.evidenceShapeRegistryVersion ∧
          registry.effectiveAt ≤ request.replayCutoff ∧ registry.recordedAt ≤ request.replayCutoff ∧
          registry.knownAt ≤ request.replayCutoff)
        (.assemblyError "Evidence Shape Registry snapshot is not exact and strict-known")
      return registry

def validateMethodologyContract (authorities : Authorities) (contract : MethodologyEvidenceInputContract)
    (request : AssemblyRequest) : Except AssemblyExn Unit :=
  match request.constituents with
  | [] => .error (.valueError "tuple index out of range")
  | first :: rest => do
      require (contract.acceptsAssembledEvidence)
        (.assemblyError "methodology contract has not opted into assembled evidence")
      require (assemblyRuleVersion ∈ contract.acceptedAssemblyRuleVersions)
        (.assemblyError "methodology contract rejects assembly rule version")
      require (∀ item ∈ first :: rest, item.shapeId ∈ contract.acceptedShapeIds)
        (.assemblyError "methodology contract rejects evidence shape")
      require (contract.accountingWindowStart = request.accountingWindowStart.instant ∧
          contract.accountingWindowEnd = request.accountingWindowEnd.instant)
        (.assemblyError "methodology contract accounting window mismatch")
      require (contract.exactGapFreeNonOverlappingCoverageRequired ∧
          contract.provenanceContentHashRequired ∧ contract.strictKnownRequired)
        (.assemblyError "methodology contract omits mandatory assembly requirements")
      require (contract.conflictPolicy = "reject" ∧ contract.minimumQualityState = "accepted" ∧
          contract.missingnessBehavior = "unavailable")
        (.assemblyError "methodology contract has incompatible fail-closed policy")
      require (contract.entityId = first.record.identity.entityId)
        (.assemblyError "methodology contract entity mismatch")
      require (contract.representationId = first.record.identity.representationId)
        (.assemblyError "methodology contract representation mismatch")
      require (∀ item ∈ first :: rest, item.pathwayId = contract.valueCapturePathwayId)
        (.assemblyError "methodology contract pathway mismatch")
      require (authorities.casefold contract.currency = authorities.casefold first.currency ∧
          contract.unit = first.rawUnit)
        (.assemblyError "methodology contract currency or unit mismatch")
      require (contract.allowRepresentationBoundaryCrossing = false ∧
          contract.allowPathwayBoundaryCrossing = false ∧
          contract.allowSupplyBasisBoundaryCrossing = false)
        (.assemblyError
          "boundary crossing is unavailable without a separate governed continuity-proof authority")

/-- The semantics are those of the record and are known at the cutoff. -/
def AuthoritativeEvidenceSemantics.exact (semantics : AuthoritativeEvidenceSemantics)
    (record : FundamentalEvidenceRecord) (cutoff : Moment) : Bool :=
  semantics.evidenceRecordId = record.recordId && semantics.evidenceRecordVersion = record.semanticVersion &&
    semantics.effectiveAt ≤ cutoff && semantics.recordedAt ≤ cutoff && semantics.knownAt ≤ cutoff &&
    semantics.qualityState = .accepted && semantics.conflictState.settled

def checkSemantics (authorities : Authorities) (cutoff : Moment) (item : AssemblyConstituent) :
    Except AssemblyExn Unit :=
  match authorities.strictKnownSemantics item.record.recordId item.record.semanticVersion cutoff with
  | none => .error (.assemblyError "no exact strict-known authoritative evidence semantics")
  | some semantics => do
      require (semantics.exact item.record cutoff ∧ item.shapeId = semantics.shapeId ∧
          item.currency = semantics.currency ∧ item.rawUnit = semantics.rawUnit ∧
          item.accountingMeaning = semantics.accountingMeaning ∧
          item.supplyBasisId = semantics.supplyBasisId ∧ item.pathwayId = semantics.pathwayId)
        (.assemblyError
          "constituent metadata does not match authoritative strict-known evidence semantics")
      require (semantics.representationContinuityAsserted = false ∨
          item.representationContinuityProofId = "" ∨
          item.representationContinuityProofId = semantics.representationContinuityProofId)
        (.assemblyError
          "constituent representation continuity proof mismatch against authoritative semantics")

/-- A window that is there already is dropped when it discloses the same. -/
def keep (kept : List AssemblyConstituent) (item : AssemblyConstituent) :
    Except AssemblyExn (List AssemblyConstituent) :=
  match kept.find? fun prior => prior.window = item.window with
  | none => .ok (kept ++ [item])
  | some prior => do
      require (item.relevant = prior.relevant)
        (.assemblyError "divergent duplicate accounting interval")
      return kept

def deduplicateIdentical (constituents : List AssemblyConstituent) :
    Except AssemblyExn (List AssemblyConstituent) :=
  constituents.foldlM keep []

def resolveShape (registry : EvidenceShapeRegistry) (shapeId : String) : Except AssemblyExn EvidenceShape :=
  match registry.shapes.find? fun shape => shape.shapeId = shapeId with
  | none => .error (.assemblyError ("unknown evidence shape: " ++ shapeId))
  | some shape => do
      require (shape.active) (.assemblyError ("inactive evidence shape: " ++ shapeId))
      require (shape.compositionOperation = .exactSum)
        (.assemblyError ("evidence shape is not exact-sum compatible: " ++ shapeId))
      return shape

def requireExactSumCompatible (registry : EvidenceShapeRegistry) (shapeIds : List String) :
    Except AssemblyExn (List EvidenceShape) := do
  let resolved ← shapeIds.mapM (resolveShape registry)
  require (resolved ≠ [] ∧ ∀ shape ∈ resolved, ∀ other ∈ resolved,
      shape.accountingMeaning = other.accountingMeaning)
    (.assemblyError "evidence shapes have incompatible accounting meanings")
  return resolved

def checkAuthority (cutoff : Moment) (pair : AssemblyConstituent × EvidenceShape) :
    Except AssemblyExn Unit := do
  let item := pair.1
  let record := item.record
  require (record.qualityState = .accepted) (.assemblyError "non-accepted constituent is ineligible")
  require (record.conflictState.settled) (.assemblyError "unresolved constituent conflict")
  require (record.effectiveAt ≤ cutoff ∧ record.recordedAt ≤ cutoff ∧ record.knownAt ≤ cutoff)
    (.assemblyError "constituent is not strict-known at replay cutoff")
  require (pair.2.evidenceType = record.evidenceType.text)
    (.assemblyError "registry evidence type is incompatible with constituent")
  require (pair.2.accountingMeaning = item.accountingMeaning)
    (.assemblyError "registry accounting meaning is incompatible with constituent")
  require (item.accountingMeaning = .periodSpecific)
    (.assemblyError "only period-specific exact summation is governed")
  require (record.unit = some item.rawUnit)
    (.assemblyError "declared raw unit does not match authoritative record")
  require (record.attributionRuleId = item.pathwayId)
    (.assemblyError "declared pathway does not match authoritative record")
  require (blank record.contentHash = false)
    (.assemblyError "constituent canonical content hash is required for provenance")

def checkScope (authorities : Authorities) (first item : AssemblyConstituent) : Except AssemblyExn Unit := do
  let identity := item.record.identity
  let firstIdentity := first.record.identity
  require (identity.entityId = firstIdentity.entityId) (.assemblyError "incompatible entity identity")
  require (identity.economicClaimId = firstIdentity.economicClaimId)
    (.assemblyError "incompatible economic claim identity")
  require (identity.assetId = firstIdentity.assetId ∧ identity.tokenId = firstIdentity.tokenId ∧
      identity.chain = firstIdentity.chain ∧ identity.contractAddress = firstIdentity.contractAddress)
    (.assemblyError "incompatible asset or token identity")
  require (identity.representationId = firstIdentity.representationId)
    (.assemblyError "representation boundary crossing lacks a governed continuity-proof authority")
  require (item.pathwayId = first.pathwayId)
    (.assemblyError "pathway boundary crossing lacks a governed continuity-proof authority")
  require (item.supplyBasisId = first.supplyBasisId)
    (.assemblyError "supply-basis boundary crossing lacks a governed continuity-proof authority")
  require (authorities.casefold item.currency = authorities.casefold first.currency)
    (.assemblyError "incompatible currency")
  require (item.rawUnit = first.rawUnit) (.assemblyError "incompatible unit")
  require (item.accountingMeaning = first.accountingMeaning)
    (.assemblyError "incompatible accounting meaning")

def validateScope (authorities : Authorities) (first : AssemblyConstituent)
    (rest : List AssemblyConstituent) : Except AssemblyExn Unit := do
  require (∀ item ∈ first :: rest, item.representationContinuityProofId = "" ∧
      item.pathwayContinuityProofId = "" ∧ item.supplyBasisContinuityProofId = "")
    (.assemblyError "continuity proof references are unavailable until a governed proof authority exists")
  rest.forM (checkScope authorities first)

def omittedScopeCompatible (authorities : Authorities) (selected : AssemblyConstituent) (cutoff : Moment)
    (record : FundamentalEvidenceRecord) : Bool :=
  match authorities.strictKnownSemantics record.recordId record.semanticVersion cutoff with
  | none => false
  | some semantics =>
      record.identity = selected.record.identity && semantics.exact record cutoff &&
        semantics.shapeId = selected.shapeId &&
        authorities.casefold semantics.currency = authorities.casefold selected.currency &&
        semantics.rawUnit = selected.rawUnit && semantics.accountingMeaning = selected.accountingMeaning &&
        semantics.supplyBasisId = selected.supplyBasisId && semantics.pathwayId = selected.pathwayId

def others (record : FundamentalEvidenceRecord) (available : List FundamentalEvidenceRecord) :
    List FundamentalEvidenceRecord :=
  available.filter fun other => other.recordId ≠ record.recordId

theorem length_others_lt {available : List FundamentalEvidenceRecord} {record : FundamentalEvidenceRecord}
    (inside : record ∈ available) : (others record available).length < available.length := by
  have dropped : ¬decide (record.recordId ≠ record.recordId) = true := by simp
  exact List.length_filter_lt_length_iff_exists.mpr ⟨record, inside, dropped⟩

/-- The series of records that go from the cursor to the end without a gap. The order they are
found in is not read. -/
def coveragePaths (finish cursor : Moment) (available : List FundamentalEvidenceRecord) :
    List (List FundamentalEvidenceRecord) :=
  if cursor = finish then [[]]
  else
    available.attach.flatMap fun ⟨record, _inside⟩ =>
      if record.accountingPeriodStart = cursor ∧ record.accountingPeriodEnd ≤ finish then
        (coveragePaths finish record.accountingPeriodEnd (others record available)).map (record :: ·)
      else []
termination_by available.length
decreasing_by exact length_others_lt _inside

def overlaps (record other : FundamentalEvidenceRecord) : Bool :=
  record.accountingPeriodStart < other.accountingPeriodEnd &&
    other.accountingPeriodStart < record.accountingPeriodEnd

/-- The candidates that were left out though they could have been selected. -/
def omitted (authorities : Authorities) (cutoff : Moment) (first : AssemblyConstituent)
    (constituents : List AssemblyConstituent) (universe_ : List FundamentalEvidenceRecord) :
    List FundamentalEvidenceRecord :=
  (universe_.filter fun record =>
    record.recordId ∉ constituents.map (·.record.recordId) ∧ record.qualityState = .accepted ∧
      record.conflictState.settled ∧ record.recordedAt ≤ cutoff ∧ record.knownAt ≤ cutoff ∧
      ¬∃ item ∈ constituents, disclosed record = disclosed item.record).filter
        (omittedScopeCompatible authorities first cutoff)

def digestOf (value : Json) : String := sha256 (Json.asciiDumps value)

/-- The ids of the candidates, each once and in order. -/
def candidateRecordIds (candidates : List FundamentalEvidenceRecord) : List String :=
  Sorting.sorted (candidates.map (·.recordId)).dedup

def conflictBasis (request : AssemblyRequest) (identity : EconomicClaimIdentity) (candidates : List String)
    (reason : String) : Json :=
  .obj [("entity_id", .str identity.entityId), ("economic_claim_id", .str identity.economicClaimId),
    ("start", .str request.accountingWindowStart.text), ("end", .str request.accountingWindowEnd.text),
    ("candidates", .arr (candidates.map .str)), ("reason", .str reason)]

def conflictRecord (request : AssemblyRequest) (identity : EconomicClaimIdentity) (candidates : List String)
    (reason : String) : AssemblyConflictRecord where
  recordId := "assembly-conflict:" ++ digestOf (conflictBasis request identity candidates reason)
  entityId := identity.entityId
  economicClaimId := identity.economicClaimId
  accountingWindowStart := request.accountingWindowStart.instant
  accountingWindowEnd := request.accountingWindowEnd.instant
  candidateRecordIds := candidates
  reason := reason
  recordedAt := request.recordedAt
  knownAt := request.recordedAt
  contentHash := digestOf (conflictBasis request identity candidates reason)

def validateAuthoritativeUniverse (authorities : Authorities) (request : AssemblyRequest)
    (first : AssemblyConstituent) (rest : List AssemblyConstituent) : Except AssemblyExn Unit := do
  let constituents := first :: rest
  let start := request.accountingWindowStart.instant
  let finish := request.accountingWindowEnd.instant
  let candidates := authorities.overlappingEvidence first.record.identity.entityId
    first.record.identity.economicClaimId start finish request.replayCutoff
  require (∀ item ∈ constituents, item.record.recordId ∈ candidates.map (·.recordId))
    (.assemblyError "constituent is absent from authoritative candidate universe")
  let competing := omitted authorities request.replayCutoff first constituents candidates
  require (∀ record ∈ competing,
      ¬(record.accountingPeriodStart = start ∧ record.accountingPeriodEnd = finish))
    (.conflict (conflictRecord request first.record.identity (candidateRecordIds candidates)
        "qualifying native evidence takes precedence over assembly")
      "qualifying native evidence takes precedence over assembly")
  let paths := coveragePaths finish start competing
  let finest := (paths.map List.length).foldr max 0
  require (paths = [] ∨ finest ≤ constituents.length)
    (.assemblyError "selected constituent series violates governed finer-granularity preference")
  require (paths ≠ [] ∧ finest < constituents.length ∧
        (∀ record ∈ competing, ∃ path ∈ paths, record.recordId ∈ path.map (·.recordId)) ∨
      ∀ record ∈ competing, ∀ item ∈ constituents, overlaps record item.record = false)
    (.conflict (conflictRecord request first.record.identity (candidateRecordIds candidates)
        "omitted competing or overlapping authoritative evidence")
      "omitted competing or overlapping authoritative evidence creates unresolved conflict")

def checkFollows (previous current : AssemblyConstituent) : Except AssemblyExn Unit := do
  require (previous.record.accountingPeriodEnd ≤ current.record.accountingPeriodStart)
    (.assemblyError "constituent accounting windows overlap")
  require (current.record.accountingPeriodStart ≤ previous.record.accountingPeriodEnd)
    (.assemblyError "gap in constituent accounting windows")

def checkSeries : List AssemblyConstituent → Except AssemblyExn Unit
  | previous :: current :: rest => do
      checkFollows previous current
      checkSeries (current :: rest)
  | _ => .ok ()

def validateCoverage (request : AssemblyRequest) (first : AssemblyConstituent)
    (rest : List AssemblyConstituent) : Except AssemblyExn Unit := do
  require (first.record.accountingPeriodStart = request.accountingWindowStart.instant)
    (.assemblyError "constituents do not start at target accounting window")
  require (((first :: rest).getLast (List.cons_ne_nil _ _)).record.accountingPeriodEnd =
      request.accountingWindowEnd.instant)
    (.assemblyError "constituents do not end at target accounting window")
  checkSeries (first :: rest)

def contentBasis (registry : EvidenceShapeRegistry) (contract : MethodologyEvidenceInputContract)
    (constituents : List AssemblyConstituent) : Json :=
  .obj [("assembly_rule_version", .str assemblyRuleVersion), ("registry_version", .str registry.version),
    ("methodology_contract_id", .str contract.contractId),
    ("methodology_contract_version", .str contract.contractVersion),
    ("constituents", .arr (constituents.map fun item =>
      .obj [("record_id", .str item.record.recordId), ("logical_id", .str item.record.logicalId),
        ("semantic_version", .str item.record.semanticVersion),
        ("content_hash", .str item.record.contentHash), ("shape_id", .str item.shapeId)]))]

def logicalBasis (request : AssemblyRequest) (contract : MethodologyEvidenceInputContract)
    (first : AssemblyConstituent) : Json :=
  .obj [("identity", identityFields first.record.identity),
    ("pathway", .str first.pathwayId), ("supply_basis", .str first.supplyBasisId),
    ("currency", .str first.currency), ("unit", .str first.rawUnit),
    ("start", .str request.accountingWindowStart.text), ("end", .str request.accountingWindowEnd.text),
    ("methodology_contract_id", .str contract.contractId),
    ("methodology_contract_version", .str contract.contractVersion)]

/-- The amount that the text of a constituent is read as. -/
def AssemblyConstituent.amount (item : AssemblyConstituent) : Option Decimal :=
  item.record.amount.bind fun text => Decimal.parse text.scalars

def sumAmounts (constituents : List AssemblyConstituent) : Except AssemblyExn Decimal :=
  match constituents.mapM AssemblyConstituent.amount with
  | none => .error (.valueError "invalid decimal")
  | some amounts =>
      match Decimal.sum amounts with
      | none => .error .overflow
      | some total => .ok total

/-- The first of the least of some numbers. -/
def least (first : Decimal) (rest : List Decimal) : Decimal :=
  rest.foldl (fun found number => if number.value < found.value then number else found) first

def weakestConfidence (first : AssemblyConstituent) (rest : List AssemblyConstituent) :
    Except AssemblyExn Decimal :=
  match (first :: rest).mapM fun item => Decimal.parse item.record.evidenceConfidence.scalars with
  | some (number :: numbers) => .ok (least number numbers)
  | _ => .error (.valueError "invalid decimal")

def latestKnown (first : AssemblyConstituent) (rest : List AssemblyConstituent) : Moment :=
  (rest.map (·.record.knownAt)).foldl max first.record.knownAt

def AssembledFundamentalEvidenceRecord.rank (record : AssembledFundamentalEvidenceRecord) :
    Moment ×ₗ Moment ×ₗ Moment ×ₗ String :=
  toLex (record.effectiveAt, toLex (record.knownAt, toLex (record.recordedAt, record.recordId)))

/-- What the construction of the record still can find wrong. -/
def checkRecord (record : AssembledFundamentalEvidenceRecord) : Except AssemblyExn Unit := do
  require (blank record.semanticVersion = false) (.valueError "semantic_version is required")
  require (record.accountingWindowStart < record.accountingWindowEnd)
    (.valueError "accounting window must have positive duration")
  require record.constituentRecordIds.Nodup (.valueError "constituent record IDs must be unique")
  require (record.supersedesRecordId ≠ none ∨ record.correctionReason = "")
    (.valueError "initial assembly cannot carry a correction reason")
  require (record.supersedesRecordId = none ∨ blank record.correctionReason = false)
    (.valueError "correction reason is required")

def assembledRecord (request : AssemblyRequest) (registry : EvidenceShapeRegistry)
    (contract : MethodologyEvidenceInputContract) (first : AssemblyConstituent)
    (rest : List AssemblyConstituent) (amount weakest : Decimal) : AssembledFundamentalEvidenceRecord where
  recordId := "assembled-evidence:" ++ digestOf (contentBasis registry contract (first :: rest))
  logicalId := "assembled-evidence:" ++ digestOf (logicalBasis request contract first)
  semanticVersion := request.semanticVersion
  evidenceShapeRegistryVersion := registry.version
  methodologyContractId := contract.contractId
  methodologyContractVersion := contract.contractVersion
  identity := first.record.identity
  representationContinuityProofId := first.representationContinuityProofId
  valueCapturePathwayId := first.pathwayId
  pathwayContinuityProofId := first.pathwayContinuityProofId
  supplyBasisId := first.supplyBasisId
  supplyBasisContinuityProofId := first.supplyBasisContinuityProofId
  currency := first.currency
  unit := first.rawUnit
  accountingMeaning := first.accountingMeaning
  accountingWindowStart := request.accountingWindowStart.instant
  accountingWindowEnd := request.accountingWindowEnd.instant
  amount := amount
  constituentRecordIds := (first :: rest).map (·.record.recordId)
  constituentLogicalIds := (first :: rest).map (·.record.logicalId)
  constituentVersions := (first :: rest).map (·.record.semanticVersion)
  constituentContentHashes := (first :: rest).map (·.record.contentHash)
  constituentSourceIds := (first :: rest).map (·.record.sourceId)
  constituentSourceReferences := (first :: rest).map (·.record.sourceReference)
  constituentShapeIds := (first :: rest).map (·.shapeId)
  assemblyContentHash := digestOf (contentBasis registry contract (first :: rest))
  effectiveAt := request.accountingWindowEnd.instant
  recordedAt := request.recordedAt
  knownAt := max (latestKnown first rest) request.recordedAt
  confidenceState := weakest
  supersedesRecordId := request.supersedesRecordId
  correctionReason := request.correctionReason

/-- The checks of the constituents that are left, and the record that is made of them. -/
def assembleSelected (authorities : Authorities) (request : AssemblyRequest)
    (contract : MethodologyEvidenceInputContract) (registry : EvidenceShapeRegistry) :
    List AssemblyConstituent → Except AssemblyExn AssembledFundamentalEvidenceRecord
  | [] | [_] => .error (.assemblyError "assembly cannot relabel one native record as assembled")
  | first :: second :: others => do
      let rest := second :: others
      let shapes ← requireExactSumCompatible registry ((first :: rest).map (·.shapeId))
      ((first :: rest).zip shapes).forM (checkAuthority request.replayCutoff)
      validateScope authorities first rest
      validateAuthoritativeUniverse authorities request first rest
      validateCoverage request first rest
      require (request.recordedAt ≤ request.replayCutoff)
        (.assemblyError "assembly time is after requested replay cutoff")
      require (request.accountingWindowEnd.instant ≤ request.recordedAt)
        (.assemblyError "assembly recorded_at must not precede accounting_window_end (effective_at)")
      require (latestKnown first rest ≤ request.recordedAt)
        (.assemblyError "assembly recorded_at must not precede the latest constituent known_at")
      let amount ← sumAmounts (first :: rest)
      let weakest ← weakestConfidence first rest
      let record := assembledRecord request registry contract first rest amount weakest
      checkRecord record
      return record

def sortConstituents (constituents : List AssemblyConstituent) : List AssemblyConstituent :=
  constituents.mergeSort fun a b => a.place ≤ b.place

/-- `assemble` up to the authorization of a correction. -/
def construct (authorities : Authorities) (request : AssemblyRequest) :
    Except AssemblyExn AssembledFundamentalEvidenceRecord := do
  require (2 ≤ request.constituents.length)
    (.assemblyError
      "assembly requires multiple granular records; a qualifying native interval takes precedence")
  let contract ← fetchContract authorities request
  let registry ← fetchRegistry authorities request
  validateMethodologyContract authorities contract request
  let ordered := sortConstituents request.constituents
  ordered.forM (checkSemantics authorities request.replayCutoff)
  let selected ← deduplicateIdentical ordered
  assembleSelected authorities request contract registry selected

abbrev Store := List AssembledFundamentalEvidenceRecord

def Store.get (stored : Store) (recordId : String) : Option AssembledFundamentalEvidenceRecord :=
  stored.find? fun record => record.recordId = recordId

/-- The records of a logical identity. The order they are listed in is not read. -/
def Store.history (stored : Store) (logicalId : String) : List AssembledFundamentalEvidenceRecord :=
  stored.filter fun record => record.logicalId = logicalId

def Store.successor (stored : Store) (predecessorId : String) : Option AssembledFundamentalEvidenceRecord :=
  stored.find? fun record => record.supersedesRecordId = some predecessorId

def authorizeCorrection (stored : Store) (record : AssembledFundamentalEvidenceRecord) :
    Except AssemblyExn Unit :=
  match record.supersedesRecordId with
  | none =>
      -- the record itself may be there already
      require (∀ other ∈ stored.history record.logicalId, other.recordId = record.recordId)
        (.assemblyError ("a root record already exists for this logical_id; use a correction " ++
          "(supersedes_record_id) instead of a second independent root record"))
  | some predecessorId =>
      match stored.get predecessorId with
      | none => .error (.assemblyError "correction predecessor does not exist")
      | some predecessor => do
          require (predecessor.logicalId = record.logicalId)
            (.assemblyError "correction must preserve logical_id")
          require (predecessor.recordedAt < record.recordedAt ∧ predecessor.knownAt < record.knownAt)
            (.assemblyError "correction clocks must strictly follow predecessor")
          require (stored.successor predecessorId = none)
            (.assemblyError "branching correction lineage is prohibited")

/-- One transaction: the row of a record that is there already has to be the same, and the two
indexes are unique. -/
def insertAuthorized (stored : Store) (record : AssembledFundamentalEvidenceRecord) :
    Except AssemblyExn Store :=
  match stored.get record.recordId with
  | some existing => do
      require (existing = record) (.persistenceError "divergent duplicate record identity")
      return stored
  | none => do
      require (∀ predecessorId ∈ record.supersedesRecordId, stored.successor predecessorId = none)
        (.persistenceError "append-only identity or lineage conflict")
      return stored ++ [record]

def assemble (authorities : Authorities) (stored : Store) (request : AssemblyRequest) :
    Except AssemblyExn (AssembledFundamentalEvidenceRecord × Store) := do
  let record ← construct authorities request
  authorizeCorrection stored record
  let after ← insertAuthorized stored record
  return (record, after)

/-- What a reader gets who knows what was known by then. -/
def strictKnown (stored : Store) (logicalId : String) (effectiveAsOf knownBy : Moment) :
    Option AssembledFundamentalEvidenceRecord :=
  let eligible := (stored.history logicalId).filter fun record =>
    record.effectiveAt ≤ effectiveAsOf ∧ record.recordedAt ≤ knownBy ∧ record.knownAt ≤ knownBy
  let tips := eligible.filter fun record =>
    ¬∃ other ∈ eligible, other.supersedesRecordId = some record.recordId
  (tips.mergeSort fun a b => b.rank ≤ a.rank).head?

end Hunter.EvidenceAssembly
