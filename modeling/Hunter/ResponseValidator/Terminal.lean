import Hunter.ResponseValidator.Validator

/-!
Terminal persistence of validator results: each result is turned into the coordinates
of one immutable record, which is appended for its validation event or joined when it
is there already. The service re-checks the kind, the attestation and the allocation of
what it is given.
-/

namespace Hunter.ResponseValidator

open Calendar Fallible

inductive DecisionKind where
  | success
  | refusal
  deriving DecidableEq, Repr

def DecisionKind.text : DecisionKind → String
  | .success => "SUCCESS"
  | .refusal => "REFUSAL"

/-- The coordinates of a terminal record besides the time it is recorded. A success
carries the lineage of its coordinates, a refusal none. -/
structure TerminalDecision where
  validationEventId : String
  validationCutoff : Moment
  decisionKind : DecisionKind
  decisionId : String
  state : ValidationState
  authorizationId : Option String
  attestationId : String
  findings : List (String × String × String)
  refusalReasonCode : Option String
  executed : Option Bool
  lineage : Option AuthorityCoordinates
  revalidationGeneration : Nat
  predecessorValidationEventId : Option String
  availableAuthority : List (String × String)
  deriving DecidableEq

/-- Immutable generation-0 terminal record. -/
structure TerminalRecord where
  decision : TerminalDecision
  validationRecordedAt : Moment
  chronology : decision.validationCutoff ≤ validationRecordedAt
  deriving DecidableEq

def hashVersion : String := "sha256-canonical-noncontent-json-v1"

def recordSchemaVersion : String := "response-validation-record-v1"

/-- The names of the lineage, all `null` for a refusal. -/
def emptyLineage : List (String × Json) := [
  "profile_resolution_id", "profile_publication_id", "profile_version",
  "validator_contract_identity", "validator_contract_version",
  "requested_output_contract_identity", "requested_output_contract_version",
  "output_contract_hash", "source_handling_resolution_id", "source_handling_fact_record_id",
  "source_handling_policy_record_id", "source_handling_registry_id",
  "source_handling_authorization_rule_id", "response_capture_identity",
  "response_evidence_state", "attempt_id", "handoff_id", "outcome_id",
  "execution_profile_identity", "request_evidence_identity", "build_record_id",
  "prompt_artifact_id", "intent_id", "ledger_id", "allocation_id", "package_id",
  "evidence_input_identity", "input_mode"].map fun name => (name, Json.null)

/-- `_record_identity_payload`. -/
def TerminalDecision.members (decision : TerminalDecision) : List (String × Json) := [
  ("validation_event_id", .str decision.validationEventId),
  ("validation_cutoff", .str decision.validationCutoff.isoformat),
  ("decision_kind", .str decision.decisionKind.text),
  ("decision_id", .str decision.decisionId),
  ("state", .str decision.state.text),
  ("authorization_id", optionalText decision.authorizationId),
  ("attestation_id", .str decision.attestationId),
  ("findings", .arr (decision.findings.map fun finding => .arr [.str finding.1,
    .str finding.2.1, .str finding.2.2])),
  ("refusal_reason_code", optionalText decision.refusalReasonCode),
  ("executed", match decision.executed with
    | some flag => .bool flag
    | none => .null)] ++
  (match decision.lineage with
    | some coordinates => coordinates.lineage
    | none => emptyLineage) ++ [
  ("revalidation_generation", .int decision.revalidationGeneration),
  ("predecessor_validation_event_id", optionalText decision.predecessorValidationEventId),
  ("available_authority", .arr (decision.availableAuthority.map fun pair =>
    .arr [.str pair.1, .str pair.2])),
  ("hash_version", .str hashVersion),
  ("schema_version", .str recordSchemaVersion)]

def TerminalRecord.recordId (record : TerminalRecord) : String :=
  "response-validation-record:" ++ sha256 (Json.obj record.decision.members).dumps

/-- The canonical bytes of a stored record. -/
def terminalPayload (record : TerminalRecord) : String :=
  (Json.obj (record.decision.members ++ [
    ("validation_recorded_at", .str record.validationRecordedAt.isoformat),
    ("record_id", .str record.recordId)])).dumps

def normalizeFinding (finding : String × String × String) : Py (String × String × String) := do
  require (Chars.strip finding.1.scalars ≠ [] ∧ Chars.strip finding.2.2.scalars ≠ [])
    (.terminalConflict "terminal finding coordinates must be non-blank")
  let state ← canonicalValidationState finding.2.1
  .ok (finding.1, state.text, finding.2.2)

/-- The checks of `ResponseValidationRecord` by its kind. -/
def requireKind (decision : TerminalDecision) : Py Unit :=
  match decision.decisionKind with
  | .success => do
      require (decision.findings ≠ [])
        (.terminalConflict "success terminal record requires canonical findings")
      require (decision.refusalReasonCode = none)
        (.terminalConflict "success terminal record cannot contain refusal reason")
      require decision.executed.isSome
        (.terminalConflict "success terminal record requires execution metadata")
  | .refusal => do
      require (decision.findings = [])
        (.terminalConflict "refusal terminal record cannot contain success findings")
      require (∃ reason ∈ decision.refusalReasonCode, Chars.strip reason.scalars ≠ [])
        (.terminalConflict "refusal terminal record requires canonical reason code")
      require (decision.executed = none)
        (.terminalConflict "refusal terminal record cannot claim semantic execution")

/-- `ResponseValidationRecord` of what is desired, at a time. -/
def terminalRecord (desired : TerminalDecision) (recordedAt : Moment) : Py TerminalRecord := do
  let findings ← desired.findings.mapM normalizeFinding
  if chronology : desired.validationCutoff ≤ recordedAt then do
    require (∀ text ∈ [desired.validationEventId, desired.decisionId, desired.attestationId],
        Chars.strip text.scalars ≠ [])
      (.terminalConflict "terminal record identities must be non-blank")
    let authority := desired.availableAuthority.mergeSort authorityBefore
    require (authority.map Prod.fst).Nodup
      (.terminalConflict "available_authority keys must be unique")
    let decision := { desired with findings, availableAuthority := authority }
    requireKind decision
    .ok ⟨decision, recordedAt, chronology⟩
  else .error (.terminalConflict "validation_recorded_at precedes validation_cutoff")

/-- A row with its indexed columns. The payload column is the record it encodes. -/
structure TerminalRow where
  validationEventId : String
  validationRecordedAt : String
  recordId : String
  payloadHash : String
  hashVersion : String
  schemaVersion : String
  payload : TerminalRecord

def TerminalRow.of (record : TerminalRecord) : TerminalRow where
  validationEventId := record.decision.validationEventId
  validationRecordedAt := record.validationRecordedAt.isoformat
  recordId := record.recordId
  payloadHash := sha256 (terminalPayload record)
  hashVersion := Hunter.ResponseValidator.hashVersion
  schemaVersion := recordSchemaVersion
  payload := record

def terminalFromRow (row : TerminalRow) : Py TerminalRecord := do
  require (row.hashVersion = hashVersion) (.terminalCorruption "terminal hash version is unknown")
  let record := row.payload
  require (sha256 (terminalPayload record) = row.payloadHash)
    (.terminalCorruption "terminal payload hash mismatch")
  let mismatch (name : String) : Exn :=
    .terminalCorruption ("terminal SQL metadata mismatch: " ++ name)
  require (row.validationEventId = record.decision.validationEventId)
    (mismatch "validation_event_id")
  require (row.validationRecordedAt = record.validationRecordedAt.isoformat)
    (mismatch "validation_recorded_at")
  require (row.recordId = record.recordId) (mismatch "record_id")
  require (row.schemaVersion = recordSchemaVersion) (mismatch "schema_version")
  .ok record

abbrev TerminalTable : Type := List TerminalRow

def requireAllocation (tables : EventTables) (validationEventId : String) (cutoff : Moment) :
    Py ValidationEventAllocation := do
  match ← validationEvent tables validationEventId with
  | none => .error (.terminalConflict "terminal record references unknown validation event")
  | some allocation => do
      require (allocation.validationCutoff = cutoff) (.terminalConflict
        "terminal validation_cutoff does not match canonical allocation")
      .ok allocation

def appendOrJoin (now : ClockReading) (tables : EventTables) (terminal : TerminalTable)
    (desired : TerminalDecision) : Py (TerminalRecord × TerminalTable) := do
  let allocation ← requireAllocation tables desired.validationEventId desired.validationCutoff
  require (allocation.revalidationGeneration = desired.revalidationGeneration)
    (.terminalConflict "terminal lineage generation does not match allocation")
  require (allocation.predecessorValidationEventId = desired.predecessorValidationEventId)
    (.terminalConflict "terminal predecessor does not match allocation")
  match terminal.find? fun row => row.validationEventId = desired.validationEventId with
  | some row => do
      let record ← terminalFromRow row
      require (record.decision = desired) (.terminalConflict
        "validation_event_id already has conflicting immutable terminal lineage")
      .ok (record, terminal)
  | none =>
      match now with
      | none => .error (.terminalConflict "validation_recorded_at must be timezone-aware")
      | some recordedAt => do
          let record ← terminalRecord desired recordedAt
          let row := TerminalRow.of record
          -- the primary key and the unique identity
          require (terminal.all fun other => other.validationEventId ≠ row.validationEventId ∧
              other.recordId ≠ row.recordId)
            (.terminalConflict "terminal record identity conflict")
          .ok (record, terminal ++ [row])

/-- What `persist_execution` stores of an outcome. -/
def executionDecision (outcome : SemanticOutcome) (attestation : Attestation) : TerminalDecision where
  validationEventId := outcome.coordinates.validationEventId.val
  validationCutoff := outcome.coordinates.validationCutoff
  decisionKind := .success
  decisionId := outcome.semanticOutcomeId
  state := outcome.state
  authorizationId := some outcome.authorizationId
  attestationId := attestation.attestationId
  findings := outcome.findings.map fun finding =>
    (finding.dimension.val, finding.state.text, finding.reasonCode.val)
  refusalReasonCode := none
  executed := some outcome.executed
  lineage := some outcome.coordinates
  revalidationGeneration := outcome.coordinates.revalidationGeneration
  predecessorValidationEventId := outcome.coordinates.predecessorValidationEventId
  availableAuthority := []

def persistExecution (now : ClockReading) (tables : EventTables) (terminal : TerminalTable)
    (outcome : SemanticOutcome) (attestation : Attestation) :
    Py (TerminalRecord × TerminalTable) := do
  require (attestation.kind = .success)
    (.terminalConflict "execution result requires SUCCESS attestation")
  require (attestation.decisionId = outcome.semanticOutcomeId ∧
      attestation.validationEventId = outcome.coordinates.validationEventId.val ∧
      attestation.state = outcome.state ∧
      attestation.authorizationId = some outcome.authorizationId)
    (.terminalConflict "execution attestation does not match canonical outcome")
  appendOrJoin now tables terminal (executionDecision outcome attestation)

/-- What `persist_refusal` stores of a refusal. -/
def refusalDecision (refusal : Refusal) (attestation : Attestation)
    (allocation : ValidationEventAllocation) : TerminalDecision where
  validationEventId := refusal.validationEventId.val
  validationCutoff := refusal.validationCutoff
  decisionKind := .refusal
  decisionId := refusal.refusalId
  state := refusal.state
  authorizationId := none
  attestationId := attestation.attestationId
  findings := []
  refusalReasonCode := some refusal.reasonCode.val
  executed := none
  lineage := none
  revalidationGeneration := allocation.revalidationGeneration
  predecessorValidationEventId := allocation.predecessorValidationEventId
  availableAuthority := refusal.availableAuthority

def persistRefusal (now : ClockReading) (tables : EventTables) (terminal : TerminalTable)
    (refusal : Refusal) (attestation : Attestation) : Py (TerminalRecord × TerminalTable) := do
  require (attestation.kind = .refusal)
    (.terminalConflict "refusal result requires REFUSAL attestation")
  require (attestation.decisionId = refusal.refusalId ∧
      attestation.validationEventId = refusal.validationEventId.val ∧
      attestation.state = refusal.state ∧ attestation.authorizationId = none)
    (.terminalConflict "refusal attestation does not match canonical refusal")
  let allocation ← requireAllocation tables refusal.validationEventId.val refusal.validationCutoff
  appendOrJoin now tables terminal (refusalDecision refusal attestation allocation)

/-- The service's method for a kind of result. -/
def persistResult (now : ClockReading) (tables : EventTables) (terminal : TerminalTable) :
    ValidatorResult → Py (TerminalRecord × TerminalTable)
  | .execution outcome attestation => persistExecution now tables terminal outcome attestation
  | .refusal refusal attestation => persistRefusal now tables terminal refusal attestation

end Hunter.ResponseValidator
