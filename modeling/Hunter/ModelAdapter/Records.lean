import Hunter.ResponseValidator.Vocabulary

/-!
Records of the model adapter: the attempt that is durable before anything is sent, the
single-use handoff that authorizes its dispatch, the evidence of the request and of the
response, and the outcomes of an attempt, of which a correction names the one it
supersedes. Every record is identified by the digest of its canonical JSON.
-/

namespace Hunter.ModelAdapter

open Calendar ResponseValidator

inductive IdempotencyCapability where
  | supported
  | unavailable
  | unknown
  deriving DecidableEq, Repr

def IdempotencyCapability.text : IdempotencyCapability → String
  | .supported => "SUPPORTED"
  | .unavailable => "UNAVAILABLE"
  | .unknown => "UNKNOWN"

inductive RequestEvidenceState where
  | durable
  | unavailableByPolicy
  deriving DecidableEq, Repr

def RequestEvidenceState.text : RequestEvidenceState → String
  | .durable => "REQUEST_EVIDENCE_DURABLE"
  | .unavailableByPolicy => "REQUEST_EVIDENCE_UNAVAILABLE_BY_POLICY"

inductive ResponseEvidenceState where
  | durable
  | unavailableByPolicy
  | unavailableCredentialRisk
  deriving DecidableEq, Repr

def ResponseEvidenceState.text : ResponseEvidenceState → String
  | .durable => "RESPONSE_EVIDENCE_DURABLE"
  | .unavailableByPolicy => "RESPONSE_EVIDENCE_UNAVAILABLE_BY_POLICY"
  | .unavailableCredentialRisk => "RESPONSE_EVIDENCE_UNAVAILABLE_CREDENTIAL_RISK"

inductive AttemptOutcome where
  | succeededTransport
  | providerRefused
  | providerUnavailable
  | timeoutConfirmedNoDelivery
  | deliveryUnknown
  | outcomeUnknown
  | rateLimited
  | quotaUnavailable
  | billingUnavailable
  | capabilityUnsupported
  | malformedTransportResponse
  | securityBlocked
  | sourceHandlingBlocked
  | responseCapturedPersistenceFailed
  | internalAdapterError
  | localPreSendFailed
  deriving DecidableEq, Repr

def AttemptOutcome.text : AttemptOutcome → String
  | .succeededTransport => "SUCCEEDED_TRANSPORT"
  | .providerRefused => "PROVIDER_REFUSED"
  | .providerUnavailable => "PROVIDER_UNAVAILABLE"
  | .timeoutConfirmedNoDelivery => "TIMEOUT_CONFIRMED_NO_DELIVERY"
  | .deliveryUnknown => "DELIVERY_UNKNOWN"
  | .outcomeUnknown => "OUTCOME_UNKNOWN"
  | .rateLimited => "RATE_LIMITED"
  | .quotaUnavailable => "QUOTA_UNAVAILABLE"
  | .billingUnavailable => "BILLING_UNAVAILABLE"
  | .capabilityUnsupported => "CAPABILITY_UNSUPPORTED"
  | .malformedTransportResponse => "MALFORMED_TRANSPORT_RESPONSE"
  | .securityBlocked => "SECURITY_BLOCKED"
  | .sourceHandlingBlocked => "SOURCE_HANDLING_BLOCKED"
  | .responseCapturedPersistenceFailed => "RESPONSE_CAPTURED_PERSISTENCE_FAILED"
  | .internalAdapterError => "INTERNAL_ADAPTER_ERROR"
  | .localPreSendFailed => "LOCAL_PRE_SEND_FAILED"

inductive RetryAuthorization where
  | notApplicable
  | requiresNewAttempt
  | blockedDeliveryUncertain
  | blockedReconciliationRequired
  deriving DecidableEq, Repr

def RetryAuthorization.text : RetryAuthorization → String
  | .notApplicable => "RETRY_NOT_APPLICABLE"
  | .requiresNewAttempt => "RETRY_REQUIRES_NEW_ATTEMPT"
  | .blockedDeliveryUncertain => "RETRY_BLOCKED_DELIVERY_UNCERTAIN"
  | .blockedReconciliationRequired => "RETRY_BLOCKED_RECONCILIATION_REQUIRED"

inductive DeliveryCertainty where
  | answered
  | confirmedNotDelivered
  | unknown
  deriving DecidableEq, Repr

def DeliveryCertainty.text : DeliveryCertainty → String
  | .answered => "ANSWERED"
  | .confirmedNotDelivered => "CONFIRMED_NOT_DELIVERED"
  | .unknown => "UNKNOWN"

inductive ProviderExecutionEvidence where
  | returnedCompletion
  | noExecutionEstablished
  | unknown
  deriving DecidableEq, Repr

def ProviderExecutionEvidence.text : ProviderExecutionEvidence → String
  | .returnedCompletion => "PROVIDER_RETURNED_COMPLETION"
  | .noExecutionEstablished => "NO_EXECUTION_ESTABLISHED"
  | .unknown => "UNKNOWN"

/-- `NON_TRANSMITTING_OUTCOMES`. -/
def nonTransmittingOutcomes : List AttemptOutcome := [
  .capabilityUnsupported, .sourceHandlingBlocked, .localPreSendFailed]

/-- `_REQUIRED_DELIVERY_CERTAINTY`: the certainties an outcome may be recorded with. -/
def requiredDeliveryCertainty : AttemptOutcome → Option (List DeliveryCertainty)
  | .succeededTransport | .malformedTransportResponse | .responseCapturedPersistenceFailed =>
      some [.answered]
  | .timeoutConfirmedNoDelivery | .sourceHandlingBlocked | .localPreSendFailed =>
      some [.confirmedNotDelivered]
  | .deliveryUnknown | .outcomeUnknown => some [.unknown]
  | .capabilityUnsupported => some [.confirmedNotDelivered, .answered]
  | _ => none

def optionalInt : Option Int → Json
  | some value => .int value
  | none => .null

def optionalMoment : Option Moment → Json
  | some moment => .str moment.isoformat
  | none => .null

/-- Request evidence. What policy withholds carries a reason and nothing of the content. -/
structure ProviderRequestEvidence where
  state : RequestEvidenceState
  reasonCode : Option String
  contentHash : Option String
  measuredSizeBytes : Option Int
  contentDerivedIdentity : Option String
  withheld : state = .unavailableByPolicy →
    contentHash = none ∧ measuredSizeBytes = none ∧ contentDerivedIdentity = none ∧
      ∃ reason ∈ reasonCode, reason ≠ ""
  deriving DecidableEq

namespace ProviderRequestEvidence

def json (evidence : ProviderRequestEvidence) : Json := .obj [
  ("state", .str evidence.state.text),
  ("reason_code", optionalText evidence.reasonCode),
  ("content_hash", optionalText evidence.contentHash),
  ("measured_size_bytes", optionalInt evidence.measuredSizeBytes),
  ("content_derived_identity", optionalText evidence.contentDerivedIdentity)]

def requestEvidenceIdentity (evidence : ProviderRequestEvidence) : String :=
  identity "provider-request-evidence" evidence.json

end ProviderRequestEvidence

/-- Immutable pre-send attempt. The first attempt has no predecessor, a retry has one. -/
structure ModelAttemptRecord where
  executionOwnerId : String
  buildRecordId : String
  promptArtifactId : String
  executionProfileIdentity : String
  requestEvidenceIdentity : String
  requestEvidenceState : RequestEvidenceState
  attemptOrdinal : Nat
  buildCutoff : Moment
  attemptCutoff : Moment
  recordedAt : Moment
  idempotencyCapability : IdempotencyCapability
  predecessorAttemptId : Option String
  ordinal_pos : 1 ≤ attemptOrdinal
  lineage : 1 < attemptOrdinal ↔ predecessorAttemptId.isSome
  deriving DecidableEq

namespace ModelAttemptRecord

def json (attempt : ModelAttemptRecord) : Json := .obj [
  ("execution_owner_id", .str attempt.executionOwnerId),
  ("build_record_id", .str attempt.buildRecordId),
  ("prompt_artifact_id", .str attempt.promptArtifactId),
  ("execution_profile_identity", .str attempt.executionProfileIdentity),
  ("request_evidence_identity", .str attempt.requestEvidenceIdentity),
  ("request_evidence_state", .str attempt.requestEvidenceState.text),
  ("attempt_ordinal", .int attempt.attemptOrdinal),
  ("build_cutoff", .str attempt.buildCutoff.isoformat),
  ("attempt_cutoff", .str attempt.attemptCutoff.isoformat),
  ("recorded_at", .str attempt.recordedAt.isoformat),
  ("idempotency_capability", .str attempt.idempotencyCapability.text),
  ("predecessor_attempt_id", optionalText attempt.predecessorAttemptId),
  ("schema_version", .str "1")]

def attemptId (attempt : ModelAttemptRecord) : String := identity "model-attempt" attempt.json

end ModelAttemptRecord

/-- Single-use authorization to dispatch one attempt. It exists for processing that is
allowed only. -/
structure ModelHandoffRecord where
  attemptId : String
  buildRecordId : String
  promptArtifactId : String
  executionProfileIdentity : String
  requestEvidenceIdentity : String
  factRecordId : String
  policyRecordId : String
  fieldCategoryRegistryId : String
  authorizationRuleId : String
  attemptCutoff : Moment
  durableDispositionIdentity : String
  dispatchCapabilityIdentity : Option String
  expiresAt : Option Moment
  expires_later : ∀ expiry ∈ expiresAt, attemptCutoff < expiry
  resolved : factRecordId ≠ "" ∧ policyRecordId ≠ "" ∧ fieldCategoryRegistryId ≠ "" ∧
    authorizationRuleId ≠ ""
  deriving DecidableEq

namespace ModelHandoffRecord

def json (handoff : ModelHandoffRecord) : Json := .obj [
  ("attempt_id", .str handoff.attemptId),
  ("build_record_id", .str handoff.buildRecordId),
  ("prompt_artifact_id", .str handoff.promptArtifactId),
  ("execution_profile_identity", .str handoff.executionProfileIdentity),
  ("request_evidence_identity", .str handoff.requestEvidenceIdentity),
  ("fact_record_id", .str handoff.factRecordId),
  ("policy_record_id", .str handoff.policyRecordId),
  ("field_category_registry_id", .str handoff.fieldCategoryRegistryId),
  ("authorization_rule_id", .str handoff.authorizationRuleId),
  ("attempt_cutoff", .str handoff.attemptCutoff.isoformat),
  ("processing_decision", .str "ALLOW"),
  ("durable_disposition_identity", .str handoff.durableDispositionIdentity),
  ("dispatch_capability_identity", optionalText handoff.dispatchCapabilityIdentity),
  ("expires_at", optionalMoment handoff.expiresAt),
  ("schema_version", .str "1")]

def handoffId (handoff : ModelHandoffRecord) : String := identity "model-handoff" handoff.json

end ModelHandoffRecord

/-- Evidence of a response. It carries everything derived from the content or nothing
of it, and its status metadata by name. -/
structure ProviderResponseArtifact where
  attemptId : String
  handoffId : String
  executionProfileIdentity : String
  requestEvidenceIdentity : String
  requestEvidenceState : RequestEvidenceState
  responseProtocolIdentity : String
  responseProtocolVersion : String
  transportIdentity : String
  transportVersion : String
  state : ResponseEvidenceState
  recordedAt : Moment
  reasonCode : Option String
  content : Option String
  contentHash : Option String
  measuredSizeBytes : Option Int
  contentDerivedIdentity : Option String
  providerStatusMetadata : List (String × String)
  durable : state = .durable → content.isSome ∧ contentHash.isSome ∧ measuredSizeBytes.isSome ∧
    contentDerivedIdentity.isSome
  withheld : state ≠ .durable → content = none ∧ contentHash = none ∧ measuredSizeBytes = none ∧
    contentDerivedIdentity = none ∧ ∃ reason ∈ reasonCode, reason ≠ ""
  screened : providerStatusMetadata.Pairwise fun a b => a.1 < b.1
  deriving DecidableEq

namespace ProviderResponseArtifact

def json (artifact : ProviderResponseArtifact) : Json := .obj [
  ("attempt_id", .str artifact.attemptId),
  ("handoff_id", .str artifact.handoffId),
  ("execution_profile_identity", .str artifact.executionProfileIdentity),
  ("request_evidence_identity", .str artifact.requestEvidenceIdentity),
  ("request_evidence_state", .str artifact.requestEvidenceState.text),
  ("response_protocol_identity", .str artifact.responseProtocolIdentity),
  ("response_protocol_version", .str artifact.responseProtocolVersion),
  ("transport_identity", .str artifact.transportIdentity),
  ("transport_version", .str artifact.transportVersion),
  ("state", .str artifact.state.text),
  ("recorded_at", .str artifact.recordedAt.isoformat),
  ("reason_code", optionalText artifact.reasonCode),
  ("content", optionalText artifact.content),
  ("content_hash", optionalText artifact.contentHash),
  ("measured_size_bytes", optionalInt artifact.measuredSizeBytes),
  ("content_derived_identity", optionalText artifact.contentDerivedIdentity),
  ("provider_status_metadata", .arr (artifact.providerStatusMetadata.map fun entry =>
    .arr [.str entry.1, .str entry.2])),
  ("schema_version", .str "1")]

def responseArtifactIdentity (artifact : ProviderResponseArtifact) : String :=
  identity "provider-response-artifact" artifact.json

end ProviderResponseArtifact

/-- One terminal or uncertain state of an attempt. An outcome that is decided before an
attempt exists carries none. -/
structure ModelAttemptOutcomeRecord where
  buildRecordId : String
  promptArtifactId : String
  executionProfileIdentity : String
  transportIdentity : String
  transportVersion : String
  outcome : AttemptOutcome
  deliveryCertainty : DeliveryCertainty
  executionEvidence : ProviderExecutionEvidence
  retryAuthorization : RetryAuthorization
  attemptCutoff : Moment
  recordedAt : Moment
  reasonCode : String
  attemptId : Option String
  handoffId : Option String
  predecessorAttemptId : Option String
  supersedesOutcomeId : Option String
  dispatchedAt : Option Moment
  responseArtifactIdentity : Option String
  responseEvidenceState : Option ResponseEvidenceState
  correlationIdentity : Option String
  idempotencyIdentity : Option String
  reason_ne : reasonCode ≠ ""
  certain : ∀ required ∈ requiredDeliveryCertainty outcome, deliveryCertainty ∈ required
  not_transmitted : outcome ∈ nonTransmittingOutcomes → dispatchedAt = none
  authorized : handoffId.isSome → attemptId.isSome
  captured : responseArtifactIdentity.isSome → responseEvidenceState = some .durable
  delivered : deliveryCertainty = .confirmedNotDelivered → responseArtifactIdentity = none
  retried : retryAuthorization = .requiresNewAttempt → deliveryCertainty ≠ .unknown
  deriving DecidableEq

namespace ModelAttemptOutcomeRecord

def json (outcome : ModelAttemptOutcomeRecord) : Json := .obj [
  ("build_record_id", .str outcome.buildRecordId),
  ("prompt_artifact_id", .str outcome.promptArtifactId),
  ("execution_profile_identity", .str outcome.executionProfileIdentity),
  ("transport_identity", .str outcome.transportIdentity),
  ("transport_version", .str outcome.transportVersion),
  ("outcome", .str outcome.outcome.text),
  ("delivery_certainty", .str outcome.deliveryCertainty.text),
  ("execution_evidence", .str outcome.executionEvidence.text),
  ("retry_authorization", .str outcome.retryAuthorization.text),
  ("attempt_cutoff", .str outcome.attemptCutoff.isoformat),
  ("recorded_at", .str outcome.recordedAt.isoformat),
  ("reason_code", .str outcome.reasonCode),
  ("attempt_id", optionalText outcome.attemptId),
  ("handoff_id", optionalText outcome.handoffId),
  ("predecessor_attempt_id", optionalText outcome.predecessorAttemptId),
  ("supersedes_outcome_id", optionalText outcome.supersedesOutcomeId),
  ("dispatched_at", optionalMoment outcome.dispatchedAt),
  ("response_artifact_identity", optionalText outcome.responseArtifactIdentity),
  ("response_evidence_state", optionalText (outcome.responseEvidenceState.map (·.text))),
  ("correlation_identity", optionalText outcome.correlationIdentity),
  ("idempotency_identity", optionalText outcome.idempotencyIdentity),
  ("schema_version", .str "1")]

def outcomeId (outcome : ModelAttemptOutcomeRecord) : String :=
  identity "model-attempt-outcome" outcome.json

end ModelAttemptOutcomeRecord

end Hunter.ModelAdapter
