import Hunter.Data.Fallible
import Hunter.ModelAdapter.Records

/-!
The store of the model adapter: attempts with their handoffs, outcomes and response
artifacts, all of them insert-only besides the claim of a handoff. Every write derives
the Source Handling decision again and refuses what disagrees with it, and the reads at
a cutoff follow the outcome that governs there. Each call is one transaction.
-/

namespace Hunter.ModelAdapter

open Calendar Fallible ResponseValidator

inductive Exn where
  | persistenceError (message : String)
  | persistenceConflict (message : String)
  | persistenceCorruption (message : String)
  | authorityMismatch (message : String)
  deriving DecidableEq, Repr

abbrev Py : Type → Type := Except Exn

/-- The members of a Source Handling decision that the adapter reads. -/
structure Decision where
  factRecordId : String
  policyRecordId : String
  fieldCategoryRegistryId : String
  authorizationRuleId : String
  processingDecision : String
  retentionDecision : String
  durableDispositions : Json

/-- An authority at its cutoff, and the decision it resolves to at the call; a text is
the reason why it is blocked. -/
structure AttemptAuthority where
  cutoff : Moment
  resolved : Except String Decision

def dispositionIdentity (decision : Decision) : String :=
  identity "durable-disposition" decision.durableDispositions

def categoryPersistAllowed (decision : Decision) (category : String) : Bool :=
  match (decision.durableDispositions.get? category).bind (·.get? "PERSIST") with
  | some (.str disposition) => disposition = "ALLOW"
  | _ => false

/-- `CONTENT_DERIVED_CATEGORIES`. -/
def contentDerivedCategories : List String := [
  "SOURCE_BYTES", "SOURCE_DERIVED_TEXT", "CONTENT_DERIVED_ID"]

def dispatchCapabilityCategory : String := "OPERATIONAL_METADATA"

/-- Whether content and everything derived from it may be retained. -/
def contentRetained (decision : Decision) : Bool :=
  decision.retentionDecision = "ALLOW" &&
    contentDerivedCategories.all (categoryPersistAllowed decision)

def permittedRequestEvidenceState (decision : Decision) : RequestEvidenceState :=
  if contentRetained decision then .durable else .unavailableByPolicy

def permittedResponseEvidenceState (decision : Decision) : ResponseEvidenceState :=
  if contentRetained decision then .durable else .unavailableByPolicy

/-- `resolve_pre_model_source_handling` at the call. -/
def rederived (authority : AttemptAuthority) : Py Decision :=
  match authority.resolved with
  | .ok decision => .ok decision
  | .error blocked => .error (.authorityMismatch
      ("attempt authority cannot be independently resolved at persistence: " ++ blocked))

structure AttemptRow where
  attemptId : String
  recordedAt : String
  attemptCutoff : String
  payloadHash : String
  payload : ModelAttemptRecord

structure HandoffRow where
  handoffId : String
  attemptId : String
  recordedAt : String
  attemptCutoff : String
  payloadHash : String
  payload : ModelHandoffRecord × ProviderRequestEvidence
  consumedAt : Option String

structure OutcomeRow where
  outcomeId : String
  attemptId : Option String
  handoffId : Option String
  recordedAt : String
  attemptCutoff : String
  supersedesOutcomeId : Option String
  payloadHash : String
  payload : ModelAttemptOutcomeRecord

structure ArtifactRow where
  responseArtifactId : String
  attemptId : String
  outcomeId : String
  recordedAt : String
  evidenceState : String
  payloadHash : String
  payload : ProviderResponseArtifact

structure Repository where
  attempts : List AttemptRow
  handoffs : List HandoffRow
  outcomes : List OutcomeRow
  artifacts : List ArtifactRow

def AttemptRow.of (attempt : ModelAttemptRecord) : AttemptRow where
  attemptId := attempt.attemptId
  recordedAt := attempt.recordedAt.isoformat
  attemptCutoff := attempt.attemptCutoff.isoformat
  payloadHash := sha256 attempt.json.dumps
  payload := attempt

/-- The payload of a handoff holds the request evidence beside it. -/
def handoffPayload (handoff : ModelHandoffRecord) (evidence : ProviderRequestEvidence) : String :=
  (Json.obj [("handoff", handoff.json), ("request_evidence", evidence.json)]).dumps

def HandoffRow.of (attempt : ModelAttemptRecord) (handoff : ModelHandoffRecord)
    (evidence : ProviderRequestEvidence) : HandoffRow where
  handoffId := handoff.handoffId
  attemptId := handoff.attemptId
  recordedAt := attempt.recordedAt.isoformat
  attemptCutoff := handoff.attemptCutoff.isoformat
  payloadHash := sha256 (handoffPayload handoff evidence)
  payload := (handoff, evidence)
  consumedAt := none

def OutcomeRow.of (outcome : ModelAttemptOutcomeRecord) : OutcomeRow where
  outcomeId := outcome.outcomeId
  attemptId := outcome.attemptId
  handoffId := outcome.handoffId
  recordedAt := outcome.recordedAt.isoformat
  attemptCutoff := outcome.attemptCutoff.isoformat
  supersedesOutcomeId := outcome.supersedesOutcomeId
  payloadHash := sha256 outcome.json.dumps
  payload := outcome

def ArtifactRow.of (artifact : ProviderResponseArtifact) (outcomeId : String) : ArtifactRow where
  responseArtifactId := artifact.responseArtifactIdentity
  attemptId := artifact.attemptId
  outcomeId := outcomeId
  recordedAt := artifact.recordedAt.isoformat
  evidenceState := artifact.state.text
  payloadHash := sha256 artifact.json.dumps
  payload := artifact

/-- `_verify_against_rederived_authority`. -/
def verifyAuthority (attempt : ModelAttemptRecord) (handoff : ModelHandoffRecord)
    (evidence : ProviderRequestEvidence) (authority : AttemptAuthority) : Py Unit := do
  require (handoff.attemptCutoff = authority.cutoff)
    (.authorityMismatch "handoff cutoff does not match the supplied attempt authority")
  let decision ← rederived authority
  require (decision.processingDecision = "ALLOW") (.authorityMismatch
    "rederived attempt authority does not permit model-facing processing")
  let mismatch (name : String) : Exn := .authorityMismatch
    ("handoff " ++ name ++ " does not match independently rederived authority")
  require (handoff.factRecordId = decision.factRecordId) (mismatch "fact_record_id")
  require (handoff.policyRecordId = decision.policyRecordId) (mismatch "policy_record_id")
  require (handoff.fieldCategoryRegistryId = decision.fieldCategoryRegistryId)
    (mismatch "field_category_registry_id")
  require (handoff.authorizationRuleId = decision.authorizationRuleId)
    (mismatch "authorization_rule_id")
  require (handoff.durableDispositionIdentity = dispositionIdentity decision)
    (mismatch "durable-disposition identity")
  let permitted := permittedRequestEvidenceState decision
  require (evidence.state = permitted) (.authorityMismatch
    ("request evidence state " ++ evidence.state.text ++ " is not the state " ++ permitted.text ++
      " authorized by independently rederived authority"))
  require (attempt.requestEvidenceState = permitted) (.authorityMismatch
    "attempt request-evidence state does not match independently rederived authority")
  require (permitted = .unavailableByPolicy → evidence.contentHash = none ∧
      evidence.measuredSizeBytes = none ∧ evidence.contentDerivedIdentity = none)
    (.authorityMismatch
      "request evidence carries content-derived material the rederived authority prohibits")

/-- The row of an attempt is inserted, or it is there with the same bytes. -/
def insertAttempt (repository : Repository) (attempt : ModelAttemptRecord) : Py Repository :=
  match repository.attempts.find? fun row => row.attemptId = attempt.attemptId with
  | none => .ok { repository with attempts := repository.attempts ++ [.of attempt] }
  | some row => do
      require (row.payloadHash = sha256 attempt.json.dumps) (.persistenceConflict
        ("conflicting payload for existing attempt " ++ attempt.attemptId))
      .ok repository

/-- An attempt has one handoff. -/
def requireOnlyHandoff (repository : Repository) (attempt : ModelAttemptRecord)
    (handoff : ModelHandoffRecord) : Py Unit :=
  match repository.handoffs.find? fun row => row.attemptId = attempt.attemptId with
  | none => .ok ()
  | some row => require (row.handoffId = handoff.handoffId) (.persistenceConflict
      ("attempt " ++ attempt.attemptId ++ " already has dispatch authorization " ++ row.handoffId ++
        "; an attempt may authorize at most one dispatch"))

/-- So is the row of the handoff, which is the only one of its attempt. -/
def insertHandoff (repository : Repository) (attempt : ModelAttemptRecord)
    (handoff : ModelHandoffRecord) (evidence : ProviderRequestEvidence) : Py Repository := do
  requireOnlyHandoff repository attempt handoff
  match repository.handoffs.find? fun row => row.handoffId = handoff.handoffId with
  | none => .ok { repository with
      handoffs := repository.handoffs ++ [.of attempt handoff evidence] }
  | some row => do
      require (row.payloadHash = sha256 (handoffPayload handoff evidence))
        (.persistenceConflict ("conflicting payload for existing handoff " ++ handoff.handoffId))
      .ok repository

def persistAttemptAndHandoff (repository : Repository) (attempt : ModelAttemptRecord)
    (handoff : ModelHandoffRecord) (evidence : ProviderRequestEvidence)
    (authority : AttemptAuthority) : Py (Unit × Repository) := do
  require (handoff.attemptId = attempt.attemptId)
    (.persistenceError "handoff does not belong to the supplied attempt")
  require (handoff.requestEvidenceIdentity = attempt.requestEvidenceIdentity)
    (.persistenceError "handoff request-evidence lineage does not match the attempt")
  require (handoff.executionProfileIdentity = attempt.executionProfileIdentity)
    (.persistenceError "handoff profile lineage does not match the attempt")
  require (evidence.requestEvidenceIdentity = attempt.requestEvidenceIdentity)
    (.persistenceError "request evidence does not match the attempt's recorded identity")
  verifyAuthority attempt handoff evidence authority
  let repository ← insertAttempt repository attempt
  let repository ← insertHandoff repository attempt handoff evidence
  .ok ((), repository)

/-- A handoff is claimed once. -/
def consumeHandoffOnce (repository : Repository) (handoffId : String) (consumedAt : Moment) :
    Py (Unit × Repository) := do
  require (repository.handoffs.any fun row => row.handoffId = handoffId) (.persistenceError
    ("handoff " ++ handoffId ++ " is unknown; no dispatch authorization exists"))
  require (repository.handoffs.any fun row => row.handoffId = handoffId ∧ row.consumedAt = none)
    (.persistenceError ("handoff " ++ handoffId ++ " has already been consumed"))
  .ok ((), { repository with
    handoffs := repository.handoffs.map fun row =>
      if row.handoffId = handoffId ∧ row.consumedAt = none then
        { row with consumedAt := some consumedAt.isoformat }
      else row })

/-- The lineage of an outcome and the artifact that comes with it. -/
def requireLineage (outcome : ModelAttemptOutcomeRecord) :
    Option ProviderResponseArtifact → Py Unit
  | some artifact => do
      require (outcome.attemptId = some artifact.attemptId)
        (.persistenceError "response artifact does not belong to the supplied outcome")
      require (∀ handoffId ∈ outcome.handoffId, artifact.handoffId = handoffId)
        (.persistenceError "response artifact handoff lineage does not match the outcome")
      require (artifact.executionProfileIdentity = outcome.executionProfileIdentity)
        (.persistenceError "response artifact profile lineage does not match the outcome")
      require (∀ identity ∈ outcome.responseArtifactIdentity,
          identity = artifact.responseArtifactIdentity)
        (.persistenceError
          "outcome response-artifact identity does not match the supplied response artifact")
  | none => require (outcome.responseArtifactIdentity = none) (.persistenceError
      "outcome claims a response-artifact identity but no response artifact was supplied")

/-- `_verify_outcome_against_rederived_authority`. -/
def verifyOutcome (outcome : ModelAttemptOutcomeRecord) (artifact : Option ProviderResponseArtifact)
    (authority : AttemptAuthority) : Py Unit := do
  require (outcome.attemptCutoff = authority.cutoff)
    (.authorityMismatch "outcome cutoff does not match the supplied attempt authority")
  let decision ← rederived authority
  require (categoryPersistAllowed decision dispatchCapabilityCategory = true ∨
      (outcome.correlationIdentity = none ∧ outcome.idempotencyIdentity = none))
    (.authorityMismatch
      "outcome carries provider correlation or idempotency metadata the rederived authority prohibits")
  match artifact with
  | none => .ok ()
  | some artifact => do
      require (artifact.state = .durable → permittedResponseEvidenceState decision = .durable)
        (.authorityMismatch
          "durable response evidence is not authorized by independently rederived authority")
      require (outcome.responseEvidenceState = some artifact.state) (.authorityMismatch
        "outcome response-evidence state does not match the response artifact")

def requireAttempt (repository : Repository) : Option String → Py Unit
  | none => .ok ()
  | some attemptId => require (repository.attempts.any fun row => row.attemptId = attemptId)
      (.persistenceError
        ("outcome references attempt " ++ attemptId ++ ", which is not durably recorded"))

/-- The outcomes that are recorded for the attempt allow one more. -/
def requireSupersession (repository : Repository) (outcome : ModelAttemptOutcomeRecord) : Py Unit :=
  match outcome.attemptId with
  | none => .ok ()
  | some attemptId => do
      let prior := repository.outcomes.filter fun row => row.attemptId = some attemptId
      require (prior = [] ∨ outcome.supersedesOutcomeId ≠ none) (.persistenceConflict
        ("attempt " ++ attemptId ++ " already has a recorded outcome; " ++
          "a correction must supersede it explicitly rather than append silently"))
      require (∀ superseded ∈ outcome.supersedesOutcomeId,
          superseded ∈ prior.map OutcomeRow.outcomeId)
        (.persistenceError
          "a superseding outcome must reference an existing outcome for the same attempt")

/-- The artifact that comes with a new outcome is inserted under it, or it is there
already, wherever it came with. -/
def insertArtifact (repository : Repository) (outcomeId : String) :
    Option ProviderResponseArtifact → Py Repository
  | none => .ok repository
  | some artifact =>
      match repository.artifacts.find? fun row =>
          row.responseArtifactId = artifact.responseArtifactIdentity with
      | none => .ok { repository with
          artifacts := repository.artifacts ++ [.of artifact outcomeId] }
      | some row => do
          require (row.payloadHash = sha256 artifact.json.dumps) (.persistenceConflict
            ("conflicting payload for existing response artifact " ++
              artifact.responseArtifactIdentity))
          .ok repository

def appendOutcome (repository : Repository) (outcome : ModelAttemptOutcomeRecord)
    (artifact : Option ProviderResponseArtifact) (authority : AttemptAuthority) :
    Py (Unit × Repository) := do
  requireLineage outcome artifact
  verifyOutcome outcome artifact authority
  requireAttempt repository outcome.attemptId
  match repository.outcomes.find? fun row => row.outcomeId = outcome.outcomeId with
  | some row => do
      require (row.payloadHash = sha256 outcome.json.dumps) (.persistenceConflict
        ("conflicting payload for existing outcome " ++ outcome.outcomeId))
      .ok ((), repository)
  | none => do
      requireSupersession repository outcome
      let repository ← insertArtifact
        { repository with outcomes := repository.outcomes ++ [.of outcome] } outcome.outcomeId artifact
      .ok ((), repository)

def outcomeFromRow (row : OutcomeRow) : Py ModelAttemptOutcomeRecord := do
  require (sha256 row.payload.json.dumps = row.payloadHash)
    (.persistenceCorruption "persisted outcome hash mismatch")
  .ok row.payload

def artifactFromRow (row : ArtifactRow) : Py ProviderResponseArtifact := do
  require (sha256 row.payload.json.dumps = row.payloadHash)
    (.persistenceCorruption "persisted response artifact hash mismatch")
  .ok row.payload

/-- `ORDER BY recorded_at DESC, outcome_id DESC`. -/
def OutcomeRow.after (a b : OutcomeRow) : Bool :=
  b.recordedAt < a.recordedAt || (a.recordedAt = b.recordedAt && b.outcomeId ≤ a.outcomeId)

/-- The rows of an attempt that are known at a time and superseded by none known there. -/
def governingRows (repository : Repository) (attemptId moment : String) : List OutcomeRow :=
  repository.outcomes.filter fun row =>
    row.attemptId = some attemptId ∧ row.recordedAt ≤ moment ∧
      ¬ repository.outcomes.any fun other => other.attemptId = row.attemptId ∧
        other.recordedAt ≤ moment ∧ other.supersedesOutcomeId = some row.outcomeId

def authoritativeOutcome (repository : Repository) (attemptId : String) (cutoff : Moment) :
    Py (Option ModelAttemptOutcomeRecord) :=
  match ((governingRows repository attemptId cutoff.isoformat).mergeSort OutcomeRow.after).head? with
  | none => .ok none
  | some row => some <$> outcomeFromRow row

/-- `ORDER BY recorded_at DESC, response_artifact_id DESC`. -/
def ArtifactRow.after (a b : ArtifactRow) : Bool :=
  b.recordedAt < a.recordedAt ||
    (a.recordedAt = b.recordedAt && b.responseArtifactId ≤ a.responseArtifactId)

/-- The latest row of an attempt that is known at a time and accepted. -/
def latestArtifact (repository : Repository) (attemptId moment : String)
    (accepted : ArtifactRow → Bool) : Option ArtifactRow :=
  ((repository.artifacts.filter fun row => row.attemptId = attemptId && accepted row &&
    row.recordedAt ≤ moment).mergeSort ArtifactRow.after).head?

def strictKnownResponseArtifact (repository : Repository) (attemptId : String) (cutoff : Moment) :
    Py (Option ProviderResponseArtifact) := do
  let governing ← authoritativeOutcome repository attemptId cutoff
  let own := governing.bind fun outcome => latestArtifact repository attemptId cutoff.isoformat
    fun row => row.outcomeId = outcome.outcomeId
  match own.or (latestArtifact repository attemptId cutoff.isoformat fun _ => true) with
  | none => .ok none
  | some row => some <$> artifactFromRow row

def strictKnownResponseCapture (repository : Repository) (responseCaptureIdentity : String)
    (cutoff : Moment) : Py (Option (ProviderResponseArtifact × ModelAttemptOutcomeRecord)) :=
  match repository.artifacts.find? fun row =>
      row.responseArtifactId = responseCaptureIdentity ∧ row.recordedAt ≤ cutoff.isoformat with
  | none => .ok none
  | some row =>
      match repository.outcomes.find? fun other =>
          other.outcomeId = row.outcomeId ∧ other.recordedAt ≤ cutoff.isoformat with
      | none => .error (.persistenceCorruption "response capture outcome is unavailable at cutoff")
      | some outcomeRow => do
          let response ← artifactFromRow row
          require (response.responseArtifactIdentity = row.responseArtifactId)
            (.persistenceCorruption "persisted response capture identity mismatch")
          let outcome ← outcomeFromRow outcomeRow
          require (outcome.outcomeId = row.outcomeId)
            (.persistenceCorruption "response capture outcome identity mismatch")
          require (response.attemptId = row.attemptId ∧ outcome.attemptId = some response.attemptId)
            (.persistenceCorruption "response capture attempt lineage mismatch")
          let governing ← authoritativeOutcome repository response.attemptId cutoff
          require (governing.map (·.outcomeId) = some outcome.outcomeId) (.persistenceCorruption
            "response capture is not attached to the strict-known authoritative attempt outcome")
          .ok (some (response, outcome))

/-- A call of any caller, with what its authority resolves to. -/
inductive StoreCall where
  | persist (attempt : ModelAttemptRecord) (handoff : ModelHandoffRecord)
      (evidence : ProviderRequestEvidence) (authority : AttemptAuthority)
  | consume (handoffId : String) (consumedAt : Moment)
  | append (outcome : ModelAttemptOutcomeRecord) (artifact : Option ProviderResponseArtifact)
      (authority : AttemptAuthority)

def StoreCall.result (repository : Repository) : StoreCall → Py (Unit × Repository)
  | .persist attempt handoff evidence authority =>
      persistAttemptAndHandoff repository attempt handoff evidence authority
  | .consume handoffId consumedAt => consumeHandoffOnce repository handoffId consumedAt
  | .append outcome artifact authority => appendOutcome repository outcome artifact authority

def StoreCalls (repository : Repository) (call : StoreCall) (after : Repository) : Prop :=
  after = committed repository (call.result repository)

def emptyRepository : Repository := ⟨[], [], [], []⟩

end Hunter.ModelAdapter
