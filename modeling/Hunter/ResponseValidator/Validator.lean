import Hunter.ResponseValidator.Events
import Hunter.ResponseValidator.Outcomes

/-!
The response validator: the authorization of an allocated event or its refusal, the
execution of an issued authorization, and the attestations of what was decided. What
the upstream repositories hold at the cutoff, the verdict of the runtime and the reply
of the protected worker are read once in a call, whatever they are.
-/

namespace Hunter.ResponseValidator

open Calendar Fallible

inductive ValidationInputMode where
  | durable
  | transientNotRetained
  deriving DecidableEq, Repr

def ValidationInputMode.text : ValidationInputMode → String
  | .durable => "DURABLE"
  | .transientNotRetained => "TRANSIENT_NOT_RETAINED"

/-- Exact canonical authority and lineage bound into one authorization. -/
@[ext]
structure AuthorityCoordinates where
  validationEventId : CanonicalText
  validationCutoff : Moment
  profileResolutionId : CanonicalText
  profilePublicationId : CanonicalText
  profileVersion : Nat
  validatorContractIdentity : CanonicalText
  validatorContractVersion : CanonicalText
  requestedOutputContractIdentity : CanonicalText
  requestedOutputContractVersion : CanonicalText
  outputContractHash : CanonicalText
  sourceHandlingResolutionId : CanonicalText
  sourceHandlingFactRecordId : CanonicalText
  sourceHandlingPolicyRecordId : CanonicalText
  sourceHandlingRegistryId : CanonicalText
  sourceHandlingAuthorizationRuleId : CanonicalText
  responseCaptureIdentity : CanonicalText
  responseEvidenceState : CanonicalText
  attemptId : CanonicalText
  handoffId : CanonicalText
  outcomeId : CanonicalText
  executionProfileIdentity : CanonicalText
  requestEvidenceIdentity : CanonicalText
  buildRecordId : CanonicalText
  promptArtifactId : CanonicalText
  intentId : CanonicalText
  ledgerId : CanonicalText
  allocationId : CanonicalText
  packageId : CanonicalText
  evidenceInputIdentity : CanonicalText
  inputMode : ValidationInputMode
  revalidationGeneration : Nat
  predecessorValidationEventId : Option String
  version_pos : 1 ≤ profileVersion

instance : DecidableEq AuthorityCoordinates := fun _ _ =>
  decidable_of_iff _ AuthorityCoordinates.ext_iff.symm

/-- The members of the lineage, which the terminal record keeps one by one. -/
def AuthorityCoordinates.lineage (c : AuthorityCoordinates) : List (String × Json) := [
  ("profile_resolution_id", .str c.profileResolutionId.val),
  ("profile_publication_id", .str c.profilePublicationId.val),
  ("profile_version", .int c.profileVersion),
  ("validator_contract_identity", .str c.validatorContractIdentity.val),
  ("validator_contract_version", .str c.validatorContractVersion.val),
  ("requested_output_contract_identity", .str c.requestedOutputContractIdentity.val),
  ("requested_output_contract_version", .str c.requestedOutputContractVersion.val),
  ("output_contract_hash", .str c.outputContractHash.val),
  ("source_handling_resolution_id", .str c.sourceHandlingResolutionId.val),
  ("source_handling_fact_record_id", .str c.sourceHandlingFactRecordId.val),
  ("source_handling_policy_record_id", .str c.sourceHandlingPolicyRecordId.val),
  ("source_handling_registry_id", .str c.sourceHandlingRegistryId.val),
  ("source_handling_authorization_rule_id", .str c.sourceHandlingAuthorizationRuleId.val),
  ("response_capture_identity", .str c.responseCaptureIdentity.val),
  ("response_evidence_state", .str c.responseEvidenceState.val),
  ("attempt_id", .str c.attemptId.val),
  ("handoff_id", .str c.handoffId.val),
  ("outcome_id", .str c.outcomeId.val),
  ("execution_profile_identity", .str c.executionProfileIdentity.val),
  ("request_evidence_identity", .str c.requestEvidenceIdentity.val),
  ("build_record_id", .str c.buildRecordId.val),
  ("prompt_artifact_id", .str c.promptArtifactId.val),
  ("intent_id", .str c.intentId.val),
  ("ledger_id", .str c.ledgerId.val),
  ("allocation_id", .str c.allocationId.val),
  ("package_id", .str c.packageId.val),
  ("evidence_input_identity", .str c.evidenceInputIdentity.val),
  ("input_mode", .str c.inputMode.text)]

def authorizationSchemaVersion : String := "response-validation-authorization-v1"

/-- `asdict`. -/
def AuthorityCoordinates.json (c : AuthorityCoordinates) : Json := .obj ([
  ("validation_event_id", .str c.validationEventId.val),
  ("validation_cutoff", .str c.validationCutoff.isoformat)] ++ c.lineage ++ [
  ("revalidation_generation", .int c.revalidationGeneration),
  ("predecessor_validation_event_id", optionalText c.predecessorValidationEventId),
  ("schema_version", .str authorizationSchemaVersion)])

/-- A validator-issued authorization is its coordinates. -/
structure Authorization where
  coordinates : AuthorityCoordinates
  deriving DecidableEq

def Authorization.authorizationId (authorization : Authorization) : String :=
  identity "response-validation-authorization" (.obj [
    ("coordinates", authorization.coordinates.json),
    ("schema_version", .str authorizationSchemaVersion)])

structure ValidationFinding where
  dimension : CanonicalText
  state : ValidationState
  reasonCode : CanonicalText
  deriving DecidableEq

namespace ValidationFinding

def json (finding : ValidationFinding) : Json := .obj [
  ("dimension", .str finding.dimension.val),
  ("state", .str finding.state.text),
  ("reason_code", .str finding.reasonCode.val)]

/-- The order of `(rank, dimension, reason_code)`. -/
def before (a b : ValidationFinding) : Bool :=
  a.state.rank < b.state.rank || (a.state.rank = b.state.rank &&
    (a.dimension.val < b.dimension.val || (a.dimension.val = b.dimension.val &&
      a.reasonCode.val ≤ b.reasonCode.val)))

end ValidationFinding

/-- Each finding once, in order. -/
def canonicalFindings (findings : List ValidationFinding) : List ValidationFinding :=
  findings.dedup.mergeSort ValidationFinding.before

/-- Canonical semantic decision. -/
structure SemanticOutcome where
  authorizationId : String
  coordinates : AuthorityCoordinates
  state : ValidationState
  findings : List ValidationFinding
  executed : Bool
  findings_ne : findings ≠ []
  deriving DecidableEq

def semanticOutcome (authorizationId : String) (coordinates : AuthorityCoordinates)
    (state : ValidationState) (findings : List ValidationFinding) (executed : Bool) :
    Py SemanticOutcome :=
  let canonical := canonicalFindings findings
  if findings_ne : canonical ≠ [] then do
    let highest ← highestPrecedence (canonical.map ValidationFinding.state)
    require (highest = state)
      (.executionError "semantic outcome state does not match canonical precedence")
    .ok ⟨authorizationId, coordinates, state, canonical, executed, findings_ne⟩
  else .error (.executionError "semantic outcome requires at least one finding")

def SemanticOutcome.semanticOutcomeId (outcome : SemanticOutcome) : String :=
  identity "response-semantic-validation-outcome" (.obj [
    ("authorization_id", .str outcome.authorizationId),
    ("coordinates", outcome.coordinates.json),
    ("state", .str outcome.state.text),
    ("findings", .arr (outcome.findings.map ValidationFinding.json)),
    ("executed", .bool outcome.executed),
    ("schema_version", .str "response-semantic-validation-outcome-v1")])

/-- The order of names and values. -/
def authorityBefore (a b : String × String) : Bool :=
  a.1 < b.1 || (a.1 = b.1 && a.2 ≤ b.2)

theorem authorityBefore_iff {a b : String × String} :
    authorityBefore a b = true ↔ a.1 < b.1 ∨ a.1 = b.1 ∧ a.2 ≤ b.2 := by
  simp [authorityBefore]

/-- Sorting sorted authority changes nothing. -/
theorem authority_sorted (authority : List (String × String)) :
    (authority.mergeSort authorityBefore).mergeSort authorityBefore =
      authority.mergeSort authorityBefore := by
  refine List.mergeSort_of_pairwise (List.pairwise_mergeSort ?_ ?_ authority)
  · intro a b c first second
    rw [authorityBefore_iff] at *
    rcases first with ab | ⟨ab, values⟩
    · rcases second with bc | ⟨bc, -⟩
      · exact Or.inl (ab.trans bc)
      · exact Or.inl (bc ▸ ab)
    · rcases second with bc | ⟨bc, more⟩
      · exact Or.inl (ab ▸ bc)
      · exact Or.inr ⟨ab.trans bc, values.trans more⟩
  · intro a b
    rw [Bool.or_eq_true, authorityBefore_iff, authorityBefore_iff]
    rcases lt_trichotomy a.1 b.1 with less | same | more
    · exact Or.inl (Or.inl less)
    · rcases le_total a.2 b.2 with less | more
      · exact Or.inl (Or.inr ⟨same, less⟩)
      · exact Or.inr (Or.inr ⟨same.symm, more⟩)
    · exact Or.inr (Or.inl more)

/-- Truthful pre-semantic refusal. The authority that resolved stands in order, each
name once. -/
structure Refusal where
  validationEventId : CanonicalText
  validationCutoff : Moment
  state : ValidationState
  reasonCode : CanonicalText
  availableAuthority : List (String × String)
  state_mem : state ∈ refusalStates
  sorted : availableAuthority.mergeSort authorityBefore = availableAuthority
  unique : (availableAuthority.map Prod.fst).Nodup
  deriving DecidableEq

def Refusal.refusalId (refusal : Refusal) : String :=
  identity "response-validation-refusal" (.obj [
    ("validation_event_id", .str refusal.validationEventId.val),
    ("validation_cutoff", .str refusal.validationCutoff.isoformat),
    ("state", .str refusal.state.text),
    ("reason_code", .str refusal.reasonCode.val),
    ("available_authority", .arr (refusal.availableAuthority.map fun pair =>
      .arr [.str pair.1, .str pair.2])),
    ("schema_version", .str "response-validation-refusal-v1")])

inductive AttestationKind where
  | success
  | refusal
  deriving DecidableEq, Repr

def AttestationKind.text : AttestationKind → String
  | .success => "SUCCESS"
  | .refusal => "REFUSAL"

/-- State-compatible attestation: a success carries its authorization, a refusal none. -/
@[ext]
structure Attestation where
  kind : AttestationKind
  decisionId : String
  validationEventId : String
  state : ValidationState
  authorizationId : Option String
  compatible : kind = .success ↔ authorizationId.isSome
  deriving DecidableEq

def Attestation.attestationId (attestation : Attestation) : String :=
  identity "response-validation-attestation" (.obj [
    ("kind", .str attestation.kind.text),
    ("decision_id", .str attestation.decisionId),
    ("validation_event_id", .str attestation.validationEventId),
    ("state", .str attestation.state.text),
    ("authorization_id", optionalText attestation.authorizationId),
    ("schema_version", .str "response-validation-attestation-v1")])

/-- `ResponseValidationExecutionResult` and `ResponseValidationRefusalResult`. -/
inductive ValidatorResult where
  | execution (outcome : SemanticOutcome) (attestation : Attestation)
  | refusal (refusal : Refusal) (attestation : Attestation)
  deriving DecidableEq

/-- What the canonical authority of an allocation resolves to. -/
structure CanonicalInputs (allocation : ValidationEventAllocation) where
  coordinates : AuthorityCoordinates
  /-- The content of a durable response. -/
  content : Option String
  event_eq : coordinates.validationEventId.val = allocation.validationEventId
  cutoff_eq : coordinates.validationCutoff = allocation.validationCutoff
  generation_eq : coordinates.revalidationGeneration = allocation.revalidationGeneration
  predecessor_eq :
    coordinates.predecessorValidationEventId = allocation.predecessorValidationEventId

/-- A refusal signal with the authority that resolved, or an exception. -/
inductive Interruption where
  | signal (state : ValidationState) (reasonCode : String)
      (availableAuthority : List (String × String))
  | raised (exn : Exn)

/-- What the upstream repositories hold for each allocation at one moment. -/
abbrev Upstream : Type :=
  (allocation : ValidationEventAllocation) → Except Interruption (CanonicalInputs allocation)

def validationEvent (tables : EventTables) (validationEventId : String) :
    Py (Option ValidationEventAllocation) :=
  match tables.allocations.find? fun row => row.validationEventId = validationEventId with
  | some row => some <$> allocationFromRow row
  | none => .ok none

/-- `_canonical_authorization_inputs`: only a canonical allocation is looked up. -/
def canonicalAuthorizationInputs (tables : EventTables) (upstream : Upstream)
    (allocation : ValidationEventAllocation) :
    Py (Except Interruption (CanonicalInputs allocation)) := do
  let canonical ← validationEvent tables allocation.validationEventId
  require (canonical = some allocation) (.authorizationError
    "validation event identity or cutoff does not match the canonical Phase A allocation")
  .ok (upstream allocation)

def refusalResult (allocation : ValidationEventAllocation) (state : ValidationState)
    (reasonCode : String) (availableAuthority : List (String × String)) : Py ValidatorResult := do
  let event ← requiredText "validation_event_id" allocation.validationEventId
  let reason ← requiredText "reason_code" reasonCode
  let normalized ← availableAuthority.mapM fun pair => do
    let name ← requiredText "authority name" pair.1
    let value ← requiredText pair.1 pair.2
    .ok (name.val, value.val)
  let sorted := normalized.mergeSort authorityBefore
  if state_mem : state ∈ refusalStates then
    if unique : (sorted.map Prod.fst).Nodup then
      let refusal : Refusal := ⟨event, allocation.validationCutoff, state, reason, sorted,
        state_mem, authority_sorted normalized, unique⟩
      .ok (.refusal refusal ⟨.refusal, refusal.refusalId, allocation.validationEventId, state, none,
        by simp⟩)
    else .error (.authorizationError "refusal authority coordinates must be unique")
  else .error (.authorizationError "state is not a pre-semantic refusal state")

/-- What the validator keeps in memory, by authorization and by event. -/
structure ValidatorMemory where
  issued : String → Option (Authorization × (allocation : ValidationEventAllocation) ×
    CanonicalInputs allocation)
  executionResults : String → Option ValidatorResult
  eventAuthorizationIds : String → Option String

def ValidatorMemory.record (memory : ValidatorMemory) (authorizationId : String)
    (result : ValidatorResult) : ValidatorMemory :=
  { memory with executionResults := fun id =>
      if id = authorizationId then some result else memory.executionResults id }

def ValidatorMemory.issue (memory : ValidatorMemory) (allocation : ValidationEventAllocation)
    (inputs : CanonicalInputs allocation) : ValidatorMemory :=
  let authorization : Authorization := ⟨inputs.coordinates⟩
  { memory with
    issued := fun id => if id = authorization.authorizationId then
      some (authorization, ⟨allocation, inputs⟩) else memory.issued id
    eventAuthorizationIds := fun event => if event = allocation.validationEventId then
      some authorization.authorizationId else memory.eventAuthorizationIds event }

/-- An authorization, or the refusal of an event. -/
inductive AuthorizationResult where
  | authorized (authorization : Authorization)
  | refused (result : ValidatorResult)

def requireAsserted (asserted : Option AuthorityCoordinates) (canonical : AuthorityCoordinates) :
    Py Unit :=
  require (∀ coordinates ∈ asserted, coordinates = canonical)
    (.authorizationError "asserted authority coordinates do not match canonical state")

/-- What the validator shares with other callers and what it keeps. -/
structure ValidatorState where
  tables : EventTables
  memory : ValidatorMemory

def authorizeInputs (state : ValidatorState) (allocation : ValidationEventAllocation)
    (inputs : CanonicalInputs allocation) : Py (AuthorizationResult × ValidatorState) := do
  let authorization : Authorization := ⟨inputs.coordinates⟩
  let (reserved, tables) ← (match inputs.coordinates.inputMode with
    | .durable => (.ok (true, state.tables) : Py (Bool × EventTables))
    | .transientNotRetained => reserveTransientCapture state.tables
        inputs.coordinates.responseCaptureIdentity.val inputs.coordinates.validationEventId.val)
  if reserved = true then
    match state.memory.issued authorization.authorizationId with
    | some (existing, _) => .ok (.authorized existing, { state with tables })
    | none => .ok (.authorized authorization,
        { tables, memory := state.memory.issue allocation inputs })
  else do
    let result ← refusalResult allocation .inputUnavailable
      "TRANSIENT_RESPONSE_CAPTURE_RESERVED_BY_OTHER_EVENT" [
        ("profile_publication_id", inputs.coordinates.profilePublicationId.val),
        ("profile_resolution_id", inputs.coordinates.profileResolutionId.val),
        ("response_capture_identity", inputs.coordinates.responseCaptureIdentity.val),
        ("validation_event_id", inputs.coordinates.validationEventId.val)]
    .ok (.refused result, { state with tables })

def authorizeEvent (upstream : Upstream) (state : ValidatorState)
    (allocation : ValidationEventAllocation) (asserted : Option AuthorityCoordinates) :
    Py (AuthorizationResult × ValidatorState) :=
  let completed := (state.memory.eventAuthorizationIds allocation.validationEventId).bind fun id =>
    (state.memory.executionResults id).bind fun _ => state.memory.issued id
  match completed with
  | some (authorization, issuedFor) => do
      require (issuedFor.1 = allocation) (.authorizationError
        "validation event identity or cutoff does not match the completed authorization")
      requireAsserted asserted authorization.coordinates
      .ok (.authorized authorization, state)
  | none => do
      match ← canonicalAuthorizationInputs state.tables upstream allocation with
      | .error (.raised exn) => .error exn
      | .error (.signal refused reasonCode availableAuthority) => do
          let result ← refusalResult allocation refused reasonCode availableAuthority
          .ok (.refused result, state)
      | .ok inputs => do
          requireAsserted asserted inputs.coordinates
          authorizeInputs state allocation inputs

/-- What the runtime makes of a text. -/
inductive Verdict where
  | findings (found : List ValidationFinding)
  | ruleUnavailable
  | failed

def constantText (text : String) (h : text ≠ "" ∧ Chars.strip text.scalars = text.scalars) :
    CanonicalText := ⟨text, h⟩

def Verdict.evaluated : Verdict → List ValidationFinding
  | .findings found => found
  | .ruleUnavailable => [⟨constantText "RULE_AVAILABILITY" (by decide), .ruleUnavailable,
      constantText "EXECUTABLE_VALIDATION_RULE_UNAVAILABLE" (by decide)⟩]
  | .failed => [⟨constantText "VALIDATOR_EXECUTION" (by decide), .validatorError,
      constantText "VALIDATOR_EXECUTION_FAILED" (by decide)⟩]

/-- What the protected worker answers; `none` is a validator without one. -/
inductive WorkerReply where
  | accessError
  | refusal (state : String) (reasonCode : Option String)
  | findings (authorizationId : String) (findings : List (String × String × String))
      (state : String)

def validationFinding (item : String × String × String) : Py ValidationFinding := do
  let state ← canonicalValidationState item.2.1
  let dimension ← requiredText "dimension" item.1
  let reasonCode ← requiredText "reason_code" item.2.2
  .ok ⟨dimension, state, reasonCode⟩

/-- The findings of a transient response, or the refusal that stands for them. -/
def transientFindings (allocation : ValidationEventAllocation) (authorizationId : String)
    (worker : Option WorkerReply) : Py (ValidatorResult ⊕ List ValidationFinding) :=
  let refused (reasonCode : String) := (Sum.inl <$> refusalResult allocation .inputUnavailable
    reasonCode [("validation_event_id", allocation.validationEventId)] :
      Py (ValidatorResult ⊕ List ValidationFinding))
  match worker with
  | none => refused "PROTECTED_TRANSIENT_WORKER_UNAVAILABLE"
  | some .accessError => refused "TRANSIENT_RESPONSE_ACCESS_UNAVAILABLE"
  | some (.refusal state reasonCode) => do
      let known ← canonicalValidationState state
      require (known = .inputUnavailable)
        (.executionError "protected worker returned a non-input refusal after authorization")
      refused (match reasonCode with
        | some reason => if reason = "" then "TRANSIENT_RESPONSE_ACCESS_UNAVAILABLE" else reason
        | none => "TRANSIENT_RESPONSE_ACCESS_UNAVAILABLE")
  | some (.findings replied items state) => do
      require (replied = authorizationId)
        (.executionError "protected worker authorization identity mismatch")
      require (items ≠ []) (.executionError "protected worker returned no semantic findings")
      let findings ← items.mapM validationFinding
      let highest ← highestPrecedence (findings.map ValidationFinding.state)
      require (state = highest.text)
        (.executionError "protected worker semantic state mismatch")
      .ok (.inr findings)

/-- The decision on findings, with its attestation. -/
def executionResult (authorization : Authorization) (findings : List ValidationFinding) :
    Py ValidatorResult := do
  let state ← highestPrecedence (findings.map ValidationFinding.state)
  let outcome ← semanticOutcome authorization.authorizationId authorization.coordinates state
    findings true
  .ok (.execution outcome ⟨.success, outcome.semanticOutcomeId,
    authorization.coordinates.validationEventId.val, state, some authorization.authorizationId,
    by simp⟩)

/-- `_presemantic_execution_refusal`: an execution result whose attestation refuses. -/
def presemanticExecutionRefusal (authorization : Authorization) (reasonCode : String) :
    Py ValidatorResult := do
  let reason ← requiredText "reason_code" reasonCode
  let finding : ValidationFinding :=
    ⟨constantText "INPUT_AVAILABILITY" (by decide), .inputUnavailable, reason⟩
  let outcome ← semanticOutcome authorization.authorizationId authorization.coordinates
    .inputUnavailable [finding] false
  .ok (.execution outcome ⟨.refusal, outcome.semanticOutcomeId,
    authorization.coordinates.validationEventId.val, .inputUnavailable, none, by simp⟩)

/-- What an execution decides on authority that rederives. -/
def executeInputs (authorization : Authorization) (allocation : ValidationEventAllocation)
    (rederived : CanonicalInputs allocation) (verdict : String → Verdict)
    (worker : Option WorkerReply) : Py ValidatorResult := do
  require (rederived.coordinates = authorization.coordinates)
    (.executionError "authorization coordinates no longer match canonical authority")
  match authorization.coordinates.inputMode with
  | .durable =>
      match rederived.content with
      | none =>
          .error (.executionError "durable authorization has no canonical response content")
      | some content => executionResult authorization (verdict content).evaluated
  | .transientNotRetained => do
      match ← transientFindings allocation authorization.authorizationId worker with
      | .inl refusal => .ok refusal
      | .inr findings => executionResult authorization findings

/-- What an execution makes of the authority derived again. -/
def executeDerived (authorization : Authorization) (allocation : ValidationEventAllocation)
    (derived : Except Interruption (CanonicalInputs allocation)) (verdict : String → Verdict)
    (worker : Option WorkerReply) : Py ValidatorResult :=
  match derived with
  | .error (.raised exn) => .error exn
  | .error (.signal refused reasonCode _) =>
      if refused = .inputUnavailable then presemanticExecutionRefusal authorization reasonCode
      else .error (.executionError
        ("authorization authority no longer rederives at its historical cutoff: " ++ reasonCode))
  | .ok rederived => executeInputs authorization allocation rederived verdict worker

/-- `execute`: one result for an authorization, which is kept. -/
def execute (upstream : Upstream) (verdict : String → Verdict) (worker : Option WorkerReply)
    (state : ValidatorState) (authorization : Authorization) :
    Py (ValidatorResult × ValidatorState) :=
  match state.memory.issued authorization.authorizationId with
  | none => .error (.executionError "authorization is unknown, forged, or substituted")
  | some (issued, ⟨allocation, _⟩) => do
      require (issued = authorization)
        (.executionError "authorization is unknown, forged, or substituted")
      match state.memory.executionResults authorization.authorizationId with
      | some cached => .ok (cached, state)
      | none => do
          let derived ← canonicalAuthorizationInputs state.tables upstream allocation
          let result ← executeDerived authorization allocation derived verdict worker
          .ok (result, { state with
            memory := state.memory.record authorization.authorizationId result })

end Hunter.ResponseValidator
