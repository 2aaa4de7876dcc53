import Hunter.IssueAgent.Patterns
import Hunter.IssueAgent.Vocabulary

/-!
The evidence a transition of each state must carry, and the evidence of the three
resume records. Every type is what its closed schema leaves after validation.
-/

namespace Hunter.IssueAgent

open Schema (field extraField)

structure Artifact where
  runId : Positive
  artifactId : Positive
  artifactDigest : artifactDigestPattern.Matching
  ciphertextSha256 : Sha64
  aadSha256 : Sha64
  recipientKeyId : Sha64
  deriving DecidableEq

def artifact : Validator Artifact :=
  object (Artifact.mk <$> field "run_id" positive <*> field "artifact_id" positive <*>
    field "artifact_digest" (pattern artifactDigestPattern) <*> field "ciphertext_sha256" sha64 <*>
    field "aad_sha256" sha64 <*> field "recipient_key_id" sha64)

structure Claims where
  ownerLogin : Login
  label : labelPattern.Matching
  issueUpdatedAt : Timestamp
  schemaVersion : Ident
  titleSha256 : Sha64
  bodySha256 : Sha64
  deriving DecidableEq

def claims : Validator Claims :=
  object (Claims.mk <$> field "owner_login" (pattern loginPattern) <*>
    field "label" (pattern labelPattern) <*> field "issue_updated_at" timestamp <*>
    field "schema_version" ident <*> field "title_sha256" sha64 <*> field "body_sha256" sha64)

structure TaskScope where
  taskId : Ident
  branchPattern : branchGlobPattern.Matching
  baseSha : Sha40
  allowedPaths : List ScopePath
  prohibitedPaths : List ScopePath
  deriving DecidableEq

def taskScope : Validator TaskScope :=
  object (TaskScope.mk <$> field "task_id" ident <*>
    field "branch_pattern" (pattern branchGlobPattern) <* field "base_ref" (exactText "main") <*>
    field "base_sha" sha40 <*> field "allowed_paths" (list scopePath 256) <*>
    field "prohibited_paths" (list scopePath 256))

structure Lineage where
  documentId : Ident
  buildRecordId : Ident
  envelopeId : Ident
  promptArtifactId : Ident
  promptSha256 : Sha64
  handoffSha256 : Sha64
  dpmContextSha256 : Sha64
  sourceHandlingRecordIds : List Ident
  deriving DecidableEq

def lineage : Validator Lineage :=
  object (Lineage.mk <$> field "document_id" ident <*> field "build_record_id" ident <*>
    field "envelope_id" ident <*> field "prompt_artifact_id" ident <*>
    field "prompt_sha256" sha64 <*> field "handoff_sha256" sha64 <*>
    field "dpm_context_sha256" sha64 <*>
    field "source_handling_record_ids" (list ident 64) <*
    field "reconstruction" (exactText "EXACT_RECONSTRUCTION_UNAVAILABLE") <*
    field "reconstruction_reason" (exactText "NO_CONFIDENTIAL_DURABLE_STORE"))

/-- The second seal of the handoff, bound to the second execution identity. -/
structure FallbackOffer where
  executionId : Sha64
  handoffArtifact : Artifact
  deriving DecidableEq

def fallbackOffer : Validator FallbackOffer :=
  object (FallbackOffer.mk <$> field "execution_id" sha64 <*> field "handoff_artifact" artifact)

structure Remediation where
  parentAuthorizationId : AuthorizationId
  pullRequestNumber : Positive
  boundHeadSha : Sha40
  findingIds : List Sha64
  attempt : Positive
  deriving DecidableEq

def remediation : Validator Remediation :=
  object (Remediation.mk <$> field "parent_authorization_id" authorizationId <*>
    field "pull_request_number" positive <*> field "bound_head_sha" sha40 <*>
    field "finding_ids" (list sha64 16) <*> field "attempt" positive)

structure AuthorizedEvidence where
  authorizationEnvelopeSha256 : Sha64
  claims : Claims
  taskScope : TaskScope
  taskScopeSha256 : Sha64
  executionBranch : branchPattern.Matching
  baseSha : Sha40
  controlSha : Sha40
  authorizeRunId : Positive
  executionId : Sha64
  promptInputManifestSha256 : Sha64
  compilerIdentitySha256 : Sha64
  deadlinePublishedAt : Timestamp
  lineage : Lineage
  handoffArtifact : Artifact
  fallback : Option FallbackOffer
  fallbackCanary : Option Bool
  remediation : Option Remediation
  deriving DecidableEq

def authorizedEvidence : Validator AuthorizedEvidence :=
  object (AuthorizedEvidence.mk <$> field "authorization_envelope_sha256" sha64 <*>
    field "claims" claims <*> field "task_scope" taskScope <*> field "task_scope_sha256" sha64 <*>
    field "execution_branch" (pattern branchPattern) <*> field "base_sha" sha40 <*>
    field "control_sha" sha40 <*> field "authorize_run_id" positive <*>
    field "execution_id" sha64 <*> field "prompt_input_manifest_sha256" sha64 <*>
    field "compiler_identity_sha256" sha64 <*> field "deadline_published_at" timestamp <*>
    field "lineage" lineage <*> field "handoff_artifact" artifact <*>
    extraField "fallback" fallbackOffer <*> extraField "fallback_canary" bool <*>
    extraField "remediation" remediation)

structure CanaryRefusal where
  primaryRefusals : Positive
  refusalDigest : Sha64
  deriving DecidableEq

def canaryRefusal : Validator CanaryRefusal :=
  object ((fun _ refusals _ digest => CanaryRefusal.mk refusals digest) <$>
    field "provider_host" (exactText canaryProviderHost) <*>
    field "primary_refusals" positive <*> field "probe_refusals" (exact (.int 1) "1") <*>
    field "refusal_digest" sha64)

/-- `FALLBACK_EXECUTORS` has one member. -/
def fallbackExecutor : Validator Unit := enum (fun _ => "codex") [()]

structure FallbackAuthorizedEvidence where
  primaryExecutorJobId : Positive
  primaryExecutorConclusion : ExecutorConclusion
  primaryCause : Cause
  stderrCategory : Cause
  probeCategory : Cause
  fallbackExecutionId : Sha64
  canaryRefusal : Option CanaryRefusal
  deriving DecidableEq

def fallbackAuthorizedEvidence : Validator FallbackAuthorizedEvidence :=
  object (FallbackAuthorizedEvidence.mk <$> field "primary_executor_job_id" positive <*>
    field "primary_executor_conclusion" (enum ExecutorConclusion.text executorConclusions) <*>
    field "primary_cause" (enum Cause.text fallbackPrimaryCauses) <*>
    field "stderr_category" (enum Cause.text fallbackCauses) <*>
    field "probe_category" (enum Cause.text fallbackCauses) <*
    field "primary_result_artifacts" (exact (.int 0) "0") <*
    field "fallback_executor" fallbackExecutor <*> field "fallback_execution_id" sha64 <*>
    extraField "canary_refusal" canaryRefusal)

def ModelProvenance.observing : ModelProvenance → Bool
  | .reported | .rerouted => true
  | _ => false

/-- A model record that names an observed model only when the CLI reported one. -/
structure FallbackModel where
  requested : modelSlugPattern.Matching
  requestedListed : Bool
  observed : Option modelSlugPattern.Matching
  provenance : ModelProvenance
  named : provenance.observing = observed.isSome
  reported : provenance = .reported → observed = some requested

def fallbackModelKeys : List String := ["requested", "requested_listed", "observed", "provenance"]

/-- `None` is a value that is neither null nor the name of a model. -/
def observedModel : Json → Option (Option modelSlugPattern.Matching)
  | .null => some none
  | .str name => if h : modelSlugPattern.fullmatch name = true then some (some ⟨name, h⟩) else none
  | _ => none

def saying {α : Type} (why : String) (inner : Validator α) : Validator α := fun j place =>
  reraise (fun _ => fail place why) (inner j place)

def fallbackModel : Validator FallbackModel
  | .obj fields, place => do
      let keys := fields.map Prod.fst
      require (keys ⊆ fallbackModelKeys ∧ fallbackModelKeys ⊆ keys)
        (fail place "fields differ from the closed schema")
      let observed ← item "observed" (Json.lookup "observed" fields)
      let provenance ← item "provenance" (Json.lookup "provenance" fields)
      let requested ← item "requested" (Json.lookup "requested" fields)
      let requested ← saying "malformed requested model" (pattern modelSlugPattern) requested place
      let listed ← item "requested_listed" (Json.lookup "requested_listed" fields)
      let listed ← saying "requested_listed must be a boolean" bool listed place
      let provenance ← saying "provenance outside the closed vocabulary"
        (enum ModelProvenance.text fallbackModelProvenance) provenance place
      match observedModel observed with
      | none => .error (fail place "an observed model is recorded only when the CLI reported one")
      | some observed =>
          if named : provenance.observing = observed.isSome then
            if reported : provenance = .reported → observed = some requested then
              return ⟨requested, listed, observed, provenance, named, reported⟩
            else
              .error (fail place "a reported model that differs from the request is a reroute")
          else
            .error (fail place "an observed model is recorded only when the CLI reported one")
  | _, place => .error (fail place "fields differ from the closed schema")

structure FallbackResult where
  attestationSha256 : Sha64
  deadlinePublishedAt : Timestamp
  model : Option FallbackModel

def fallbackResult : Validator FallbackResult :=
  object ((fun _ _ attestation deadline model => FallbackResult.mk attestation deadline model) <$>
    field "execution_attempt" (exact (.int 2) "2") <*> field "executor" fallbackExecutor <*>
    field "attestation_sha256" sha64 <*> field "deadline_published_at" timestamp <*>
    extraField "model" fallbackModel)

structure ResultBoundEvidence where
  resultArtifact : Artifact
  resultPlaintextSha256 : Sha64
  executorJobId : Positive
  executorConclusion : ExecutorConclusion
  executorAdvisoryCode : Option AdvisoryCode
  fallback : Option FallbackResult

def resultBoundEvidence : Validator ResultBoundEvidence :=
  object (ResultBoundEvidence.mk <$> field "result_artifact" artifact <*>
    field "result_plaintext_sha256" sha64 <*> field "executor_job_id" positive <*>
    field "executor_conclusion" (enum ExecutorConclusion.text executorConclusions) <*>
    field "executor_advisory_code" (optional (enum AdvisoryCode.text advisoryCodes)) <*>
    extraField "fallback" fallbackResult)

/-- Exactly one of a known family and the description of a new one. -/
inductive Disposition where
  | family (familyId : familyIdPattern.Matching)
  | newFamily (title : familyTitlePattern.Matching) (invariant : familyTextPattern.Matching)
  deriving DecidableEq

def newFamily : Validator Disposition :=
  object (Disposition.newFamily <$> field "title" (pattern familyTitlePattern) <*>
    field "invariant" (pattern familyTextPattern))

def disposition : Validator Disposition := fun j place =>
  match j with
  | .obj fields =>
      let keys := fields.map Prod.fst
      match Json.lookup "family_id" fields, Json.lookup "new_family" fields with
      | some familyId, none => do
          require (keys ⊆ ["family_id"]) (refusal place)
          Disposition.family <$> pattern familyIdPattern familyId (place ++ ".family_id")
      | none, some family => do
          require (keys ⊆ ["new_family"]) (refusal place)
          newFamily family (place ++ ".new_family")
      | _, _ => .error (refusal place)
  | _ => .error (refusal place)
where
  refusal (place : String) : Exn :=
    fail place "disposition must be exactly one family_id or new_family"

/-- The proof facts of a remediation that was driven by findings. -/
structure ProvenMapping where
  boundHeadSha : Sha40
  findingIds : List Sha64
  provenFindingIds : List Sha64
  regressionTests : List testIdPattern.Matching
  disposition : Option Disposition
  promotionSha256 : Sha64
  deriving DecidableEq

def provenMapping : Validator ProvenMapping :=
  object (ProvenMapping.mk <$> field "bound_head_sha" sha40 <*>
    field "finding_ids" (list sha64 16) <*> field "proven_finding_ids" (list sha64 16) <*>
    field "regression_tests" (list (pattern testIdPattern) 32) <*>
    field "disposition" (optional disposition) <*> field "promotion_sha256" sha64)

structure ValidatedEvidence where
  receiptSha256 : Sha64
  resultSha256 : Sha64
  treeSha : Sha40
  unsignedCommitSha : Sha40
  validationDefinition : Sha64
  toolchainSha256 : Sha64
  validatorRunId : Positive
  validationAttempts : Positive
  remediation : Option ProvenMapping
  deriving DecidableEq

def validatedEvidence : Validator ValidatedEvidence :=
  object (ValidatedEvidence.mk <$> field "receipt_sha256" sha64 <*> field "result_sha256" sha64 <*>
    field "tree_sha" sha40 <*> field "unsigned_commit_sha" sha40 <*>
    field "validation_definition" sha64 <*> field "toolchain_sha256" sha64 <*>
    field "validator_run_id" positive <*> field "validation_attempts" positive <*>
    extraField "remediation" provenMapping)

structure PublishedEvidence where
  writerLogin : Login
  publicationIdentity : Sha64
  headSha : Sha40
  publishAttempts : Positive
  deadlineCompletedAt : Timestamp
  deriving DecidableEq

def publishedEvidence : Validator PublishedEvidence :=
  object (PublishedEvidence.mk <$> field "writer_login" (pattern loginPattern) <*>
    field "publication_identity" sha64 <*> field "head_sha" sha40 <*
    field "commit_verified" (exact (.bool true) "True") <*> field "publish_attempts" positive <*>
    field "deadline_completed_at" timestamp)

structure CompletedEvidence where
  pullRequestNumber : Positive
  pullRequestNodeId : nodeIdPattern.Matching
  pullRequestHeadSha : Sha40
  preflightRunId : Positive
  deriving DecidableEq

def completedEvidence : Validator CompletedEvidence :=
  object (CompletedEvidence.mk <$> field "pull_request_number" positive <*>
    field "pull_request_node_id" (pattern nodeIdPattern) <*> field "pull_request_head_sha" sha40 <*
    field "draft" (exact (.bool true) "True") <*> field "preflight_run_id" positive <*
    field "preflight_conclusion" (exactText "success"))

structure FailedEvidence where
  code : FailureCode
  failedFromState : State
  deriving DecidableEq

def failureStates : List State :=
  [.authorized, .fallbackAuthorized, .resultBound, .validated, .published]

def failedEvidence : Validator FailedEvidence :=
  object (FailedEvidence.mk <$> field "code" (enum FailureCode.text failureCodes) <*>
    field "failed_from_state" (enum State.text failureStates))

/-- The evidence of a transition, by the state it enters. -/
inductive Evidence where
  | authorized (evidence : AuthorizedEvidence)
  | fallbackAuthorized (evidence : FallbackAuthorizedEvidence)
  | resultBound (evidence : ResultBoundEvidence)
  | validated (evidence : ValidatedEvidence)
  | published (evidence : PublishedEvidence)
  | completed (evidence : CompletedEvidence)
  | failed (evidence : FailedEvidence)

def Evidence.state : Evidence → State
  | .authorized _ => .authorized
  | .fallbackAuthorized _ => .fallbackAuthorized
  | .resultBound _ => .resultBound
  | .validated _ => .validated
  | .published _ => .published
  | .completed _ => .completed
  | .failed _ => .failed

/-- `EVIDENCE_SCHEMAS`. -/
def evidenceSchemas : State → Validator Evidence
  | .authorized => fun j place => .authorized <$> authorizedEvidence j place
  | .fallbackAuthorized => fun j place => .fallbackAuthorized <$> fallbackAuthorizedEvidence j place
  | .resultBound => fun j place => .resultBound <$> resultBoundEvidence j place
  | .validated => fun j place => .validated <$> validatedEvidence j place
  | .published => fun j place => .published <$> publishedEvidence j place
  | .completed => fun j place => .completed <$> completedEvidence j place
  | .failed => fun j place => .failed <$> failedEvidence j place

structure ResumeRequested where
  stage : Stage
  nonce : Sha64
  attempt : Positive
  dispatchedAt : Timestamp
  deriving DecidableEq

def resumeRequested : Validator ResumeRequested :=
  object (ResumeRequested.mk <$> field "stage" (enum Stage.text stages) <*> field "nonce" sha64 <*>
    field "attempt" positive <*> field "dispatched_at" timestamp)

structure ResumeBound where
  nonce : Sha64
  runId : Positive
  deriving DecidableEq

def resumeBound : Validator ResumeBound :=
  object (ResumeBound.mk <$> field "nonce" sha64 <*> field "run_id" positive)

def abandonReason : String := "run_concluded_without_output"

structure ResumeAbandoned where
  nonce : Sha64
  deriving DecidableEq

def resumeAbandoned : Validator ResumeAbandoned :=
  object (ResumeAbandoned.mk <$> field "nonce" sha64 <*
    field "reason" (enum (fun _ : Unit => abandonReason) [()]))

instance : Stable artifact := by unfold artifact; infer_instance

instance : Stable remediation := by unfold remediation; infer_instance

instance : Stable authorizedEvidence := by
  unfold authorizedEvidence claims taskScope lineage fallbackOffer
  infer_instance

instance : Stable canaryRefusal := by unfold canaryRefusal; infer_instance

instance : Stable fallbackAuthorizedEvidence := by
  unfold fallbackAuthorizedEvidence fallbackExecutor
  infer_instance

theorem observedModel_canon (j : Json) : observedModel j.canon = observedModel j := by
  cases j <;> rfl

instance {α : Type} (why : String) (inner : Validator α) [h : Stable inner] :
    Stable (saying why inner) where
  canon j place := by simp only [saying, h.canon]

instance : Stable fallbackModel where
  canon j place := by
    cases j with
    | obj fields =>
        simp only [Json.canon, fallbackModel, keys_canonFields, Json.lookup_canonFields]
        cases Json.lookup "observed" fields <;> cases Json.lookup "provenance" fields <;>
          cases Json.lookup "requested" fields <;> cases Json.lookup "requested_listed" fields <;>
          simp only [Option.map_some, Option.map_none, item, ok_bind,
            observedModel_canon, Stable.canon]
    | _ => rfl

instance : Stable resultBoundEvidence := by
  unfold resultBoundEvidence fallbackResult fallbackExecutor
  infer_instance

instance : Stable disposition where
  canon j place := by
    have family : Stable newFamily := by unfold newFamily; infer_instance
    cases j with
    | obj fields =>
        simp only [Json.canon, disposition, keys_canonFields, Json.lookup_canonFields]
        cases Json.lookup "family_id" fields <;> cases Json.lookup "new_family" fields <;>
          simp only [Option.map_some, Option.map_none, Stable.canon]
    | _ => rfl

instance : Stable validatedEvidence := by
  unfold validatedEvidence provenMapping
  infer_instance

instance : Stable publishedEvidence := by unfold publishedEvidence; infer_instance

instance : Stable completedEvidence := by unfold completedEvidence; infer_instance

instance : Stable failedEvidence := by unfold failedEvidence; infer_instance

instance (state : State) : Stable (evidenceSchemas state) where
  canon j place := by cases state <;> simp only [evidenceSchemas, Stable.canon]

instance : Stable resumeRequested := by unfold resumeRequested; infer_instance

instance : Stable resumeBound := by unfold resumeBound; infer_instance

instance : Stable resumeAbandoned := by unfold resumeAbandoned; infer_instance

end Hunter.IssueAgent
