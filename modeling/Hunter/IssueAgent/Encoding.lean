import Mathlib
import Hunter.IssueAgent.Record

/-!
The JSON a typed value is written as, and the round trip: what the closed schema
reads back from it is the value itself. A list is written only when it is short
enough for its schema and has no duplicates.
-/

namespace Hunter.IssueAgent

def optionalJson {α : Type} (f : α → Json) : Option α → Json
  | some value => f value
  | none => .null

def extraJson {α : Type} (key : String) (f : α → Json) : Option α → List (String × Json)
  | some value => [(key, f value)]
  | none => []

def textsJson {α : Type} (text : α → String) (values : List α) : Json :=
  .arr (values.map fun value => .str (text value))

theorem optional_json {α : Type} {inner : Validator α} {f : α → Json} {place : String}
    (h : ∀ value, inner (f value) place = .ok value) (ne : ∀ value, f value ≠ .null)
    (value : Option α) : optional inner (optionalJson f value) place = .ok value := by
  cases value with
  | none => rfl
  | some value =>
      have whole := h value
      have some_text := ne value
      simp only [optionalJson]
      generalize f value = j at whole some_text
      cases j with
      | null => exact absurd rfl some_text
      | _ => simp only [optional, whole, map_of_ok]

theorem list_json {α : Type} {inner : Validator α} {text : α → String} {maximum : Nat}
    (h : ∀ value place, inner (.str (text value)) place = .ok value)
    (injective : ∀ a b, text a = text b → a = b) (place : String) {values : List α}
    (short : values.length ≤ maximum) (distinct : values.Nodup) :
    list inner maximum (textsJson text values) place = .ok values := by
  have lengths : (values.map fun value => Json.str (text value)).length ≤ maximum := by
    rwa [List.length_map]
  have texts : ((values.map fun value => Json.str (text value)).map canonicalJson).Nodup := by
    rw [List.map_map]
    refine (List.nodup_map_iff_inj_on distinct).mpr fun a _ b _ same => ?_
    exact injective a b (Json.str.inj (canonicalJson_inj.mp same))
  have items : validateItems inner place 0 (values.map fun value => Json.str (text value)) =
      .ok (values.map id) := validateItems_map h place 0 values
  simp only [textsJson, list, require_of lengths, require_of texts, items, ok_bind, pure_eq_ok,
    List.map_id]

theorem lookup_extraJson {α : Type} (key k : String) (f : α → Json) (value : Option α) :
    Json.lookup key (extraJson k f value) = if k = key then value.map f else none := by
  cases value <;> by_cases h : k = key <;> simp [extraJson, Json.lookup, h]

theorem extraJson_keys {α : Type} (key : String) (f : α → Json) (value : Option α) :
    (extraJson key f value).map Prod.fst ⊆ [key] := by
  cases value <;> simp [extraJson]

theorem object_extras {α : Type} {schema : Schema α} {fields extras : List (String × Json)}
    {place : String} (required : schema.required ⊆ fields.map Prod.fst)
    (allowed : fields.map Prod.fst ⊆ schema.required)
    (optional : extras.map Prod.fst ⊆ schema.extra) :
    object schema (.obj (fields ++ extras)) place =
      schema.read (fun key => Json.lookup key (fields ++ extras)) place := by
  refine object_fields ?_ ?_
  · rw [List.map_append]
    exact List.subset_append_of_subset_left _ required
  · rw [List.map_append]
    exact List.append_subset.mpr ⟨List.subset_append_of_subset_left _ allowed,
      List.subset_append_of_subset_right _ optional⟩

/-- What an optional field reads from a value that may be written there. -/
theorem read_extraField_of {α : Type} {inner : Validator α} {f : α → Json} {key place : String}
    {value : Option α} (get : String → Option Json) (found : get key = value.map f)
    (h : ∀ a, value = some a → inner (f a) (place ++ "." ++ key) = .ok a) :
    (Schema.extraField key inner).read get place = .ok value := by
  rw [Schema.read_extraField, found]
  cases value with
  | none => rfl
  | some a => simp only [Option.map_some, h a rfl, map_of_ok]

section Json

variable (place : String)

def Artifact.json (a : Artifact) : Json :=
  .obj [("run_id", .int a.runId.val), ("artifact_id", .int a.artifactId.val),
    ("artifact_digest", .str a.artifactDigest.val),
    ("ciphertext_sha256", .str a.ciphertextSha256.val), ("aad_sha256", .str a.aadSha256.val),
    ("recipient_key_id", .str a.recipientKeyId.val)]

@[simp] theorem artifact_json (a : Artifact) : artifact a.json place = .ok a := by
  rw [artifact, Artifact.json, object_fields (by simp) (by simp)]
  simp [positive, sha64, Json.lookup]

def Claims.json (c : Claims) : Json :=
  .obj [("owner_login", .str c.ownerLogin.val), ("label", .str c.label.val),
    ("issue_updated_at", .str c.issueUpdatedAt.val), ("schema_version", .str c.schemaVersion.val),
    ("title_sha256", .str c.titleSha256.val), ("body_sha256", .str c.bodySha256.val)]

@[simp] theorem claims_json (c : Claims) : claims c.json place = .ok c := by
  rw [claims, Claims.json, object_fields (by simp) (by simp)]
  simp [timestamp, ident, sha64, Json.lookup]

def FallbackOffer.json (f : FallbackOffer) : Json :=
  .obj [("execution_id", .str f.executionId.val), ("handoff_artifact", f.handoffArtifact.json)]

@[simp] theorem fallbackOffer_json (f : FallbackOffer) : fallbackOffer f.json place = .ok f := by
  rw [fallbackOffer, FallbackOffer.json, object_fields (by simp) (by simp)]
  simp [sha64, Json.lookup]

def Remediation.json (r : Remediation) : Json :=
  .obj [("parent_authorization_id", .str r.parentAuthorizationId.val),
    ("pull_request_number", .int r.pullRequestNumber.val),
    ("bound_head_sha", .str r.boundHeadSha.val), ("finding_ids", textsJson (·.val) r.findingIds),
    ("attempt", .int r.attempt.val)]

def TaskScope.json (t : TaskScope) : Json :=
  .obj [("task_id", .str t.taskId.val), ("branch_pattern", .str t.branchPattern.val),
    ("base_ref", .str "main"), ("base_sha", .str t.baseSha.val),
    ("allowed_paths", textsJson (·.val) t.allowedPaths),
    ("prohibited_paths", textsJson (·.val) t.prohibitedPaths)]

def Lineage.json (l : Lineage) : Json :=
  .obj [("document_id", .str l.documentId.val), ("build_record_id", .str l.buildRecordId.val),
    ("envelope_id", .str l.envelopeId.val), ("prompt_artifact_id", .str l.promptArtifactId.val),
    ("prompt_sha256", .str l.promptSha256.val), ("handoff_sha256", .str l.handoffSha256.val),
    ("dpm_context_sha256", .str l.dpmContextSha256.val),
    ("source_handling_record_ids", textsJson (·.val) l.sourceHandlingRecordIds),
    ("reconstruction", .str "EXACT_RECONSTRUCTION_UNAVAILABLE"),
    ("reconstruction_reason", .str "NO_CONFIDENTIAL_DURABLE_STORE")]

def AuthorizedEvidence.fields (e : AuthorizedEvidence) : List (String × Json) :=
  [("authorization_envelope_sha256", .str e.authorizationEnvelopeSha256.val),
    ("claims", e.claims.json), ("task_scope", e.taskScope.json),
    ("task_scope_sha256", .str e.taskScopeSha256.val),
    ("execution_branch", .str e.executionBranch.val), ("base_sha", .str e.baseSha.val),
    ("control_sha", .str e.controlSha.val), ("authorize_run_id", .int e.authorizeRunId.val),
    ("execution_id", .str e.executionId.val),
    ("prompt_input_manifest_sha256", .str e.promptInputManifestSha256.val),
    ("compiler_identity_sha256", .str e.compilerIdentitySha256.val),
    ("deadline_published_at", .str e.deadlinePublishedAt.val), ("lineage", e.lineage.json),
    ("handoff_artifact", e.handoffArtifact.json)] ++
  (extraJson "fallback" FallbackOffer.json e.fallback ++
    (extraJson "fallback_canary" Json.bool e.fallbackCanary ++
      extraJson "remediation" Remediation.json e.remediation))

/-- The lists of the evidence are short and have no duplicates. -/
structure AuthorizedEvidence.Listable (e : AuthorizedEvidence) : Prop where
  allowed : e.taskScope.allowedPaths.length ≤ 256 ∧ e.taskScope.allowedPaths.Nodup
  prohibited : e.taskScope.prohibitedPaths.length ≤ 256 ∧ e.taskScope.prohibitedPaths.Nodup
  handling : e.lineage.sourceHandlingRecordIds.length ≤ 64 ∧
    e.lineage.sourceHandlingRecordIds.Nodup
  findings : ∀ r, e.remediation = some r → r.findingIds.length ≤ 16 ∧ r.findingIds.Nodup

theorem scopePath_json (path : ScopePath) : scopePath (.str path.val) place = .ok path := by
  obtain ⟨s, h⟩ := path
  simp only [scopePath, h, dif_pos]

theorem remediation_json {r : Remediation}
    (findings : r.findingIds.length ≤ 16 ∧ r.findingIds.Nodup) :
    remediation r.json place = .ok r := by
  have ids (place : String) : list (pattern sha64Pattern) 16 (textsJson (·.val) r.findingIds) place =
      .ok r.findingIds :=
    list_json pattern_val (fun a b => Subtype.ext) place findings.1 findings.2
  rw [remediation, Remediation.json, object_fields (by simp) (by simp)]
  simp [authorizationId, positive, sha40, sha64, Json.lookup, ids]

theorem taskScope_json {t : TaskScope}
    (allowed : t.allowedPaths.length ≤ 256 ∧ t.allowedPaths.Nodup)
    (prohibited : t.prohibitedPaths.length ≤ 256 ∧ t.prohibitedPaths.Nodup) :
    taskScope t.json place = .ok t := by
  have paths {values : List ScopePath} (h : values.length ≤ 256 ∧ values.Nodup) (place : String) :=
    list_json (fun value place => scopePath_json place value) (fun a b => Subtype.ext) place h.1 h.2
  rw [taskScope, TaskScope.json, object_fields (by simp) (by simp)]
  simp [ident, sha40, Json.lookup, paths allowed, paths prohibited]

theorem lineage_json {l : Lineage}
    (handling : l.sourceHandlingRecordIds.length ≤ 64 ∧ l.sourceHandlingRecordIds.Nodup) :
    lineage l.json place = .ok l := by
  have ids (place : String) : list (pattern identPattern) 64
      (textsJson (·.val) l.sourceHandlingRecordIds) place = .ok l.sourceHandlingRecordIds :=
    list_json pattern_val (fun a b => Subtype.ext) place handling.1 handling.2
  rw [lineage, Lineage.json, object_fields (by simp) (by simp)]
  simp [ident, sha64, Json.lookup, ids]

theorem authorizedEvidence_fields {e : AuthorizedEvidence} (h : e.Listable) :
    authorizedEvidence (.obj e.fields) place = .ok e := by
  have scope (place : String) := taskScope_json place h.allowed h.prohibited
  have line (place : String) := lineage_json place h.handling
  have fallback : Json.lookup "fallback" e.fields = e.fallback.map FallbackOffer.json := by
    simp [AuthorizedEvidence.fields, Json.lookup_append, lookup_extraJson, Json.lookup]
  have canary : Json.lookup "fallback_canary" e.fields = e.fallbackCanary.map Json.bool := by
    simp [AuthorizedEvidence.fields, Json.lookup_append, lookup_extraJson, Json.lookup]
  have remedied : Json.lookup "remediation" e.fields = e.remediation.map Remediation.json := by
    simp [AuthorizedEvidence.fields, Json.lookup_append, lookup_extraJson, Json.lookup]
  have read_fallback := read_extraField_of (fun key => Json.lookup key e.fields) fallback
    fun offer _ => fallbackOffer_json (place ++ "." ++ "fallback") offer
  have read_canary := read_extraField_of (fun key => Json.lookup key e.fields) canary
    fun armed _ => bool_val armed (place ++ "." ++ "fallback_canary")
  have read_remediation := read_extraField_of (fun key => Json.lookup key e.fields) remedied
    fun r is_remedy => remediation_json (place ++ "." ++ "remediation") (h.findings r is_remedy)
  rw [authorizedEvidence, AuthorizedEvidence.fields, object_extras (by simp) (by simp)]
  · rw [← AuthorizedEvidence.fields]
    simp only [Schema.read_seq, Schema.read_map, read_fallback, read_canary, read_remediation,
      Schema.read_field]
    simp [AuthorizedEvidence.fields, Json.lookup_append, lookup_extraJson, sha64, sha40, timestamp,
      positive, Json.lookup, scope, line]
  · have keys := extraJson_keys "fallback" FallbackOffer.json e.fallback
    have armed := extraJson_keys "fallback_canary" Json.bool e.fallbackCanary
    have remedies := extraJson_keys "remediation" Remediation.json e.remediation
    simp only [List.map_append, List.append_subset]
    exact ⟨List.Subset.trans keys (by simp), List.Subset.trans armed (by simp),
      List.Subset.trans remedies (by simp)⟩

def CanaryRefusal.json (c : CanaryRefusal) : Json :=
  .obj [("provider_host", .str canaryProviderHost), ("primary_refusals", .int c.primaryRefusals.val),
    ("probe_refusals", .int 1), ("refusal_digest", .str c.refusalDigest.val)]

theorem canaryRefusal_json (c : CanaryRefusal) : canaryRefusal c.json place = .ok c := by
  rw [canaryRefusal, CanaryRefusal.json, object_fields (by simp) (by simp)]
  simp [positive, sha64, Json.lookup]

@[simp] theorem enum_executorConclusion (c : ExecutorConclusion) :
    enum ExecutorConclusion.text executorConclusions (.str c.text) place = .ok c :=
  enum_text place (by cases c <;> decide)

@[simp] theorem enum_primaryCause (c : Cause) :
    enum Cause.text fallbackPrimaryCauses (.str c.text) place = .ok c :=
  enum_text place (by cases c <;> decide)

theorem enum_cause {c : Cause} (h : c ≠ .canaryNetwork) :
    enum Cause.text fallbackCauses (.str c.text) place = .ok c :=
  enum_text place (by cases c <;> first | decide | exact absurd rfl h)

@[simp] theorem fallbackExecutor_codex : fallbackExecutor (.str "codex") place = .ok () := rfl

def FallbackAuthorizedEvidence.fields (e : FallbackAuthorizedEvidence) : List (String × Json) :=
  [("primary_executor_job_id", .int e.primaryExecutorJobId.val),
    ("primary_executor_conclusion", .str e.primaryExecutorConclusion.text),
    ("primary_cause", .str e.primaryCause.text), ("stderr_category", .str e.stderrCategory.text),
    ("probe_category", .str e.probeCategory.text), ("primary_result_artifacts", .int 0),
    ("fallback_executor", .str "codex"),
    ("fallback_execution_id", .str e.fallbackExecutionId.val)] ++
  extraJson "canary_refusal" CanaryRefusal.json e.canaryRefusal

/-- The two observed categories are real ones. -/
theorem fallbackAuthorizedEvidence_fields {e : FallbackAuthorizedEvidence}
    (stderr : e.stderrCategory ≠ .canaryNetwork) (probe : e.probeCategory ≠ .canaryNetwork) :
    fallbackAuthorizedEvidence (.obj e.fields) place = .ok e := by
  have refusal : Json.lookup "canary_refusal" e.fields =
      e.canaryRefusal.map CanaryRefusal.json := by
    simp [FallbackAuthorizedEvidence.fields, lookup_extraJson, Json.lookup]
  have read_refusal := read_extraField_of (fun key => Json.lookup key e.fields) refusal
    fun r _ => canaryRefusal_json (place ++ "." ++ "canary_refusal") r
  have keys := extraJson_keys "canary_refusal" CanaryRefusal.json e.canaryRefusal
  rw [fallbackAuthorizedEvidence, FallbackAuthorizedEvidence.fields,
    object_extras (by simp) (by simp) (List.Subset.trans keys (by simp)),
    ← FallbackAuthorizedEvidence.fields]
  simp only [Schema.read_seq, Schema.read_seqLeft, Schema.read_map, read_refusal,
    Schema.read_field]
  simp [FallbackAuthorizedEvidence.fields, lookup_extraJson, sha64, positive,
    Json.lookup, enum_cause _ stderr, enum_cause _ probe]

def FallbackModel.json (m : FallbackModel) : Json :=
  .obj [("requested", .str m.requested.val), ("requested_listed", .bool m.requestedListed),
    ("observed", optionalJson (fun name => .str name.val) m.observed),
    ("provenance", .str m.provenance.text)]

theorem observedModel_json (observed : Option modelSlugPattern.Matching) :
    observedModel (optionalJson (fun name => .str name.val) observed) = some observed := by
  cases observed with
  | none => rfl
  | some name =>
      obtain ⟨text, h⟩ := name
      simp only [optionalJson, observedModel, h, dif_pos]

theorem fallbackModel_json (m : FallbackModel) : fallbackModel m.json place = .ok m := by
  have provenance (place : String) :
      enum ModelProvenance.text fallbackModelProvenance (.str m.provenance.text) place =
        .ok m.provenance :=
    enum_text place (by cases m.provenance <;> decide)
  simp [fallbackModel, FallbackModel.json, fallbackModelKeys, Json.lookup, saying, reraise,
    provenance, observedModel_json, m.named, require]
  exact dif_pos m.reported

def FallbackResult.json (f : FallbackResult) : Json :=
  .obj ([("execution_attempt", .int 2), ("executor", .str "codex"),
    ("attestation_sha256", .str f.attestationSha256.val),
    ("deadline_published_at", .str f.deadlinePublishedAt.val)] ++
  extraJson "model" FallbackModel.json f.model)

theorem fallbackResult_json (f : FallbackResult) : fallbackResult f.json place = .ok f := by
  have keys := extraJson_keys "model" FallbackModel.json f.model
  have read_model := read_extraField_of (fun key => Json.lookup key
      ([("execution_attempt", .int 2), ("executor", .str "codex"),
        ("attestation_sha256", .str f.attestationSha256.val),
        ("deadline_published_at", .str f.deadlinePublishedAt.val)] ++
      extraJson "model" FallbackModel.json f.model))
    (by simp [lookup_extraJson, Json.lookup])
    fun m (_ : f.model = some m) => fallbackModel_json (place ++ "." ++ "model") m
  rw [fallbackResult, FallbackResult.json,
    object_extras (by simp) (by simp) (List.Subset.trans keys (by simp))]
  simp only [Schema.read_seq, Schema.read_map, read_model, Schema.read_field]
  simp [lookup_extraJson, sha64, timestamp, Json.lookup]

def ResultBoundEvidence.fields (e : ResultBoundEvidence) : List (String × Json) :=
  [("result_artifact", e.resultArtifact.json),
    ("result_plaintext_sha256", .str e.resultPlaintextSha256.val),
    ("executor_job_id", .int e.executorJobId.val),
    ("executor_conclusion", .str e.executorConclusion.text),
    ("executor_advisory_code", optionalJson (fun code => .str code.text) e.executorAdvisoryCode)] ++
  extraJson "fallback" FallbackResult.json e.fallback

theorem resultBoundEvidence_fields (e : ResultBoundEvidence) :
    resultBoundEvidence (.obj e.fields) place = .ok e := by
  have advisory (place : String) : optional (enum AdvisoryCode.text advisoryCodes)
      (optionalJson (fun code => .str code.text) e.executorAdvisoryCode) place =
        .ok e.executorAdvisoryCode :=
    optional_json (fun code => enum_text place (by cases code <;> decide)) nofun _
  have fallback : Json.lookup "fallback" e.fields = e.fallback.map FallbackResult.json := by
    simp [ResultBoundEvidence.fields, lookup_extraJson, Json.lookup]
  have read_fallback := read_extraField_of (fun key => Json.lookup key e.fields) fallback
    fun f _ => fallbackResult_json (place ++ "." ++ "fallback") f
  have keys := extraJson_keys "fallback" FallbackResult.json e.fallback
  rw [resultBoundEvidence, ResultBoundEvidence.fields,
    object_extras (by simp) (by simp) (List.Subset.trans keys (by simp)),
    ← ResultBoundEvidence.fields]
  simp only [Schema.read_seq, Schema.read_map, read_fallback, Schema.read_field]
  simp [ResultBoundEvidence.fields, lookup_extraJson, sha64, positive, Json.lookup,
    advisory]

def Disposition.json : Disposition → Json
  | .family id => .obj [("family_id", .str id.val)]
  | .newFamily title invariant =>
      .obj [("new_family", .obj [("title", .str title.val), ("invariant", .str invariant.val)])]

theorem disposition_json (d : Disposition) : disposition d.json place = .ok d := by
  cases d with
  | family id => simp [disposition, Disposition.json, Json.lookup, require]
  | newFamily title invariant =>
      simp only [disposition, Disposition.json]
      simp [Json.lookup, require, newFamily, object]

def ProvenMapping.json (p : ProvenMapping) : Json :=
  .obj [("bound_head_sha", .str p.boundHeadSha.val), ("finding_ids", textsJson (·.val) p.findingIds),
    ("proven_finding_ids", textsJson (·.val) p.provenFindingIds),
    ("regression_tests", textsJson (·.val) p.regressionTests),
    ("disposition", optionalJson Disposition.json p.disposition),
    ("promotion_sha256", .str p.promotionSha256.val)]

/-- The lists of a proof group are short and have no duplicates. -/
structure ProvenMapping.Listable (p : ProvenMapping) : Prop where
  findings : p.findingIds.length ≤ 16 ∧ p.findingIds.Nodup
  proven : p.provenFindingIds.length ≤ 16 ∧ p.provenFindingIds.Nodup
  tests : p.regressionTests.length ≤ 32 ∧ p.regressionTests.Nodup

theorem provenMapping_json {p : ProvenMapping} (h : p.Listable) :
    provenMapping p.json place = .ok p := by
  have texts {regex : Regex} {maximum : Nat} {values : List regex.Matching}
      (h : values.length ≤ maximum ∧ values.Nodup) (place : String) :
      list (pattern regex) maximum (textsJson (·.val) values) place = .ok values :=
    list_json pattern_val (fun a b => Subtype.ext) place h.1 h.2
  have disposed (place : String) :
      optional disposition (optionalJson Disposition.json p.disposition) place =
        .ok p.disposition :=
    optional_json (disposition_json place) (fun d => by cases d <;> nofun) _
  rw [provenMapping, ProvenMapping.json, object_fields (by simp) (by simp)]
  simp [sha40, sha64, Json.lookup, texts h.findings, texts h.proven, texts h.tests, disposed]

def ValidatedEvidence.fields (e : ValidatedEvidence) : List (String × Json) :=
  [("receipt_sha256", .str e.receiptSha256.val), ("result_sha256", .str e.resultSha256.val),
    ("tree_sha", .str e.treeSha.val), ("unsigned_commit_sha", .str e.unsignedCommitSha.val),
    ("validation_definition", .str e.validationDefinition.val),
    ("toolchain_sha256", .str e.toolchainSha256.val),
    ("validator_run_id", .int e.validatorRunId.val),
    ("validation_attempts", .int e.validationAttempts.val)] ++
  extraJson "remediation" ProvenMapping.json e.remediation

theorem validatedEvidence_fields {e : ValidatedEvidence}
    (h : ∀ p, e.remediation = some p → p.Listable) :
    validatedEvidence (.obj e.fields) place = .ok e := by
  have proof_group : Json.lookup "remediation" e.fields =
      e.remediation.map ProvenMapping.json := by
    simp [ValidatedEvidence.fields, lookup_extraJson, Json.lookup]
  have read_group := read_extraField_of (fun key => Json.lookup key e.fields) proof_group
    fun p is_group => provenMapping_json (place ++ "." ++ "remediation") (h p is_group)
  have keys := extraJson_keys "remediation" ProvenMapping.json e.remediation
  rw [validatedEvidence, ValidatedEvidence.fields,
    object_extras (by simp) (by simp) (List.Subset.trans keys (by simp)),
    ← ValidatedEvidence.fields]
  simp only [Schema.read_seq, Schema.read_map, read_group, Schema.read_field]
  simp [ValidatedEvidence.fields, lookup_extraJson, sha40, sha64, positive,
    Json.lookup]

def PublishedEvidence.fields (e : PublishedEvidence) : List (String × Json) :=
  [("writer_login", .str e.writerLogin.val),
    ("publication_identity", .str e.publicationIdentity.val), ("head_sha", .str e.headSha.val),
    ("commit_verified", .bool true), ("publish_attempts", .int e.publishAttempts.val),
    ("deadline_completed_at", .str e.deadlineCompletedAt.val)]

theorem publishedEvidence_fields (e : PublishedEvidence) :
    publishedEvidence (.obj e.fields) place = .ok e := by
  rw [publishedEvidence, PublishedEvidence.fields, object_fields (by simp) (by simp)]
  simp [sha40, sha64, positive, timestamp, Json.lookup]

def CompletedEvidence.fields (e : CompletedEvidence) : List (String × Json) :=
  [("pull_request_number", .int e.pullRequestNumber.val),
    ("pull_request_node_id", .str e.pullRequestNodeId.val),
    ("pull_request_head_sha", .str e.pullRequestHeadSha.val), ("draft", .bool true),
    ("preflight_run_id", .int e.preflightRunId.val), ("preflight_conclusion", .str "success")]

theorem completedEvidence_fields (e : CompletedEvidence) :
    completedEvidence (.obj e.fields) place = .ok e := by
  rw [completedEvidence, CompletedEvidence.fields, object_fields (by simp) (by simp)]
  simp [sha40, positive, Json.lookup]

def FailedEvidence.fields (e : FailedEvidence) : List (String × Json) :=
  [("code", .str e.code.text), ("failed_from_state", .str e.failedFromState.text)]

theorem failedEvidence_fields {e : FailedEvidence} (h : e.failedFromState ∈ failureStates) :
    failedEvidence (.obj e.fields) place = .ok e := by
  have code (place : String) :
      enum FailureCode.text failureCodes (.str e.code.text) place = .ok e.code :=
    enum_text place (by cases e.code <;> decide)
  have left (place : String) :
      enum State.text failureStates (.str e.failedFromState.text) place = .ok e.failedFromState :=
    enum_text place (by revert h; cases e.failedFromState <;> decide)
  rw [failedEvidence, FailedEvidence.fields, object_fields (by simp) (by simp)]
  simp [Json.lookup, code, left]

def ResumeRequested.fields (e : ResumeRequested) : List (String × Json) :=
  [("stage", .str e.stage.text), ("nonce", .str e.nonce.val), ("attempt", .int e.attempt.val),
    ("dispatched_at", .str e.dispatchedAt.val)]

@[simp] theorem enum_stage (stage : Stage) : enum Stage.text stages (.str stage.text) place = .ok stage :=
  enum_text place (by cases stage <;> decide)

theorem resumeRequested_fields (e : ResumeRequested) :
    resumeRequested (.obj e.fields) place = .ok e := by
  rw [resumeRequested, ResumeRequested.fields, object_fields (by simp) (by simp)]
  simp [sha64, positive, timestamp, Json.lookup]

def ResumeBound.fields (e : ResumeBound) : List (String × Json) :=
  [("nonce", .str e.nonce.val), ("run_id", .int e.runId.val)]

theorem resumeBound_fields (e : ResumeBound) : resumeBound (.obj e.fields) place = .ok e := by
  rw [resumeBound, ResumeBound.fields, object_fields (by simp) (by simp)]
  simp [sha64, positive, Json.lookup]

def ResumeAbandoned.fields (e : ResumeAbandoned) : List (String × Json) :=
  [("nonce", .str e.nonce.val), ("reason", .str abandonReason)]

theorem resumeAbandoned_fields (e : ResumeAbandoned) :
    resumeAbandoned (.obj e.fields) place = .ok e := by
  have reason (place : String) :
      enum (fun _ : Unit => abandonReason) [()] (.str abandonReason) place = .ok () :=
    rfl
  rw [resumeAbandoned, ResumeAbandoned.fields, object_fields (by simp) (by simp)]
  simp [sha64, Json.lookup, reason]

def Evidence.fields : Evidence → List (String × Json)
  | .authorized evidence => evidence.fields
  | .fallbackAuthorized evidence => evidence.fields
  | .resultBound evidence => evidence.fields
  | .validated evidence => evidence.fields
  | .published evidence => evidence.fields
  | .completed evidence => evidence.fields
  | .failed evidence => evidence.fields

/-- What a schema asks of evidence beyond the types of its fields. -/
def Evidence.Writable : Evidence → Prop
  | .authorized evidence => evidence.Listable
  | .fallbackAuthorized evidence =>
      evidence.stderrCategory ≠ .canaryNetwork ∧ evidence.probeCategory ≠ .canaryNetwork
  | .validated evidence => ∀ group, evidence.remediation = some group → group.Listable
  | .failed evidence => evidence.failedFromState ∈ failureStates
  | .resultBound _ | .published _ | .completed _ => True

theorem evidenceSchemas_fields {evidence : Evidence} (h : evidence.Writable) :
    evidenceSchemas evidence.state (.obj evidence.fields) place = .ok evidence := by
  cases evidence with
  | authorized e => exact congrArg (_ <$> ·) (authorizedEvidence_fields place h)
  | fallbackAuthorized e =>
      exact congrArg (_ <$> ·) (fallbackAuthorizedEvidence_fields place h.1 h.2)
  | resultBound e => exact congrArg (_ <$> ·) (resultBoundEvidence_fields place e)
  | validated e => exact congrArg (_ <$> ·) (validatedEvidence_fields place h)
  | published e => exact congrArg (_ <$> ·) (publishedEvidence_fields place e)
  | completed e => exact congrArg (_ <$> ·) (completedEvidence_fields place e)
  | failed e => exact congrArg (_ <$> ·) (failedEvidence_fields place h)

def Payload.fields : Payload → List (String × Json)
  | .transition evidence => evidence.fields
  | .resumeRequested _ evidence => evidence.fields
  | .resumeBound _ evidence => evidence.fields
  | .resumeAbandoned _ evidence => evidence.fields

def Payload.Writable : Payload → Prop
  | .transition evidence => evidence.Writable
  | _ => True

theorem validatePayload_fields {payload : Payload} (h : payload.Writable) :
    validatePayload payload.kind payload.state (.obj payload.fields) = .ok payload := by
  cases payload with
  | transition evidence => exact congrArg (_ <$> ·) (evidenceSchemas_fields _ h)
  | resumeRequested state evidence => exact congrArg (_ <$> ·) (resumeRequested_fields _ evidence)
  | resumeBound state evidence => exact congrArg (_ <$> ·) (resumeBound_fields _ evidence)
  | resumeAbandoned state evidence => exact congrArg (_ <$> ·) (resumeAbandoned_fields _ evidence)

end Json

end Hunter.IssueAgent
