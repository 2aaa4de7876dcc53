import Hunter.Json.Size
import Hunter.Knowledge.Evidence

/-!
The JSON a knowledge evidence is written as, read back by its own schema. A list
is written only when it is within the bound of its schema and has no duplicates.
-/

namespace Hunter.Knowledge

open IssueAgent

/-- A list of texts that its schema takes. -/
def Listable {α : Type} (values : List α) (maximum : Nat) : Prop :=
  values.length ≤ maximum ∧ values.Nodup

instance {α : Type} [DecidableEq α] (values : List α) (maximum : Nat) :
    Decidable (Listable values maximum) :=
  inferInstanceAs (Decidable (_ ∧ _))

def matchingsJson {regex : Regex} (values : List regex.Matching) : Json :=
  textsJson (·.val) values

section Json

variable (place : String)

theorem matchings_json {regex : Regex} {maximum : Nat} {values : List regex.Matching}
    (h : Listable values maximum) :
    list (pattern regex) maximum (matchingsJson values) place = .ok values :=
  list_json (fun value place => pattern_val value place) (fun _ _ => Regex.Matching.ext) place h.1 h.2

@[simp] theorem optional_matching {regex : Regex} (value : Option regex.Matching) :
    optional (pattern regex) (optionalJson (fun m => .str m.val) value) place = .ok value :=
  optional_json (fun m => pattern_val m place) nofun value

@[simp] theorem optional_positive (value : Option Positive) :
    optional (int 1) (optionalJson (fun n => .int n.val) value) place = .ok value :=
  optional_json (fun n => int_val n place) nofun value

@[simp] theorem enum_provider (provider : Provider) :
    enum Provider.text providers (.str provider.text) place = .ok provider :=
  enum_text place (by cases provider <;> decide)

@[simp] theorem enum_outcome (outcome : Outcome) :
    enum Outcome.text outcomes (.str outcome.text) place = .ok outcome :=
  enum_text place (by cases outcome <;> decide)

@[simp] theorem enum_basis (basis : Basis) :
    enum Basis.text bases (.str basis.text) place = .ok basis :=
  enum_text place (by cases basis <;> decide)

@[simp] theorem enum_assessment (assessment : Assessment) :
    enum Assessment.text assessments (.str assessment.text) place = .ok assessment :=
  enum_text place (by cases assessment <;> decide)

def Provenance.fields (p : Provenance) : List (String × Json) :=
  [("pull_request_number", .int p.pullRequestNumber.val),
    ("reviewed_head_sha", .str p.reviewedHeadSha.val),
    ("reviewed_base_sha", .str p.reviewedBaseSha.val),
    ("source_event_head_sha", optionalJson (fun sha => .str sha.val) p.sourceEventHeadSha),
    ("provider", .str p.provider.text), ("reviewer", .str p.reviewer.val),
    ("comment_id", .int p.commentId.val), ("path", .str p.path.val),
    ("line", optionalJson (fun n => .int n.val) p.line)] ++
  extraJson "source_issue_key" (fun key => .str key.val) p.sourceIssueKey

@[simp] theorem provenance_fields (p : Provenance) : provenance (.obj p.fields) place = .ok p := by
  have issue_key : Json.lookup "source_issue_key" p.fields =
      p.sourceIssueKey.map fun key => .str key.val := by
    simp [Provenance.fields, lookup_extraJson, Json.lookup]
  have read_key := read_extraField_of (fun key => Json.lookup key p.fields) issue_key
    fun key _ => pattern_val key (place ++ "." ++ "source_issue_key")
  have keys := extraJson_keys "source_issue_key" (fun key : IssueKey => .str key.val)
    p.sourceIssueKey
  rw [provenance, Provenance.fields,
    object_extras (by simp) (by simp) (List.Subset.trans keys (by simp)), ← Provenance.fields]
  simp only [Schema.read_seq, Schema.read_map, read_key, Schema.read_field]
  simp [Provenance.fields, lookup_extraJson, sha40, positive, Json.lookup]

def FindingIngested.fields (e : FindingIngested) : List (String × Json) :=
  [("finding_id", .str e.findingId.val), ("fingerprint", .str e.fingerprint.val),
    ("claim", .str e.claim.val), ("provenance", .obj e.provenance.fields)]

theorem findingIngested_fields (e : FindingIngested) :
    findingIngested (.obj e.fields) place = .ok e := by
  rw [findingIngested, FindingIngested.fields, object_fields (by simp) (by simp)]
  simp [sha64, Json.lookup]

def FindingClassified.fields (e : FindingClassified) : List (String × Json) :=
  [("finding_id", .str e.findingId.val), ("outcome", .str e.outcome.text),
    ("family_id", optionalJson (fun id => .str id.val) e.familyId),
    ("candidate_id", optionalJson (fun id => .str id.val) e.candidateId),
    ("basis", .str e.basis.text), ("regression_tests", matchingsJson e.regressionTests),
    ("authorization_id", optionalJson (fun id => .str id.val) e.authorizationId)]

theorem findingClassified_fields {e : FindingClassified} (tests : Listable e.regressionTests 32) :
    findingClassified (.obj e.fields) place = .ok e := by
  have read_tests (place : String) := matchings_json place tests
  rw [findingClassified, FindingClassified.fields, object_fields (by simp) (by simp)]
  simp [sha64, authorizationId, Json.lookup, read_tests]

def HistoricalEvidenceAssessed.fields (e : HistoricalEvidenceAssessed) : List (String × Json) :=
  [("finding_id", .str e.findingId.val), ("pull_request_number", .int e.pullRequestNumber.val),
    ("comment_id", .int e.commentId.val), ("reviewed_head_sha", .str e.reviewedHeadSha.val),
    ("remediation_commit_sha", .str e.remediationCommitSha.val),
    ("final_head_sha", .str e.finalHeadSha.val),
    ("merge_commit_sha", .str e.mergeCommitSha.val),
    ("hosted_preflight_run_id", .int e.hostedPreflightRunId.val),
    ("regression_tests", matchingsJson e.regressionTests),
    ("disposition", .str e.disposition.text), ("source", .str historicalSource)] ++
  extraJson "ingested_head_sha" (fun sha => .str sha.val) e.ingestedHeadSha

theorem historicalEvidenceAssessed_fields {e : HistoricalEvidenceAssessed}
    (tests : Listable e.regressionTests 16) :
    historicalEvidenceAssessed (.obj e.fields) place = .ok e := by
  have read_tests (place : String) := matchings_json place tests
  have ingested_head : Json.lookup "ingested_head_sha" e.fields =
      e.ingestedHeadSha.map fun sha => .str sha.val := by
    simp [HistoricalEvidenceAssessed.fields, lookup_extraJson, Json.lookup]
  have read_head := read_extraField_of (fun key => Json.lookup key e.fields) ingested_head
    fun sha _ => pattern_val sha (place ++ "." ++ "ingested_head_sha")
  have keys := extraJson_keys "ingested_head_sha" (fun sha : Sha40 => .str sha.val)
    e.ingestedHeadSha
  rw [historicalEvidenceAssessed, HistoricalEvidenceAssessed.fields,
    object_extras (by simp) (by simp) (List.Subset.trans keys (by simp)),
    ← HistoricalEvidenceAssessed.fields]
  simp only [Schema.read_seq, Schema.read_seqLeft, Schema.read_map, sha40, read_head,
    Schema.read_field]
  simp [HistoricalEvidenceAssessed.fields, lookup_extraJson, sha64, positive, Json.lookup,
    read_tests]

def FamilyCandidate.fields (e : FamilyCandidate) : List (String × Json) :=
  [("candidate_id", .str e.candidateId.val), ("title", .str e.title.val),
    ("invariant", .str e.invariant.val), ("changed_paths", matchingsJson e.changedPaths),
    ("source_finding_ids", matchingsJson e.sourceFindingIds),
    ("regression_tests", matchingsJson e.regressionTests)]

theorem familyCandidate_fields {e : FamilyCandidate} (paths : Listable e.changedPaths 32)
    (sources : Listable e.sourceFindingIds 64) (tests : Listable e.regressionTests 32) :
    familyCandidate (.obj e.fields) place = .ok e := by
  have read_paths (place : String) := matchings_json place paths
  have read_sources (place : String) := matchings_json place sources
  have read_tests (place : String) := matchings_json place tests
  rw [familyCandidate, FamilyCandidate.fields, object_fields (by simp) (by simp)]
  simp [sha64, Json.lookup, read_paths, read_sources, read_tests]

def RemediationRequested.fields (e : RemediationRequested) : List (String × Json) :=
  [("finding_id", .str e.findingId.val), ("attempt", .int e.attempt.val),
    ("pull_request_number", .int e.pullRequestNumber.val),
    ("bound_head_sha", .str e.boundHeadSha.val), ("authorization_id", .str e.authorizationId.val)]

theorem remediationRequested_fields (e : RemediationRequested) :
    remediationRequested (.obj e.fields) place = .ok e := by
  rw [remediationRequested, RemediationRequested.fields, object_fields (by simp) (by simp)]
  simp [sha64, sha40, positive, authorizationId, Json.lookup]

def FindingProven.fields (e : FindingProven) : List (String × Json) :=
  [("finding_id", .str e.findingId.val), ("authorization_id", .str e.authorizationId.val),
    ("remediated_head_sha", .str e.remediatedHeadSha.val),
    ("receipt_sha256", .str e.receiptSha256.val), ("preflight_run_id", .int e.preflightRunId.val),
    ("regression_tests", matchingsJson e.regressionTests)]

theorem findingProven_fields {e : FindingProven} (tests : Listable e.regressionTests 32) :
    findingProven (.obj e.fields) place = .ok e := by
  have read_tests (place : String) := matchings_json place tests
  rw [findingProven, FindingProven.fields, object_fields (by simp) (by simp)]
  simp [sha64, sha40, positive, authorizationId, Json.lookup, read_tests]

def ThreadResolved.fields (e : ThreadResolved) : List (String × Json) :=
  [("finding_id", .str e.findingId.val), ("remediated_head_sha", .str e.remediatedHeadSha.val),
    ("reply_comment_id", .int e.replyCommentId.val)]

theorem threadResolved_fields (e : ThreadResolved) :
    threadResolved (.obj e.fields) place = .ok e := by
  rw [threadResolved, ThreadResolved.fields, object_fields (by simp) (by simp)]
  simp [sha64, sha40, positive, Json.lookup]

def Recurrence.fields (e : Recurrence) : List (String × Json) :=
  [("family_id", .str e.familyId.val), ("finding_id", .str e.findingId.val)]

theorem recurrence_fields (e : Recurrence) : recurrence (.obj e.fields) place = .ok e := by
  rw [recurrence, Recurrence.fields, object_fields (by simp) (by simp)]
  simp [sha64, Json.lookup]

end Json

def Evidence.fields : Evidence → List (String × Json)
  | .findingIngested evidence => evidence.fields
  | .findingClassified evidence => evidence.fields
  | .historicalEvidenceAssessed evidence => evidence.fields
  | .familyCandidate evidence => evidence.fields
  | .remediationRequested evidence => evidence.fields
  | .findingProven evidence => evidence.fields
  | .threadResolved evidence => evidence.fields
  | .recurrence evidence => evidence.fields

def Evidence.json (evidence : Evidence) : Json := .obj evidence.fields

/-- The lists of the evidence are lists its schema takes. -/
def Evidence.Writable : Evidence → Prop
  | .findingClassified evidence => Listable evidence.regressionTests 32
  | .historicalEvidenceAssessed evidence => Listable evidence.regressionTests 16
  | .familyCandidate evidence => Listable evidence.changedPaths 32 ∧
      Listable evidence.sourceFindingIds 64 ∧ Listable evidence.regressionTests 32
  | .findingProven evidence => Listable evidence.regressionTests 32
  | _ => True

/-- What is written as evidence of a kind is read back as it was. -/
theorem evidenceSchemas_json {evidence : Evidence} (h : evidence.Writable) (place : String) :
    evidenceSchemas evidence.kind evidence.json place = .ok evidence := by
  cases evidence with
  | findingIngested e => exact congrArg (Evidence.findingIngested <$> ·) (findingIngested_fields place e)
  | findingClassified e =>
      exact congrArg (Evidence.findingClassified <$> ·) (findingClassified_fields place h)
  | historicalEvidenceAssessed e =>
      exact congrArg (Evidence.historicalEvidenceAssessed <$> ·)
        (historicalEvidenceAssessed_fields place h)
  | familyCandidate e =>
      exact congrArg (Evidence.familyCandidate <$> ·) (familyCandidate_fields place h.1 h.2.1 h.2.2)
  | remediationRequested e =>
      exact congrArg (Evidence.remediationRequested <$> ·) (remediationRequested_fields place e)
  | findingProven e => exact congrArg (Evidence.findingProven <$> ·) (findingProven_fields place h)
  | threadResolved e => exact congrArg (Evidence.threadResolved <$> ·) (threadResolved_fields place e)
  | recurrence e => exact congrArg (Evidence.recurrence <$> ·) (recurrence_fields place e)

/-- The lists of an evidence, by their lengths. -/
def Evidence.entries : Evidence → Nat
  | .findingClassified e => e.regressionTests.length
  | .historicalEvidenceAssessed e => e.regressionTests.length
  | .familyCandidate e =>
      e.changedPaths.length + e.sourceFindingIds.length + e.regressionTests.length
  | .findingProven e => e.regressionTests.length
  | _ => 0

/-- The numbers of an evidence, which no schema bounds. -/
def Evidence.numbers : Evidence → List Int
  | .findingIngested e => [e.provenance.pullRequestNumber.val, e.provenance.commentId.val] ++
      (e.provenance.line.map (·.val)).toList
  | .historicalEvidenceAssessed e =>
      [e.pullRequestNumber.val, e.commentId.val, e.hostedPreflightRunId.val]
  | .remediationRequested e => [e.attempt.val, e.pullRequestNumber.val]
  | .findingProven e => [e.preflightRunId.val]
  | .threadResolved e => [e.replyCommentId.val]
  | _ => []

def numbersWeight (numbers : List Int) : Nat := (numbers.map fun n => Json.weight (.int n)).sum

theorem weight_matchings {regex : Regex} (values : List regex.Matching) :
    Json.weight (matchingsJson values) ≤ (6 * regex.longest + 3) * values.length + 2 := by
  rw [matchingsJson, textsJson, Json.weight]
  refine Nat.add_le_add_right ?_ 2
  induction values with
  | nil => exact Nat.le_refl _
  | cons value values ih =>
      have first := value.length_le
      rw [List.map_cons, Json.weightItems, Json.weight_str, List.length_cons, Nat.mul_succ]
      omega

theorem weight_optional_matching {regex : Regex} (value : Option regex.Matching) :
    Json.weight (optionalJson (fun m => .str m.val) value) ≤ 6 * regex.longest + 5 := by
  cases value with
  | none => simp [optionalJson, Json.weight]
  | some m =>
      have text := m.length_le
      rw [optionalJson, Json.weight_str]
      omega

theorem weight_optional_number (value : Option Positive) :
    Json.weight (optionalJson (fun n => .int n.val) value) ≤
      5 + numbersWeight (value.map (·.val)).toList := by
  cases value with
  | none => simp [optionalJson, Json.weight]
  | some n => simp [optionalJson, numbersWeight]

theorem weight_extra_matching {regex : Regex} (key : String) (value : Option regex.Matching) :
    Json.weightFields (extraJson key (fun m => .str m.val) value) ≤
      6 * key.scalars.length + 6 * regex.longest + 6 := by
  cases value with
  | none => simp [extraJson, Json.weightFields]
  | some m =>
      have text := m.length_le
      simp only [extraJson, Json.weightFields, Json.weight_str]
      omega

theorem weight_provenance (p : Provenance) : Json.weight (.obj p.fields) ≤
    9000 + numbersWeight ([p.pullRequestNumber.val, p.commentId.val] ++
      (p.line.map (·.val)).toList) := by
  have head : p.reviewedHeadSha.val.scalars.length ≤ 40 := p.reviewedHeadSha.length_le
  have base : p.reviewedBaseSha.val.scalars.length ≤ 40 := p.reviewedBaseSha.length_le
  have event : Json.weight (optionalJson (fun sha : Sha40 => .str sha.val) p.sourceEventHeadSha) ≤
      6 * 40 + 5 := weight_optional_matching p.sourceEventHeadSha
  have provider : p.provider.text.scalars.length ≤ 13 := by cases p.provider <;> decide
  have reviewer : p.reviewer.val.scalars.length ≤ 44 := p.reviewer.length_le
  have path : p.path.val.scalars.length ≤ 512 := p.path.length_le
  have line := weight_optional_number p.line
  have source : Json.weightFields (extraJson "source_issue_key" (fun key : IssueKey => .str key.val)
      p.sourceIssueKey) ≤ 6 * 16 + 6 * 128 + 6 :=
    weight_extra_matching "source_issue_key" p.sourceIssueKey
  have keys : Json.keyWeight ["pull_request_number", "reviewed_head_sha", "reviewed_base_sha",
      "source_event_head_sha", "provider", "reviewer", "comment_id", "path", "line"] ≤ 1000 := by
    decide
  rw [Provenance.fields, Json.weight, Json.weightFields_append, Json.weightFields_eq]
  simp only [List.map_cons, List.map_nil, List.sum_cons, List.sum_nil, Json.weight_str,
    numbersWeight, List.cons_append, List.nil_append] at line ⊢
  omega

theorem weight_ingested (e : FindingIngested) : Json.weight (Evidence.findingIngested e).json ≤
    12000 + numbersWeight (Evidence.findingIngested e).numbers := by
  have id : e.findingId.val.scalars.length ≤ 64 := e.findingId.length_le
  have print : e.fingerprint.val.scalars.length ≤ 64 := e.fingerprint.length_le
  have claim : e.claim.val.scalars.length ≤ 280 := e.claim.length_le
  have source := weight_provenance e.provenance
  have keys : Json.keyWeight ["finding_id", "fingerprint", "claim", "provenance"] ≤ 250 := by
    decide
  rw [Evidence.json, Evidence.fields, FindingIngested.fields, Json.weight_obj]
  simp only [List.map_cons, List.map_nil, List.sum_cons, List.sum_nil, Json.weight_str]
  rw [Evidence.numbers]
  omega

theorem weight_classified (e : FindingClassified) :
    Json.weight (Evidence.findingClassified e).json ≤ 3000 + 2500 * e.regressionTests.length := by
  have id : e.findingId.val.scalars.length ≤ 64 := e.findingId.length_le
  have outcome : e.outcome.text.scalars.length ≤ 24 := by cases e.outcome <;> decide
  have family : Json.weight (optionalJson (fun id : FamilyId => .str id.val) e.familyId) ≤
      6 * 7 + 5 := weight_optional_matching e.familyId
  have candidate : Json.weight (optionalJson (fun id : Sha64 => .str id.val) e.candidateId) ≤
      6 * 64 + 5 := weight_optional_matching e.candidateId
  have basis : e.basis.text.scalars.length ≤ 13 := by cases e.basis <;> decide
  have tests : Json.weight (matchingsJson e.regressionTests) ≤
      (6 * 411 + 3) * e.regressionTests.length + 2 := weight_matchings e.regressionTests
  have authorization : Json.weight (optionalJson (fun id : AuthorizationId => .str id.val)
      e.authorizationId) ≤ 6 * 97 + 5 := weight_optional_matching e.authorizationId
  have keys : Json.keyWeight ["finding_id", "outcome", "family_id", "candidate_id", "basis",
      "regression_tests", "authorization_id"] ≤ 600 := by decide
  rw [Evidence.json, Evidence.fields, FindingClassified.fields, Json.weight_obj]
  simp only [List.map_cons, List.map_nil, List.sum_cons, List.sum_nil, Json.weight_str]
  omega

end Hunter.Knowledge
