import Hunter.IssueAgent.Encoding

/-!
The closed record kinds of the knowledge ledger: who may write each, and the
evidence it must carry. A typed evidence is what the closed schema leaves, and it
is read back from the JSON it is written as.
-/

namespace Hunter.Knowledge

open IssueAgent
open IssueAgent.Schema (field extraField)
open Regex (alphanumeric printable rep)

inductive Kind where
  | findingIngested | findingClassified | historicalEvidenceAssessed | familyCandidate
  | remediationRequested | findingProven | threadResolved | recurrence
  deriving DecidableEq, Repr

def Kind.text : Kind → String
  | .findingIngested => "finding_ingested"
  | .findingClassified => "finding_classified"
  | .historicalEvidenceAssessed => "historical_evidence_assessed"
  | .familyCandidate => "family_candidate"
  | .remediationRequested => "remediation_requested"
  | .findingProven => "finding_proven"
  | .threadResolved => "thread_resolved"
  | .recurrence => "recurrence"

def kinds : List Kind :=
  [.findingIngested, .findingClassified, .historicalEvidenceAssessed, .familyCandidate,
    .remediationRequested, .findingProven, .threadResolved, .recurrence]

/-- Which ledger role may write which kind. -/
def writerRoles : Kind → List Role
  | .findingIngested => [.knowledgeIngest, .reconcile]
  | .findingClassified => [.knowledgeIngest, .recordValidation, .reconcile]
  | .familyCandidate => [.recordValidation, .reconcile]
  | .remediationRequested => [.reconcile]
  | .findingProven => [.reconcile]
  | .historicalEvidenceAssessed => [.knowledgeIngest]
  | .threadResolved => [.reconcile]
  | .recurrence => [.reconcile]

def pathPattern : Regex := rep (alphanumeric ['.', '_', '@', '+', '/', '-']) 1 512

def claimPattern : Regex := rep printable 1 280

def issueKeyPattern : Regex := rep (alphanumeric ['_', '-']) 1 128

abbrev RepoPath : Type := pathPattern.Matching

abbrev Claim : Type := claimPattern.Matching

abbrev IssueKey : Type := issueKeyPattern.Matching

abbrev FamilyId : Type := familyIdPattern.Matching

abbrev TestId : Type := testIdPattern.Matching

inductive Provider where
  | githubReview | sonar
  deriving DecidableEq, Repr

def Provider.text : Provider → String
  | .githubReview => "github-review"
  | .sonar => "sonar"

def providers : List Provider := [.githubReview, .sonar]

structure Provenance where
  pullRequestNumber : Positive
  reviewedHeadSha : Sha40
  reviewedBaseSha : Sha40
  sourceEventHeadSha : Option Sha40
  provider : Provider
  reviewer : Login
  commentId : Positive
  path : RepoPath
  line : Option Positive
  sourceIssueKey : Option IssueKey
  deriving DecidableEq

def provenance : Validator Provenance :=
  object (Provenance.mk <$> field "pull_request_number" positive <*>
    field "reviewed_head_sha" sha40 <*> field "reviewed_base_sha" sha40 <*>
    field "source_event_head_sha" (optional sha40) <*>
    field "provider" (enum Provider.text providers) <*>
    field "reviewer" (pattern loginPattern) <*> field "comment_id" positive <*>
    field "path" (pattern pathPattern) <*> field "line" (optional positive) <*>
    extraField "source_issue_key" (pattern issueKeyPattern))

structure FindingIngested where
  findingId : Sha64
  fingerprint : Sha64
  claim : Claim
  provenance : Provenance
  deriving DecidableEq

def findingIngested : Validator FindingIngested :=
  object (FindingIngested.mk <$> field "finding_id" sha64 <*> field "fingerprint" sha64 <*>
    field "claim" (pattern claimPattern) <*> field "provenance" provenance)

inductive Outcome where
  | matched | candidateNewFamily | falsePositiveClaimed | ambiguous
  deriving DecidableEq, Repr

def Outcome.text : Outcome → String
  | .matched => "matched"
  | .candidateNewFamily => "candidate-new-family"
  | .falsePositiveClaimed => "false-positive-claimed"
  | .ambiguous => "ambiguous"

def outcomes : List Outcome := [.matched, .candidateNewFamily, .falsePositiveClaimed, .ambiguous]

/-- What a classification rests on. -/
inductive Basis where
  | deterministic | proven
  deriving DecidableEq, Repr

def Basis.text : Basis → String
  | .deterministic => "deterministic"
  | .proven => "proven"

def bases : List Basis := [.deterministic, .proven]

structure FindingClassified where
  findingId : Sha64
  outcome : Outcome
  familyId : Option FamilyId
  candidateId : Option Sha64
  basis : Basis
  regressionTests : List TestId
  authorizationId : Option AuthorizationId
  deriving DecidableEq

def findingClassified : Validator FindingClassified :=
  object (FindingClassified.mk <$> field "finding_id" sha64 <*>
    field "outcome" (enum Outcome.text outcomes) <*>
    field "family_id" (optional (pattern familyIdPattern)) <*>
    field "candidate_id" (optional sha64) <*> field "basis" (enum Basis.text bases) <*>
    field "regression_tests" (list (pattern testIdPattern) 32) <*>
    field "authorization_id" (optional authorizationId))

inductive Assessment where
  | historicalFixEvidence | historicalRegressionGap
  deriving DecidableEq, Repr

def Assessment.text : Assessment → String
  | .historicalFixEvidence => "historical-fix-evidence"
  | .historicalRegressionGap => "historical-regression-gap"

def assessments : List Assessment := [.historicalFixEvidence, .historicalRegressionGap]

def historicalSource : String := "github-authenticated-historical-review"

/-- What is known of an old review. It never stands in for a proof at an exact head. -/
structure HistoricalEvidenceAssessed where
  findingId : Sha64
  pullRequestNumber : Positive
  commentId : Positive
  reviewedHeadSha : Sha40
  remediationCommitSha : Sha40
  finalHeadSha : Sha40
  mergeCommitSha : Sha40
  hostedPreflightRunId : Positive
  regressionTests : List TestId
  disposition : Assessment
  ingestedHeadSha : Option Sha40
  deriving DecidableEq

def historicalEvidenceAssessed : Validator HistoricalEvidenceAssessed :=
  object (HistoricalEvidenceAssessed.mk <$> field "finding_id" sha64 <*>
    field "pull_request_number" positive <*> field "comment_id" positive <*>
    field "reviewed_head_sha" sha40 <*> field "remediation_commit_sha" sha40 <*>
    field "final_head_sha" sha40 <*> field "merge_commit_sha" sha40 <*>
    field "hosted_preflight_run_id" positive <*>
    field "regression_tests" (list (pattern testIdPattern) 16) <*>
    field "disposition" (enum Assessment.text assessments) <*
    field "source" (exactText historicalSource) <*> extraField "ingested_head_sha" sha40)

structure FamilyCandidate where
  candidateId : Sha64
  title : familyTitlePattern.Matching
  invariant : familyTextPattern.Matching
  changedPaths : List RepoPath
  sourceFindingIds : List Sha64
  regressionTests : List TestId
  deriving DecidableEq

def familyCandidate : Validator FamilyCandidate :=
  object (FamilyCandidate.mk <$> field "candidate_id" sha64 <*>
    field "title" (pattern familyTitlePattern) <*>
    field "invariant" (pattern familyTextPattern) <*>
    field "changed_paths" (list (pattern pathPattern) 32) <*>
    field "source_finding_ids" (list sha64 64) <*>
    field "regression_tests" (list (pattern testIdPattern) 32))

structure RemediationRequested where
  findingId : Sha64
  attempt : Positive
  pullRequestNumber : Positive
  boundHeadSha : Sha40
  authorizationId : AuthorizationId
  deriving DecidableEq

def remediationRequested : Validator RemediationRequested :=
  object (RemediationRequested.mk <$> field "finding_id" sha64 <*> field "attempt" positive <*>
    field "pull_request_number" positive <*> field "bound_head_sha" sha40 <*>
    field "authorization_id" authorizationId)

structure FindingProven where
  findingId : Sha64
  authorizationId : AuthorizationId
  remediatedHeadSha : Sha40
  receiptSha256 : Sha64
  preflightRunId : Positive
  regressionTests : List TestId
  deriving DecidableEq

def findingProven : Validator FindingProven :=
  object (FindingProven.mk <$> field "finding_id" sha64 <*>
    field "authorization_id" authorizationId <*> field "remediated_head_sha" sha40 <*>
    field "receipt_sha256" sha64 <*> field "preflight_run_id" positive <*>
    field "regression_tests" (list (pattern testIdPattern) 32))

structure ThreadResolved where
  findingId : Sha64
  remediatedHeadSha : Sha40
  replyCommentId : Positive
  deriving DecidableEq

def threadResolved : Validator ThreadResolved :=
  object (ThreadResolved.mk <$> field "finding_id" sha64 <*> field "remediated_head_sha" sha40 <*>
    field "reply_comment_id" positive)

structure Recurrence where
  familyId : FamilyId
  findingId : Sha64
  deriving DecidableEq

def recurrence : Validator Recurrence :=
  object (Recurrence.mk <$> field "family_id" (pattern familyIdPattern) <*>
    field "finding_id" sha64)

inductive Evidence where
  | findingIngested (evidence : FindingIngested)
  | findingClassified (evidence : FindingClassified)
  | historicalEvidenceAssessed (evidence : HistoricalEvidenceAssessed)
  | familyCandidate (evidence : FamilyCandidate)
  | remediationRequested (evidence : RemediationRequested)
  | findingProven (evidence : FindingProven)
  | threadResolved (evidence : ThreadResolved)
  | recurrence (evidence : Recurrence)
  deriving DecidableEq

def Evidence.kind : Evidence → Kind
  | .findingIngested _ => .findingIngested
  | .findingClassified _ => .findingClassified
  | .historicalEvidenceAssessed _ => .historicalEvidenceAssessed
  | .familyCandidate _ => .familyCandidate
  | .remediationRequested _ => .remediationRequested
  | .findingProven _ => .findingProven
  | .threadResolved _ => .threadResolved
  | .recurrence _ => .recurrence

/-- `EVIDENCE_SCHEMAS`. -/
def evidenceSchemas : Kind → Validator Evidence
  | .findingIngested => fun j place => .findingIngested <$> findingIngested j place
  | .findingClassified => fun j place => .findingClassified <$> findingClassified j place
  | .historicalEvidenceAssessed => fun j place =>
      .historicalEvidenceAssessed <$> historicalEvidenceAssessed j place
  | .familyCandidate => fun j place => .familyCandidate <$> familyCandidate j place
  | .remediationRequested => fun j place => .remediationRequested <$> remediationRequested j place
  | .findingProven => fun j place => .findingProven <$> findingProven j place
  | .threadResolved => fun j place => .threadResolved <$> threadResolved j place
  | .recurrence => fun j place => .recurrence <$> recurrence j place

theorem evidenceSchemas_kind {kind : Kind} {j : Json} {place : String} {evidence : Evidence}
    (h : evidenceSchemas kind j place = .ok evidence) : evidence.kind = kind := by
  cases kind <;> simp only [evidenceSchemas, map_ok] at h <;> obtain ⟨_, _, rfl⟩ := h <;> rfl

instance : Stable provenance := by unfold provenance; infer_instance

instance : Stable findingIngested := by unfold findingIngested; infer_instance

instance : Stable findingClassified := by unfold findingClassified; infer_instance

instance : Stable historicalEvidenceAssessed := by
  unfold historicalEvidenceAssessed
  infer_instance

instance : Stable familyCandidate := by unfold familyCandidate; infer_instance

instance : Stable remediationRequested := by unfold remediationRequested; infer_instance

instance : Stable findingProven := by unfold findingProven; infer_instance

instance : Stable threadResolved := by unfold threadResolved; infer_instance

instance : Stable recurrence := by unfold recurrence; infer_instance

instance (kind : Kind) : Stable (evidenceSchemas kind) where
  canon j place := by cases kind <;> simp only [evidenceSchemas, Stable.canon]

end Hunter.Knowledge
