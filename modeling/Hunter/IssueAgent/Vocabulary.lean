import Mathlib

/-!
The closed vocabularies of the Issue ledger: states, record kinds, writer roles,
resume stages and codes, each with its text on the ledger, and the tables of the
lifecycle over them.
-/

namespace Hunter.IssueAgent

inductive State where
  | authorized | fallbackAuthorized | resultBound | validated | published | completed | failed
  deriving DecidableEq, Repr

def State.text : State → String
  | .authorized => "AUTHORIZED"
  | .fallbackAuthorized => "FALLBACK_AUTHORIZED"
  | .resultBound => "RESULT_BOUND"
  | .validated => "VALIDATED"
  | .published => "PUBLISHED"
  | .completed => "COMPLETED"
  | .failed => "FAILED"

def states : List State :=
  [.authorized, .fallbackAuthorized, .resultBound, .validated, .published, .completed, .failed]

def terminalStates : List State := [.completed, .failed]

def State.terminal (s : State) : Bool := terminalStates.contains s

/-- The states a record may move to, from no record at all or from a state. -/
def legalTransitions : Option State → List State
  | none => [.authorized]
  | some .authorized => [.resultBound, .fallbackAuthorized, .failed]
  | some .fallbackAuthorized => [.resultBound, .failed]
  | some .resultBound => [.validated, .failed]
  | some .validated => [.published, .failed]
  | some .published => [.completed, .failed]
  | some .completed | some .failed => []

inductive Role where
  | authorize | bind | recordValidation | finalize | reconcile | candidatePrRecord
  | sourceHandlingBootstrap | knowledgeIngest | ownerDecision
  deriving DecidableEq, Repr

def Role.text : Role → String
  | .authorize => "authorize"
  | .bind => "bind"
  | .recordValidation => "record-validation"
  | .finalize => "finalize"
  | .reconcile => "reconcile"
  | .candidatePrRecord => "candidate-pr-record"
  | .sourceHandlingBootstrap => "source-handling-bootstrap"
  | .knowledgeIngest => "knowledge-ingest"
  | .ownerDecision => "owner-decision"

def roles : List Role :=
  [.authorize, .bind, .recordValidation, .finalize, .reconcile, .candidatePrRecord,
    .sourceHandlingBootstrap, .knowledgeIngest, .ownerDecision]

/-- Which control role may write which target state. -/
def writerRoles : State → List Role
  | .authorized => [.authorize]
  | .fallbackAuthorized => [.bind]
  | .resultBound => [.bind, .reconcile]
  | .validated => [.recordValidation, .reconcile]
  | .published => [.finalize, .reconcile]
  | .completed => [.candidatePrRecord, .reconcile]
  | .failed =>
      [.authorize, .bind, .recordValidation, .finalize, .reconcile, .candidatePrRecord,
        .ownerDecision]

def resumeRoles : List Role := [.bind, .recordValidation, .finalize, .reconcile, .ownerDecision]

inductive Stage where
  | validation | publication | fallback
  deriving DecidableEq, Repr

def Stage.text : Stage → String
  | .validation => "validation"
  | .publication => "publication"
  | .fallback => "fallback"

def stages : List Stage := [.validation, .publication, .fallback]

/-- The state a stage resumes in and its attempt cap; the fallback has none. -/
def resumeStages : Stage → State × Option Nat
  | .validation => (.resultBound, some 2)
  | .publication => (.validated, some 3)
  | .fallback => (.fallbackAuthorized, none)

def resumeDispatchGraceSeconds : Nat := 600

inductive Kind where
  | transition | resumeRequested | resumeBound | resumeAbandoned
  deriving DecidableEq, Repr

def Kind.text : Kind → String
  | .transition => "transition"
  | .resumeRequested => "resume_requested"
  | .resumeBound => "resume_bound"
  | .resumeAbandoned => "resume_abandoned"

def kinds : List Kind := [.transition, .resumeRequested, .resumeBound, .resumeAbandoned]

inductive FailureCode where
  | baseNotOnMain | remoteBranchConflict | executorResultTimeout | executorResultRejected
  | executionNotStarted | executionNotCompleted | secretInResult | transportIntegrityFailed
  | prePushSafetyFailed | validationUnavailable | resultTransportExpired
  | publicationUnavailable | publicationContractRefused | publicationRejectedByPlatform
  | ownerWithdrew | issueClosed | issueChangedAfterAuthorization | lifecycleDeadlineExceeded
  | candidatePreflightFailed | candidatePreflightTimeout | controlShaNotOnMain
  deriving DecidableEq, Repr

def FailureCode.text : FailureCode → String
  | .baseNotOnMain => "BASE_NOT_ON_MAIN"
  | .remoteBranchConflict => "REMOTE_BRANCH_CONFLICT"
  | .executorResultTimeout => "EXECUTOR_RESULT_TIMEOUT"
  | .executorResultRejected => "EXECUTOR_RESULT_REJECTED"
  | .executionNotStarted => "EXECUTION_NOT_STARTED"
  | .executionNotCompleted => "EXECUTION_NOT_COMPLETED"
  | .secretInResult => "SECRET_IN_RESULT"
  | .transportIntegrityFailed => "TRANSPORT_INTEGRITY_FAILED"
  | .prePushSafetyFailed => "PRE_PUSH_SAFETY_FAILED"
  | .validationUnavailable => "VALIDATION_UNAVAILABLE"
  | .resultTransportExpired => "RESULT_TRANSPORT_EXPIRED"
  | .publicationUnavailable => "PUBLICATION_UNAVAILABLE"
  | .publicationContractRefused => "PUBLICATION_CONTRACT_REFUSED"
  | .publicationRejectedByPlatform => "PUBLICATION_REJECTED_BY_PLATFORM"
  | .ownerWithdrew => "OWNER_WITHDREW"
  | .issueClosed => "ISSUE_CLOSED"
  | .issueChangedAfterAuthorization => "ISSUE_CHANGED_AFTER_AUTHORIZATION"
  | .lifecycleDeadlineExceeded => "LIFECYCLE_DEADLINE_EXCEEDED"
  | .candidatePreflightFailed => "CANDIDATE_PREFLIGHT_FAILED"
  | .candidatePreflightTimeout => "CANDIDATE_PREFLIGHT_TIMEOUT"
  | .controlShaNotOnMain => "CONTROL_SHA_NOT_ON_MAIN"

def failureCodes : List FailureCode :=
  [.baseNotOnMain, .remoteBranchConflict, .executorResultTimeout, .executorResultRejected,
    .executionNotStarted, .executionNotCompleted, .secretInResult, .transportIntegrityFailed,
    .prePushSafetyFailed, .validationUnavailable, .resultTransportExpired,
    .publicationUnavailable, .publicationContractRefused, .publicationRejectedByPlatform,
    .ownerWithdrew, .issueClosed, .issueChangedAfterAuthorization, .lifecycleDeadlineExceeded,
    .candidatePreflightFailed, .candidatePreflightTimeout, .controlShaNotOnMain]

inductive FreezeCode where
  | stateCorrupt | stateRollbackSuspected | anchorIntegrityFailed
  deriving DecidableEq, Repr

def FreezeCode.text : FreezeCode → String
  | .stateCorrupt => "STATE_CORRUPT"
  | .stateRollbackSuspected => "STATE_ROLLBACK_SUSPECTED"
  | .anchorIntegrityFailed => "ANCHOR_INTEGRITY_FAILED"

inductive AdvisoryCode where
  | providerUnavailable | providerQuota | modelTimeout | noChanges | missingConfiguration
  | secretInResult | executorResultRejected | fallbackSessionNotStarted
  deriving DecidableEq, Repr

def AdvisoryCode.text : AdvisoryCode → String
  | .providerUnavailable => "PROVIDER_UNAVAILABLE"
  | .providerQuota => "PROVIDER_QUOTA"
  | .modelTimeout => "MODEL_TIMEOUT"
  | .noChanges => "NO_CHANGES"
  | .missingConfiguration => "MISSING_CONFIGURATION"
  | .secretInResult => "SECRET_IN_RESULT"
  | .executorResultRejected => "EXECUTOR_RESULT_REJECTED"
  | .fallbackSessionNotStarted => "FALLBACK_SESSION_NOT_STARTED"

def advisoryCodes : List AdvisoryCode :=
  [.providerUnavailable, .providerQuota, .modelTimeout, .noChanges, .missingConfiguration,
    .secretInResult, .executorResultRejected, .fallbackSessionNotStarted]

inductive ExecutorConclusion where
  | success | failure | cancelled | timedOut | skipped
  deriving DecidableEq, Repr

def ExecutorConclusion.text : ExecutorConclusion → String
  | .success => "success"
  | .failure => "failure"
  | .cancelled => "cancelled"
  | .timedOut => "timed_out"
  | .skipped => "skipped"

def executorConclusions : List ExecutorConclusion :=
  [.success, .failure, .cancelled, .timedOut, .skipped]

/-- The causes a fallback records. `canaryNetwork` is the owner-armed canary's own. -/
inductive Cause where
  | rateLimit | quotaExceeded | network | canaryNetwork
  deriving DecidableEq, Repr

def Cause.text : Cause → String
  | .rateLimit => "RATE_LIMIT"
  | .quotaExceeded => "QUOTA_EXCEEDED"
  | .network => "NETWORK"
  | .canaryNetwork => "CANARY_NETWORK"

def fallbackCauses : List Cause := [.rateLimit, .quotaExceeded, .network]

def fallbackPrimaryCauses : List Cause := [.rateLimit, .quotaExceeded, .network, .canaryNetwork]

def canaryProviderHost : String := "ai-gateway.kilo.ai"

/-- The categories the untrusted job outputs are admitted from. -/
def fallbackSignalCategories : List String :=
  ["RATE_LIMIT", "QUOTA_EXCEEDED", "NETWORK", "MODEL_NOT_FOUND", "AUTHENTICATION", "PERMISSION",
    "PROVIDER_UNAVAILABLE", "PROVIDER_OVERLOADED", "PROVIDER_CALL_FAILED", "PROVIDER_ERROR",
    "NOT_FOUND", "UNCLASSIFIED"]

def validationRefusalCodes : List FailureCode :=
  [.transportIntegrityFailed, .executorResultRejected, .secretInResult, .prePushSafetyFailed]

def publicationRefusalCodes : List FailureCode :=
  [.issueClosed, .ownerWithdrew, .issueChangedAfterAuthorization,
    .publicationRejectedByPlatform, .publicationContractRefused, .transportIntegrityFailed]

inductive ModelProvenance where
  | reported | rerouted | reroutedUnidentified | notObserved | streamInvalid
  deriving DecidableEq, Repr

def ModelProvenance.text : ModelProvenance → String
  | .reported => "REPORTED"
  | .rerouted => "REROUTED"
  | .reroutedUnidentified => "REROUTED_UNIDENTIFIED"
  | .notObserved => "NOT_OBSERVED"
  | .streamInvalid => "STREAM_INVALID"

def fallbackModelProvenance : List ModelProvenance :=
  [.reported, .rerouted, .reroutedUnidentified, .notObserved, .streamInvalid]

/-- How far along its lifecycle a state is: every legal transition goes up. -/
def State.rank : State → Nat
  | .authorized => 0
  | .fallbackAuthorized => 1
  | .resultBound => 2
  | .validated => 3
  | .published => 4
  | .completed => 5
  | .failed => 6

theorem rank_lt_of_legal {s t : State} (h : t ∈ legalTransitions (some s)) : s.rank < t.rank := by
  cases s <;> cases t <;> revert h <;> decide

theorem legalTransitions_terminal {s : State} (h : s.terminal = true) :
    legalTransitions (some s) = [] := by
  cases s <;> first | rfl | cases h

theorem mem_legalTransitions_authorized {previous : Option State} :
    State.authorized ∈ legalTransitions previous ↔ previous = none := by
  cases previous with
  | none => simp [legalTransitions]
  | some state => cases state <;> simp [legalTransitions]

theorem mem_legalTransitions_none {state : State} :
    state ∈ legalTransitions none ↔ state = .authorized := by
  simp [legalTransitions]

end Hunter.IssueAgent
