import Hunter.IssueAgent.Ledger
import Hunter.Text.Calendar

/-!
The decision function of the lifecycle. Given the verified view of one authorization and what
was observed of it at one moment, it decides at most one step. An observation that is not
definitive never counts as a negative one, and a branch or a pull request that is there too
early freezes the ledger.
-/

namespace Hunter.IssueAgent

open Calendar (Moment fromIso microsPerSecond)

variable [Ed25519]

/-- `_instant`. -/
def instant (text : String) : Py Moment := do
  require (timestampPattern.fullmatch text = true) (.ledgerSchemaError "malformed UTC timestamp")
  match fromIso text.scalars.dropLast with
  | some moment => return moment
  | none => .error .valueError

def deadlinePassed (deadline now : String) : Py Bool := do
  let present ← instant now
  let last ← instant deadline
  return decide (last ≤ present)

/-- Whether a dispatch is so recent that its run may still appear. -/
def withinGrace (dispatchedAt now : String) : Py Bool := do
  let present ← instant now
  let dispatched ← instant dispatchedAt
  return decide (present.val < dispatched.val + resumeDispatchGraceSeconds * microsPerSecond)

/-- An observation, or `UNKNOWN`. -/
inductive Observed (α : Type) where
  | unknown
  | known (value : α)
  deriving DecidableEq

/-- `fact not in (None, UNKNOWN)`. -/
def Observed.present {α : Type} : Observed (Option α) → Bool
  | .known (some _) => true
  | _ => false

structure ArtifactFact where
  artifactId : Int
  name : String
  digest : String
  size : Int
  expired : Bool
  deriving DecidableEq

abbrev Mapping : Type := List (String × Json)

structure Facts where
  stageRunActive : Observed Bool := .unknown
  executorConclusion : Observed (Option String) := .unknown
  executorAdvisoryCode : Option String := none
  executorStderrCategory : Option String := none
  executorProbeCategory : Option String := none
  executorCanaryRefusal : Option Json := none
  resultArtifacts : Observed (List ArtifactFact) := .unknown
  receipt : Observed (Option Mapping) := .unknown
  remoteBranchHead : Observed (Option String) := .unknown
  remoteHeadConforms : Observed Bool := .unknown
  openDraftPr : Observed (Option Mapping) := .unknown
  preflightConclusion : Observed (Option String) := .unknown
  resumeRunStatus : Observed (Option String) := .unknown
  publicationRefusalCode : Option String := none
  now : String := "1970-01-01T00:00:00Z"

inductive Action where
  | noop | transition | fail | resume | redispatch | abandonResume | freeze
  deriving DecidableEq, Repr

structure Decision where
  action : Action
  targetState : Option State := none
  code : Option String := none
  stage : Option Stage := none
  reason : String := ""
  evidenceHint : Option Mapping := none

namespace Decision

def noop (reason : String) : Decision := { action := .noop, reason }

def fail (code : String) (reason : String := "") : Decision := { action := .fail, code := some code, reason }

def transition (target : State) (hint : Option Mapping := none) : Decision :=
  { action := .transition, targetState := some target, evidenceHint := hint }

def freeze (reason : String) : Decision :=
  { action := .freeze, code := some FreezeCode.stateRollbackSuspected.text, reason }

def abandon (stage : Stage) : Decision :=
  { action := .abandonResume, stage := some stage, reason := "run_concluded_without_output" }

end Decision

/-- A trusted stage's refusal selects its code only from that stage's closed set. -/
def terminalRefusal (code : Option Json) (allowed : List FailureCode) : Py String :=
  match code with
  | some (.str code) => do
      require (code ∈ allowed.map FailureCode.text)
        (.ledgerSchemaError "stage refusal code is outside the stage's closed vocabulary")
      return code
  | _ => .error (.ledgerSchemaError "stage refusal code is outside the stage's closed vocabulary")

/-- The advisory code only selects among the failures of an executor. -/
def executorFailure (facts : Facts) : Decision :=
  if facts.executorAdvisoryCode = some "SECRET_IN_RESULT" then .fail "SECRET_IN_RESULT"
  else if facts.executorAdvisoryCode = some "MODEL_TIMEOUT" then .fail "EXECUTOR_RESULT_TIMEOUT"
  else .fail "EXECUTION_NOT_COMPLETED"

/-- One result of the expected name binds, unless it has expired. -/
def bindArtifact (artifact : ArtifactFact) : Decision :=
  if artifact.expired then .fail "RESULT_TRANSPORT_EXPIRED"
  else .transition .resultBound (some [("artifact_id", .int artifact.artifactId)])

def recoverableProviderFailures : List String := ["RATE_LIMIT", "QUOTA_EXCEEDED", "NETWORK"]

structure FallbackEvidence where
  primary : String
  secondary : String
  stderrCategory : String
  probeCategory : String
  primaryResultArtifacts : Nat
  authorizationValid : Bool
  proofPublished : Bool
  isolationVerified : Bool
  workspaceExclusive : Bool
  attemptsStarted : Nat

def permitCodexFallback (evidence : FallbackEvidence) : Bool :=
  evidence.primary = "kilo" && evidence.secondary = "codex" &&
    recoverableProviderFailures.contains evidence.probeCategory &&
    evidence.stderrCategory = evidence.probeCategory && evidence.primaryResultArtifacts = 0 &&
    evidence.authorizationValid && !evidence.proofPublished && evidence.isolationVerified &&
    evidence.workspaceExclusive && evidence.attemptsStarted = 1

/-- The gateway refusal evidence in its closed ledger form. -/
def canaryRefusalConforms (refusal : Option Json) : Bool :=
  match refusal with
  | some (.obj fields) =>
      match canaryRefusal (.obj fields) "canary_refusal" with
      | .ok _ => true
      | .error _ => false
  | _ => false

def permittedBy (view : AuthorizationView) (stderr probe : String) (primaryResultArtifacts : Nat) : Bool :=
  permitCodexFallback
    { primary := "kilo"
      secondary := "codex"
      stderrCategory := stderr
      probeCategory := probe
      primaryResultArtifacts
      authorizationValid := view.state = .authorized && !view.terminal
      proofPublished := false
      isolationVerified := true
      workspaceExclusive := true
      attemptsStarted := 1 }

/-- What admits a fallback once its deadline is known not to have passed: both categories come from the
closed set, and an armed canary admits only the refusal that both observers saw. -/
def signalsAdmit (view : AuthorizationView) (facts : Facts) (primaryResultArtifacts : Nat) : Bool :=
  match facts.executorStderrCategory, facts.executorProbeCategory with
  | some stderr, some probe =>
      if stderr ∈ fallbackSignalCategories ∧ probe ∈ fallbackSignalCategories then
        if view.authorized.fallbackCanary = some true ∧
            ¬(stderr = probe ∧ probe = "NETWORK" ∧
              canaryRefusalConforms facts.executorCanaryRefusal = true) then false
        else permittedBy view stderr probe primaryResultArtifacts
      else false
  | _, _ => false

def fallbackAdmissible (view : AuthorizationView) (facts : Facts) (primaryResultArtifacts : Nat) :
    Py Bool :=
  if view.authorized.fallback.isNone ∨ view.fallbackAuthorized.isSome then .ok false
  else do
    let passed ← deadlinePassed view.authorized.deadlinePublishedAt.val facts.now
    if passed then return false
    else return signalsAdmit view facts primaryResultArtifacts

/-- The cause that a fallback would record. -/
def fallbackCause (view : AuthorizationView) (facts : Facts) : Json :=
  if view.authorized.fallbackCanary = some true then .str Cause.canaryNetwork.text
  else optionalJson Json.str facts.executorProbeCategory

def notStarted (conclusion : Option String) : Prop := conclusion = none ∨ conclusion = some "skipped"

instance (conclusion : Option String) : Decidable (notStarted conclusion) :=
  inferInstanceAs (Decidable (_ ∨ _))

def authorizedDecision (view : AuthorizationView) (facts : Facts) : Py Decision :=
  match facts.resultArtifacts, facts.executorConclusion with
  | .known results, .known conclusion =>
      match results.filter fun artifact => artifact.name = resultArtifactName view.authorizationId with
      | [artifact] => .ok (bindArtifact artifact)
      | [] =>
          if notStarted conclusion then .ok (.fail "EXECUTION_NOT_STARTED")
          else do
            let admissible ← fallbackAdmissible view facts 0
            if admissible then
              return .transition .fallbackAuthorized (some [("cause", fallbackCause view facts)])
            else return executorFailure facts
      | _ :: _ :: _ =>
          .ok (.fail "TRANSPORT_INTEGRITY_FAILED" "duplicate result artifacts at bind")
  | _, _ => .ok (.noop "executor facts unknown")

/-- What a run of the fallback left. -/
def fallbackOutcome (view : AuthorizationView) (facts : Facts) : Decision :=
  match facts.resultArtifacts, facts.executorConclusion with
  | .known results, .known conclusion =>
      let primary := results.filter fun artifact => artifact.name = resultArtifactName view.authorizationId
      match primary, results.filter fun artifact =>
          artifact.name = fallbackResultArtifactName view.authorizationId with
      | [], [artifact] => bindArtifact artifact
      | [], [] =>
          if facts.executorAdvisoryCode = some "FALLBACK_SESSION_NOT_STARTED" ∨ notStarted conclusion then
            .abandon .fallback
          else executorFailure facts
      | _, _ => .fail "TRANSPORT_INTEGRITY_FAILED" "a result other than one fallback result"
  | _, _ => .noop "fallback executor facts unknown"

/-- The run of a pending resume may still be there. -/
def mayRun (status : Observed (Option String)) : Prop := status = .unknown ∨ status = .known (some "active")

instance (status : Observed (Option String)) : Decidable (mayRun status) :=
  inferInstanceAs (Decidable (_ ∨ _))

/-- The dispatch of a resume that no run has claimed is repeated after a grace period. -/
def redispatch (stage : Stage) (pending : PendingResume) (facts : Facts) (waiting repeated : String) :
    Py Decision := do
  let recent ← withinGrace pending.dispatchedAt.val facts.now
  if recent then return .noop waiting
  else return { action := .redispatch, stage := some stage, reason := repeated }

def fallbackDecision (view : AuthorizationView) (facts : Facts) : Py Decision :=
  match view.pendingResume with
  | none => .ok (.noop "fallback awaits the owner's explicit approval or rejection")
  | some pending =>
      if mayRun facts.resumeRunStatus then
        .ok (.noop "owner-approved fallback run unknown or still active")
      else if pending.boundRunId.isSome then .ok (fallbackOutcome view facts)
      else if facts.resumeRunStatus = .known (some "concluded") then .ok (.abandon .fallback)
      else redispatch .fallback pending facts "fallback dispatch within its grace period"
        "dispatch produced no run; same nonce"

/-- What follows a pending resume of a stage. -/
def pendingDecision (stage : Stage) (pending : PendingResume) (facts : Facts) : Py Decision :=
  if mayRun facts.resumeRunStatus then .ok (.noop "pending resume run unknown or still active")
  else if facts.resumeRunStatus = .known (some "concluded") then .ok (.abandon stage)
  else if pending.boundRunId.isSome then .ok (.noop "bound resume run not observable yet")
  else redispatch stage pending facts "resume dispatch within its grace period"
    "dispatch produced no run; same nonce, no attempt consumed"

/-- `attempts + 1 >= cap`. -/
def exhausted (stage : Stage) (attempts : Nat) : Py Bool :=
  match (resumeStages stage).2 with
  | some cap => .ok (decide (cap ≤ attempts + 1))
  | none => .error .typeError

def resumeOrFail (view : AuthorizationView) (stage : Stage) (facts : Facts)
    (exhaustedCode : FailureCode) : Py Decision :=
  match facts.resultArtifacts with
  | .unknown => .ok (.noop "transport facts unknown")
  | .known results => do
      let bound ← item "RESULT_BOUND" view.resultBound
      match results.find? fun artifact => artifact.artifactId = bound.resultArtifact.artifactId.val with
      | none => return .fail "RESULT_TRANSPORT_EXPIRED"
      | some artifact =>
          if artifact.expired then return .fail "RESULT_TRANSPORT_EXPIRED"
          else (match view.pendingResume with
            | some pending => pendingDecision stage pending facts
            | none => do
                let bounded ← exhausted stage (view.resumeAttempts stage)
                if bounded then return .fail exhaustedCode.text
                else return { action := .resume, stage := some stage })

def resultBoundDecision (view : AuthorizationView) (facts : Facts) : Py Decision :=
  match facts.receipt with
  | .unknown => .ok (.noop "receipt unknown")
  | .known (some receipt) =>
      if Json.lookup "verdict" receipt = some (.str "REFUSED") then do
        let code ← terminalRefusal (Json.lookup "code" receipt) validationRefusalCodes
        return .fail code
      else .ok (.transition .validated)
  | .known none => resumeOrFail view .validation facts .validationUnavailable

/-- A branch that is there has to hold the validated commit. -/
def remoteHeadDecision (facts : Facts) : Decision :=
  match facts.remoteHeadConforms with
  | .unknown => .noop "remote head conformance unknown"
  | .known true => .transition .published
  | .known false => .fail FailureCode.remoteBranchConflict.text

def validatedDecision (view : AuthorizationView) (facts : Facts) : Py Decision :=
  match facts.remoteBranchHead with
  | .unknown => .ok (.noop "remote branch unknown")
  | .known (some _) => .ok (remoteHeadDecision facts)
  | .known none =>
      match facts.publicationRefusalCode with
      | some code => do
          let code ← terminalRefusal (some (.str code)) publicationRefusalCodes
          return .fail code
      | none => do
          let passed ← deadlinePassed view.publishDeadline.val facts.now
          if passed then return .fail FailureCode.lifecycleDeadlineExceeded.text
          else resumeOrFail view .publication facts .publicationUnavailable

/-- Success needs both a successful preflight of the exact head and the draft pull request. -/
def publishedDecision (view : AuthorizationView) (facts : Facts) : Py Decision :=
  match facts.openDraftPr, facts.preflightConclusion with
  | .known pull, .known conclusion =>
      if conclusion ≠ none ∧ conclusion ≠ some "success" then
        .ok (.fail FailureCode.candidatePreflightFailed.text)
      else if pull.isSome ∧ conclusion = some "success" then .ok (.transition .completed)
      else do
        let published ← item "PUBLISHED" view.published
        let passed ← deadlinePassed published.deadlineCompletedAt.val facts.now
        if passed then return .fail FailureCode.candidatePreflightTimeout.text
        else return .noop "awaiting exact-head Pre-PR Preflight and Draft PR"
  | _, _ => .ok (.noop "pull request or preflight facts unknown")

/-- The branch exists before its result is validated, or the pull request before it is published. -/
def contradiction (view : AuthorizationView) (facts : Facts) : Option Decision :=
  if view.state ∈ [.authorized, .fallbackAuthorized, .resultBound] ∧ facts.remoteBranchHead.present then
    some (.freeze (view.authorized.executionBranch.val ++ " exists before VALIDATED"))
  else if view.state ∈ [.authorized, .fallbackAuthorized, .resultBound, .validated] ∧
      facts.openDraftPr.present then
    some (.freeze "a Draft PR exists before PUBLISHED")
  else none

def stateDecision (view : AuthorizationView) (facts : Facts) : Py Decision :=
  match view.state with
  | .authorized => authorizedDecision view facts
  | .fallbackAuthorized => fallbackDecision view facts
  | .resultBound => resultBoundDecision view facts
  | .validated => validatedDecision view facts
  | .published | .completed | .failed => publishedDecision view facts

def advance (view : AuthorizationView) (facts : Facts) : Py Decision :=
  if view.terminal then .ok (.noop "terminal")
  else
    match facts.stageRunActive with
    | .unknown => .ok (.noop "stage run status unknown")
    | .known true => .ok (.noop "owning run still active")
    | .known false =>
        match contradiction view facts with
        | some decision => .ok decision
        | none => stateDecision view facts

end Hunter.IssueAgent
