import Hunter.Data.Dict
import Hunter.IssueAgent.Encoding
import Hunter.Machine.Run

/-!
The verified view of an Issue ledger and the fold that builds it. One record is
checked against the verified prefix and folded in, and any failure is a corrupt
ledger. `Admits` states once what folding a record may do, and every invariant of
the view is derived from it.
-/

namespace Hunter.IssueAgent

open Schema (field)

variable [Ed25519]

structure PendingResume where
  stage : Stage
  nonce : Sha64
  attempt : Positive
  dispatchedAt : Timestamp
  boundRunId : Option Positive
  deriving DecidableEq

/-- The evidence dictionary has one entry for each state that was entered. It
always has the first one, since an authorization starts with it. -/
structure AuthorizationView where
  authorizationId : AuthorizationId
  state : State
  records : List Record
  authorized : AuthorizedEvidence
  fallbackAuthorized : Option FallbackAuthorizedEvidence
  resultBound : Option ResultBoundEvidence
  validated : Option ValidatedEvidence
  published : Option PublishedEvidence
  completed : Option CompletedEvidence
  failed : Option FailedEvidence
  pendingResume : Option PendingResume
  resumeAttempts : Stage → Nat

namespace AuthorizationView

def terminal (view : AuthorizationView) : Bool := view.state.terminal

/-- The identity of the execution whose result this authorization carries. -/
def executionId (view : AuthorizationView) : Sha64 :=
  match view.fallbackAuthorized with
  | some admitted => admitted.fallbackExecutionId
  | none => view.authorized.executionId

def publishDeadline (view : AuthorizationView) : Timestamp :=
  match view.resultBound.bind (·.fallback) with
  | some fallback => fallback.deadlinePublishedAt
  | none => view.authorized.deadlinePublishedAt

def start (id : AuthorizationId) (evidence : AuthorizedEvidence) : AuthorizationView :=
  ⟨id, .authorized, [], evidence, none, none, none, none, none, none, none, fun _ => 0⟩

/-- `current.evidence[state] = evidence`. -/
def withEvidence (view : AuthorizationView) : Evidence → AuthorizationView
  | .authorized evidence => { view with authorized := evidence }
  | .fallbackAuthorized evidence => { view with fallbackAuthorized := some evidence }
  | .resultBound evidence => { view with resultBound := some evidence }
  | .validated evidence => { view with validated := some evidence }
  | .published evidence => { view with published := some evidence }
  | .completed evidence => { view with completed := some evidence }
  | .failed evidence => { view with failed := some evidence }

/-- A transition enters its state with its evidence and drops the pending resume. -/
def enter (view : AuthorizationView) (evidence : Evidence) : AuthorizationView :=
  { view.withEvidence evidence with state := evidence.state, pendingResume := none }

def request (view : AuthorizationView) (evidence : ResumeRequested) : AuthorizationView :=
  { view with
    resumeAttempts := fun stage =>
      if stage = evidence.stage then view.resumeAttempts stage + 1 else view.resumeAttempts stage
    pendingResume := some ⟨evidence.stage, evidence.nonce, evidence.attempt, evidence.dispatchedAt,
      none⟩ }

/-- The attempt stays consumed. -/
def abandon (view : AuthorizationView) : AuthorizationView := { view with pendingResume := none }

def bind (view : AuthorizationView) (pending : PendingResume) (runId : Positive) :
    AuthorizationView :=
  { view with pendingResume := some { pending with boundRunId := some runId } }

/-- `current.records.append(record)`. -/
def record (view : AuthorizationView) (record : Record) : AuthorizationView :=
  { view with records := view.records ++ [record] }

end AuthorizationView

structure LedgerView where
  repositoryId : Int
  issueNumber : Int
  authorizations : Dict AuthorizationId AuthorizationView
  claimed : List AuthorizationId
  active : Option AuthorizationId
  headRecordDigest : Option Sha64
  nextSeq : Nat

def emptyView (repositoryId issueNumber : Int) : LedgerView :=
  ⟨repositoryId, issueNumber, .empty, [], none, none, 0⟩

def indexSchemaVersion : String := "hunter-issue-agent-index-v1"

def PendingResume.index (id : AuthorizationId) (pending : PendingResume) : Json :=
  .obj [("authorization_id", .str id.val), ("stage", .str pending.stage.text),
    ("nonce", .str pending.nonce.val), ("attempt", .int pending.attempt.val),
    ("dispatched_at", .str pending.dispatchedAt.val),
    ("bound_run_id", optionalJson (fun run => .int run.val) pending.boundRunId)]

def LedgerView.pendingIndex (view : LedgerView) : Option Json :=
  view.active.bind fun id => (view.authorizations.get? id).bind fun current =>
    current.pendingResume.map (·.index id)

def LedgerView.index (view : LedgerView) : Json :=
  .obj [("schema_version", .str indexSchemaVersion), ("repository_id", .int view.repositoryId),
    ("issue_number", .int view.issueNumber),
    ("claimed_authorization_ids", .arr (view.claimed.map fun id => .str id.val)),
    ("active_authorization_id", optionalJson (fun id => .str id.val) view.active),
    ("pending_resume", optionalJson id view.pendingIndex)]

def indexSchema : Validator Unit :=
  object ((fun _ _ _ _ _ _ => ()) <$> field "schema_version" (exactText indexSchemaVersion) <*>
    field "repository_id" positive <*> field "issue_number" positive <*>
    field "claimed_authorization_ids" (list authorizationId 10000) <*>
    field "active_authorization_id" (optional authorizationId) <*>
    field "pending_resume" (optional (object ((fun _ _ _ _ _ _ => ()) <$>
      field "authorization_id" authorizationId <*> field "stage" (enum Stage.text stages) <*>
      field "nonce" sha64 <*> field "attempt" positive <*> field "dispatched_at" timestamp <*>
      field "bound_run_id" (optional positive)))))

def validateIndexSchema (index : Json) : Py Json :=
  match index with
  | .obj _ => do
      indexSchema index "index"
      return index
  | _ => .error (.ledgerSchemaError "index must be an object")

/-- `dict(value)`: a mapping is itself, and a list of pairs is a mapping too. -/
def pyDict : Json → Py Json
  | .obj fields => .ok (.obj fields)
  | .arr items => .obj <$> items.mapM fun
      | .arr [.str key, value] => .ok (key, value)
      | _ => .error .typeError
  | _ => .error .typeError

def corrupt (message : String) : Exn := .ledgerCorruptError message

structure TrustRoots where
  stateKeys : Sha64 → Option Ed25519.PublicKey
  repositoryId : Int

/-- Whether the writing run is a trusted lifecycle run. Finding out may fail. -/
abbrev ProvenanceCheck : Type := RecordedBy → Record → Py Bool

/-- `values == sorted(values)`. -/
def isSorted (values : List String) : Prop :=
  values.Pairwise fun a b => a.scalars ≤ b.scalars

instance (values : List String) : Decidable (isSorted values) :=
  inferInstanceAs (Decidable (values.Pairwise _))

def completedParent (view : LedgerView) (remediation : Remediation) : Py AuthorizationView :=
  match view.authorizations.get? remediation.parentAuthorizationId with
  | some parent =>
      if parent.state = .completed then .ok parent
      else .error (corrupt "a remediation's parent is not a completed authorization of this Issue")
  | none =>
      .error (corrupt "a remediation's parent is not a completed authorization of this Issue")

/-- The first sixteen digits of the identity name the branch. -/
def executionBranchName (issueNumber : Int) (id : AuthorizationId) : String :=
  "issue-" ++ toString issueNumber ++ "-" ++
    String.ofList ((authorizationDigest id).scalars.take 16)

def checkRemediation (view : LedgerView) (evidence : AuthorizedEvidence)
    (remediation : Remediation) : Py Unit := do
  let parent ← completedParent view remediation
  require (evidence.executionBranch = parent.authorized.executionBranch)
    (corrupt "a remediation runs only on its parent authorization's branch")
  require (evidence.baseSha = remediation.boundHeadSha)
    (corrupt "a remediation's base is not the exact PR head it remediates")
  require (remediation.findingIds ≠ [] ∧ isSorted (remediation.findingIds.map (·.val)))
    (corrupt "a remediation names its findings, sorted")

def checkFallbackOffer (id : AuthorizationId) (evidence : AuthorizedEvidence)
    (fallback : FallbackOffer) : Py Unit := do
  require (fallback.executionId = executionIdentity id evidence.authorizeRunId evidence.controlSha
      evidence.lineage.handoffSha256 .fallback)
    (corrupt "fallback execution identity does not derive from the bound run and handoff")
  require (fallback.handoffArtifact.recipientKeyId ≠ evidence.handoffArtifact.recipientKeyId)
    (corrupt "the fallback handoff is not sealed to a distinct recipient")
  require (fallback.handoffArtifact.runId = evidence.handoffArtifact.runId ∧
      fallback.handoffArtifact.artifactId ≠ evidence.handoffArtifact.artifactId)
    (corrupt "the fallback handoff is not a distinct artifact of the authorize run")

def checkBranch (record : Record) (evidence : AuthorizedEvidence) (view : LedgerView) : Py Unit :=
  match evidence.remediation with
  | some remediation => checkRemediation view evidence remediation
  | none =>
      require (evidence.executionBranch.val =
          executionBranchName record.issueNumber.val record.authorizationId)
        (corrupt "execution branch is not derived from the Issue and authorization identity")

def checkAuthorizedBindings (record : Record) (evidence : AuthorizedEvidence) (view : LedgerView) :
    Py Unit := do
  checkBranch record evidence view
  require (evidence.baseSha = evidence.taskScope.baseSha)
    (corrupt "bound base differs from the signed TaskScope base")
  require (record.recordedBy.runId = evidence.authorizeRunId ∧ record.recordedBy.runAttempt.val = 1)
    (corrupt "AUTHORIZED is not bound to attempt 1 of its own authorize run")
  require (record.recordedBy.headSha = evidence.controlSha)
    (corrupt "AUTHORIZED was not written by the bound control commit")
  require (evidence.executionId = executionIdentity record.authorizationId evidence.authorizeRunId
      evidence.controlSha evidence.lineage.handoffSha256 .primary)
    (corrupt "execution identity does not derive from the bound run and handoff")
  require (evidence.fallbackCanary.isSome → evidence.fallback.isSome)
    (corrupt "a fallback canary was armed for an authorization that bound no fallback")
  match evidence.fallback with
  | some fallback => checkFallbackOffer record.authorizationId evidence fallback
  | none => .ok ()

/-- An armed canary admits only its own cause, from two network observations and
the refusal evidence. Any other fallback needs all three causes to agree. -/
def checkFallbackCause (bound : AuthorizedEvidence) (evidence : FallbackAuthorizedEvidence) :
    Py Unit :=
  if bound.fallbackCanary = some true then
    require (evidence.primaryCause = .canaryNetwork ∧
        (evidence.stderrCategory = evidence.probeCategory ∧ evidence.probeCategory = .network) ∧
        evidence.canaryRefusal.isSome)
      (corrupt "a canary authorization admitted something other than its armed canary")
  else do
    require (¬(evidence.primaryCause = .canaryNetwork ∨ evidence.canaryRefusal.isSome))
      (corrupt "a canary cause was admitted without the signed canary flag")
    require (evidence.primaryCause = evidence.stderrCategory ∧
        evidence.stderrCategory = evidence.probeCategory)
      (corrupt "a fallback cause is not agreed by the untrusted hint and the trusted probe")

def checkFallbackAuthorized (view : AuthorizationView) (evidence : FallbackAuthorizedEvidence) :
    Py Unit :=
  match view.authorized.fallback with
  | none => .error (corrupt "a fallback was admitted for an authorization that bound none")
  | some offered => do
      require (evidence.fallbackExecutionId = offered.executionId)
        (corrupt "admitted fallback identity is not the bound fallback identity")
      checkFallbackCause view.authorized evidence

def checkPublished (view : AuthorizationView) (record : Record) (evidence : PublishedEvidence) :
    Py Unit := do
  let bound := view.authorized
  let validated ← item "VALIDATED" view.validated
  require (evidence.publicationIdentity = publicationIdentity record.repositoryId.val
      record.issueNumber.val view.authorizationId bound.baseSha bound.taskScopeSha256
      view.executionId validated.resultSha256 validated.treeSha validated.unsignedCommitSha
      bound.controlSha evidence.writerLogin.val)
    (corrupt "publication identity does not derive from the bound evidence")

def checkCrossBindings (view : AuthorizationView) (record : Record) : Evidence → Py Unit
  | .authorized _ | .failed _ => .ok ()
  | .fallbackAuthorized evidence => checkFallbackAuthorized view evidence
  | .resultBound evidence =>
      require (view.state = .fallbackAuthorized ↔ evidence.fallback.isSome)
        (corrupt "a bound result does not match the execution attempt it left")
  | .published evidence => checkPublished view record evidence
  | .validated evidence => do
      let bound ← item "RESULT_BOUND" view.resultBound
      require (evidence.resultSha256 = bound.resultPlaintextSha256)
        (corrupt "validated result digest is not the bound result")
  | .completed evidence => do
      let published ← item "PUBLISHED" view.published
      require (evidence.pullRequestHeadSha = published.headSha)
        (corrupt "completed pull request is not at the published head")

def previousText : Option State → String
  | some state => state.text
  | none => "None"

def checkFailed (current : AuthorizationView) : Evidence → Py Unit
  | .failed evidence =>
      require (evidence.failedFromState = current.state)
        (corrupt "failure does not name the state it left")
  | _ => .ok ()

/-- The view before the record is appended, and the authorization it belongs to. -/
def foldTransition (view : LedgerView) (record : Record) (evidence : Evidence) :
    Py (LedgerView × AuthorizationView) := do
  let id := record.authorizationId
  let current := view.authorizations.get? id
  let previous := current.map (·.state)
  let role := record.recordedBy.role
  require (evidence.state ∈ legalTransitions previous)
    (corrupt ("illegal transition " ++ previousText previous ++ " -> " ++ evidence.state.text))
  require (role ∈ writerRoles evidence.state)
    (corrupt ("role " ++ role.text ++ " may not write " ++ evidence.state.text))
  match evidence, current with
  | .authorized bound, _ =>
      require (id ∉ view.claimed) (corrupt "authorization replayed")
      require (view.active = none)
        (corrupt "a second authorization became active for one Issue")
      checkAuthorizedBindings record bound view
      return ({ view with claimed := view.claimed ++ [id], active := some id }, .start id bound)
  | evidence, some current =>
      checkFailed current evidence
      checkCrossBindings current record evidence
      return ({ view with active := if evidence.state.terminal then none else view.active },
        current.enter evidence)
  | _, none => .error .assertionError

def withinCap (cap : Option Nat) (attempts : Nat) : Prop :=
  match cap with
  | some cap => ¬attempts > cap - 1
  | none => True

instance (cap : Option Nat) (attempts : Nat) : Decidable (withinCap cap attempts) := by
  unfold withinCap
  cases cap <;> infer_instance

def foldRequested (current : AuthorizationView) (evidence : ResumeRequested) :
    Py AuthorizationView := do
  let (stageState, cap) := resumeStages evidence.stage
  let attempts := current.resumeAttempts evidence.stage + 1
  require (current.state = stageState ∧ current.pendingResume = none)
    (corrupt "resume requested outside its stage or while one is pending")
  require (evidence.attempt.val = attempts ∧ withinCap cap attempts)
    (corrupt "resume attempt is not the next attempt within the cap")
  return current.request evidence

def foldAbandoned (current : AuthorizationView) (evidence : ResumeAbandoned) :
    Py AuthorizationView :=
  match current.pendingResume with
  | none => .error (corrupt "resume abandonment does not name the pending nonce")
  | some pending => do
      require (pending.nonce = evidence.nonce)
        (corrupt "resume abandonment does not name the pending nonce")
      return current.abandon

def foldBound (current : AuthorizationView) (record : Record) (evidence : ResumeBound) :
    Py AuthorizationView :=
  match current.pendingResume with
  | none => .error (corrupt "resume bind does not match one unbound pending nonce")
  | some pending => do
      require (pending.nonce = evidence.nonce ∧ pending.boundRunId = none)
        (corrupt "resume bind does not match one unbound pending nonce")
      require (evidence.runId = record.recordedBy.runId) (corrupt "resume bound by a different run")
      return current.bind pending evidence.runId

def activeForResume (view : LedgerView) (record : Record) : Py AuthorizationView :=
  match view.authorizations.get? record.authorizationId with
  | none => .error (corrupt "resume record for an inactive authorization")
  | some current => do
      require (current.terminal = false ∧ view.active = some record.authorizationId)
        (corrupt "resume record for an inactive authorization")
      require (record.recordedBy.role ∈ resumeRoles ∧ record.payload.state = current.state)
        (corrupt "resume record does not match the current state or role")
      return current

def foldPayload (view : LedgerView) (record : Record) : Py (LedgerView × AuthorizationView) :=
  match record.payload with
  | .transition evidence => foldTransition view record evidence
  | .resumeRequested _ evidence => do
      let current ← activeForResume view record
      return (view, ← foldRequested current evidence)
  | .resumeAbandoned _ evidence => do
      let current ← activeForResume view record
      return (view, ← foldAbandoned current evidence)
  | .resumeBound _ evidence => do
      let current ← activeForResume view record
      return (view, ← foldBound current record evidence)

def LedgerView.append (view : LedgerView) (current : AuthorizationView) (record : Record) :
    LedgerView :=
  { view with
    authorizations := view.authorizations.set record.authorizationId (current.record record)
    headRecordDigest := some (recordDigest record.raw)
    nextSeq := view.nextSeq + 1 }

def foldRecord (view : LedgerView) (record : Record) : Py LedgerView := do
  let (view, current) ← foldPayload view record
  return view.append current record

def checkRecord (view : LedgerView) (record : Record) (trust : TrustRoots)
    (provenance : ProvenanceCheck) : Py Unit := do
  verifyRecordSignature record.signature record.raw trust.stateKeys stateSignatureDomain
  require (record.recordSeq.val = view.nextSeq) (corrupt "record sequence is not contiguous")
  require (record.prevRecordSha256 = view.headRecordDigest)
    (corrupt "record does not chain to the previous record")
  require (record.repositoryId.val = view.repositoryId ∧ record.issueNumber.val = view.issueNumber)
    (corrupt "record binds a different repository or Issue")
  require (record.repositoryId.val = trust.repositoryId)
    (corrupt "record binds a foreign repository")
  let trusted ← provenance record.recordedBy record
  require (trusted = true) (corrupt "record was not written by a trusted lifecycle run")

def checkIndex (view : LedgerView) : Option Json → Py Unit
  | none => .ok ()
  | some index => do
      let stored ← validateIndexSchema (← pyDict index)
      require (canonicalJson stored = canonicalJson view.index)
        (corrupt "stored index differs from the verified chain")

def schemaCorrupt : Exn → Exn
  | .ledgerSchemaError message => corrupt ("schema: " ++ message)
  | exn => exn

/-- What `json.loads(canonical_json(record))` validates to. -/
def decodeRecord (record : Json) : Py Record := do
  reraise schemaCorrupt (validateRecordSchema (← reload record))

def applyRecord (trust : TrustRoots) (provenance : ProvenanceCheck) (view : LedgerView)
    (record : Json) (index : Option Json) : Py LedgerView := do
  let record ← decodeRecord record
  checkRecord view record trust provenance
  let view ← foldRecord view record
  checkIndex view index
  return view

/-- The entries are the records with their stored indexes, where these are read. -/
def verifyChain (trust : TrustRoots) (provenance : ProvenanceCheck) (repositoryId issueNumber : Int)
    (entries : List (Json × Option Json)) : Py LedgerView :=
  entries.foldlM (fun view entry => applyRecord trust provenance view entry.1 entry.2)
    (emptyView repositoryId issueNumber)

end Hunter.IssueAgent
