import Hunter.Data.Fallible
import Hunter.Data.Table
import Hunter.Text.Isoformat
import Hunter.Text.Words

/-!
The ledger of the authorizations that issuers execute. An issuer claims an authorization
under its instance id with a lease, records its dispatch, renews the lease while it runs
and writes the outcome; a starting issuer fails the rows whose lease has run out. Each
method is one transaction that updates the rows it selects, and the times it compares
are texts.
-/

namespace Hunter.Issuer

open Calendar Fallible

inductive Exn where
  | executionError (message : String)
  | replayError (message : String)
  | overflowError
  deriving DecidableEq, Repr

inductive State where
  | claimed | dispatched | completed | failed
  deriving DecidableEq, Repr

def State.text : State → String
  | .claimed => "CLAIMED"
  | .dispatched => "DISPATCHED"
  | .completed => "COMPLETED"
  | .failed => "FAILED"

structure IssueAgentAuthorization where
  authorizationId : String
  contentDigest : String
  deriving DecidableEq, Repr

structure IssueAgentExecutionTarget where
  authorizationId : String
  branch : String
  baseSha : String
  deriving DecidableEq, Repr

structure IssueAgentLedgerEntry where
  authorizationId : String
  authorizationDigest : String
  state : State
  documentId : Option String := none
  buildRecordId : Option String := none
  envelopeId : Option String := none
  handoffDocument : Option String := none
  claimedAt : String
  dispatchedAt : Option String := none
  completedAt : Option String := none
  failedAt : Option String := none
  failureType : Option String := none
  failureMessage : Option String := none
  ownerInstanceId : Option String
  leasedAt : Option String
  leaseExpiresAt : Option String
  executionBranch : Option String := none
  baseSha : Option String := none
  provider : Option String := none
  headAfter : Option String := none
  failureCode : Option String := none
  failureAttempts : Option String := none
  deriving DecidableEq, Repr

abbrev Ledger : Type := Table IssueAgentLedgerEntry.authorizationId

/-- `ISSUE_AGENT_LEDGER_LEASE_SECONDS`, in microseconds. -/
def leaseMicros : Nat := 6 * 60 * 60 * microsPerSecond

def issueAgentFailureCodes : List String :=
  ["BASE_NOT_ON_MAIN", "REMOTE_BRANCH_CONFLICT", "WORKSPACE_UNAVAILABLE", "ENVIRONMENT_UNSUITABLE",
    "PROVIDER_POOL_EXHAUSTED", "RUNTIME_FAILURE", "HANDOFF_INVALID", "NONCANONICAL_RUNTIME_RECEIPT",
    "PRE_MODEL_INVARIANT", "PROMPT_COMPILATION_REJECTED", "SOURCE_HANDLING_BLOCKED", "PROCESS_RESTART",
    "EXECUTION_ERROR"]

def leaseEnd (moment : Moment) : Except Exn Moment :=
  match moment.plus leaseMicros with
  | some expires => .ok expires
  | none => .error .overflowError

namespace IssueAgentLedgerEntry

/-- The row is that of the authorization, with the digest it was claimed with, and of the
instance. -/
def ownedBy (instanceId : String) (authorization : IssueAgentAuthorization)
    (entry : IssueAgentLedgerEntry) : Bool :=
  entry.authorizationId = authorization.authorizationId &&
    entry.authorizationDigest = authorization.contentDigest && entry.ownerInstanceId = some instanceId

end IssueAgentLedgerEntry

/-- `str(value).strip() or default`. -/
def strippedOr (default value : String) : String :=
  let stripped := Chars.strip value.scalars
  if stripped = [] then default else String.ofList stripped

def cut (limit : Nat) (value : String) : String := String.ofList (value.scalars.take limit)

namespace Ledger

/-- An update of the rows of one authorization. -/
def advance (ledger : Ledger) (selects : IssueAgentLedgerEntry → Bool)
    (sets : IssueAgentLedgerEntry → IssueAgentLedgerEntry)
    (keeps : ∀ entry, (sets entry).authorizationId = entry.authorizationId) (failure : String) :
    Except Exn Ledger :=
  let updated := ledger.update selects sets keeps
  if updated.1 ≠ 1 then .error (.executionError failure) else .ok updated.2

def claimRow (ledger : Ledger) (entry : IssueAgentLedgerEntry) : Except Exn Ledger :=
  match ledger.row? entry.authorizationId with
  | some existing =>
      .error (.replayError ("authorization was already claimed in state '" ++ existing.state.text ++ "'"))
  | none =>
      match ledger.insert entry with
      | some after => .ok after
      | none => .error (.replayError "authorization was already claimed by a concurrent execution")

def claim (ledger : Ledger) (instanceId : String) (authorization : IssueAgentAuthorization)
    (claimedAt : Moment) : Except Exn Ledger := do
  let expiresAt ← leaseEnd claimedAt
  ledger.claimRow
    { authorizationId := authorization.authorizationId
      authorizationDigest := authorization.contentDigest
      state := .claimed
      claimedAt := claimedAt.isoformat
      ownerInstanceId := some instanceId
      leasedAt := some claimedAt.isoformat
      leaseExpiresAt := some expiresAt.isoformat }

structure Handoff where
  documentId : String
  buildRecordId : String
  envelopeId : String
  handoffDocument : String
  target : IssueAgentExecutionTarget
  deriving DecidableEq, Repr

def recordDispatch (ledger : Ledger) (instanceId : String) (authorization : IssueAgentAuthorization)
    (handoff : Handoff) (dispatchedAt : Moment) : Except Exn Ledger := do
  require (handoff.target.authorizationId = authorization.authorizationId)
    (.executionError "ledger dispatch requires the execution target of this authorization")
  let expiresAt ← leaseEnd dispatchedAt
  ledger.advance
    (fun entry => entry.ownedBy instanceId authorization && entry.state = .claimed &&
      entry.leaseExpiresAt.any fun expiry => dispatchedAt.isoformat < expiry)
    (fun entry =>
      { entry with
        state := .dispatched
        documentId := some handoff.documentId
        buildRecordId := some handoff.buildRecordId
        envelopeId := some handoff.envelopeId
        handoffDocument := some handoff.handoffDocument
        executionBranch := some handoff.target.branch
        baseSha := some handoff.target.baseSha
        dispatchedAt := some dispatchedAt.isoformat
        leasedAt := some dispatchedAt.isoformat
        leaseExpiresAt := some expiresAt.isoformat })
    (fun _ => rfl)
    "ledger dispatch state is not the exact claimed authorization owned by this instance"

def complete (ledger : Ledger) (instanceId : String) (authorization : IssueAgentAuthorization)
    (completedAt : Moment) (provider headAfter : Option String) : Except Exn Ledger :=
  ledger.advance
    (fun entry => entry.ownedBy instanceId authorization && entry.state = .dispatched)
    (fun entry =>
      { entry with
        state := .completed
        completedAt := some completedAt.isoformat
        provider := provider
        headAfter := headAfter })
    (fun _ => rfl)
    "ledger completion requires the exact dispatched authorization owned by this instance"

structure Failure where
  failureType : String
  failureMessage : String
  failureCode : Option String
  failureAttempts : Option String
  deriving DecidableEq, Repr

def fail (ledger : Ledger) (instanceId : String) (authorization : IssueAgentAuthorization)
    (failedAt : Moment) (failure : Failure) : Except Exn Ledger :=
  let kind := strippedOr "ExecutionError" failure.failureType
  let code := (failure.failureCode.filter fun code => code ∈ issueAgentFailureCodes).getD "EXECUTION_ERROR"
  ledger.advance
    (fun entry => entry.ownedBy instanceId authorization &&
      (entry.state = .claimed || entry.state = .dispatched))
    (fun entry =>
      { entry with
        state := .failed
        failedAt := some failedAt.isoformat
        failureType := some kind
        failureMessage := some (cut 2000 (strippedOr kind failure.failureMessage))
        failureCode := some code
        failureAttempts := failure.failureAttempts.map (cut 4000) })
    (fun _ => rfl)
    "ledger failure requires an active exact authorization owned by this instance"

def renewLease (ledger : Ledger) (instanceId : String) (authorization : IssueAgentAuthorization)
    (healthAt : Moment) : Except Exn Ledger := do
  let expiresAt ← leaseEnd healthAt
  ledger.advance
    (fun entry => entry.ownedBy instanceId authorization && entry.state = .dispatched)
    (fun entry =>
      { entry with
        leasedAt := some healthAt.isoformat
        leaseExpiresAt := some expiresAt.isoformat })
    (fun _ => rfl)
    "ledger lease renewal requires the exact dispatched authorization owned by this instance"

/-- The rows whose lease ran out before the moment, whoever owns them. -/
def recoverExpiredOnStartup (ledger : Ledger) (failedAt : Moment) : Nat × Ledger :=
  ledger.update
    (fun entry => (entry.state = .claimed || entry.state = .dispatched) &&
      entry.leaseExpiresAt.any fun expiry => expiry < failedAt.isoformat)
    (fun entry =>
      { entry with
        state := .failed
        failedAt := some failedAt.isoformat
        failureType := some "ProcessRestart"
        failureMessage := some "issuer lease expired before a durable terminal outcome"
        failureCode := some "PROCESS_RESTART" })
    (fun _ => rfl)

end Ledger

end Hunter.Issuer
