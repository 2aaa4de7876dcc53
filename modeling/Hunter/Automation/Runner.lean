import Mathlib
import Hunter.Data.Fallible
import Hunter.Execution.Canonical

/-!
The automation runner, its repository of run states and its locks. A run of a job
is one call that other calls may interleave with: it saves its scheduled state,
acquires the lock of its job, starts, records its outcome and releases the lock.
Runs may be cancelled, recovered from the repository, or lost with their process.
-/

namespace Hunter.Automation

open Calendar Execution Fallible

inductive Exn where
  | lifecycleError (message : String)
  | identityConflict (message : String)
  deriving DecidableEq, Repr

inductive AutomationRunStatus where
  | scheduled | claimed | running | succeeded | partially | failed | cancelled | skipped | blocked
  deriving DecidableEq, Repr

def AutomationRunStatus.text : AutomationRunStatus → String
  | .scheduled => "scheduled"
  | .claimed => "claimed"
  | .running => "running"
  | .succeeded => "succeeded"
  | .partially => "partial"
  | .failed => "failed"
  | .cancelled => "cancelled"
  | .skipped => "skipped"
  | .blocked => "blocked"

theorem AutomationRunStatus.text_inj {a b : AutomationRunStatus} (same : a.text = b.text) : a = b := by
  cases a <;> cases b <;> first | rfl | exact absurd same (by decide)

def transitions : AutomationRunStatus → List AutomationRunStatus
  | .scheduled => [.claimed, .skipped, .cancelled, .blocked]
  | .claimed => [.running, .cancelled, .blocked]
  | .running => [.succeeded, .partially, .failed, .cancelled]
  | _ => []

def AutomationRunStatus.terminal (status : AutomationRunStatus) : Prop :=
  status ∈ [AutomationRunStatus.succeeded, .partially, .failed, .cancelled, .skipped, .blocked]

instance (status : AutomationRunStatus) : Decidable status.terminal := by
  unfold AutomationRunStatus.terminal
  infer_instance

structure TargetSelection where
  targetType : String
  targetId : String
  deriving DecidableEq

structure AutomationJob where
  jobId : String
  target : TargetSelection
  runType : String
  timeoutSeconds : Option Nat
  preventOverlapping : Bool
  deriving DecidableEq

def AutomationJob.lockKey (job : AutomationJob) : String :=
  job.jobId ++ ":" ++ job.target.targetType ++ ":" ++ job.target.targetId

structure AutomationRun where
  automationRunId : String
  jobId : String
  scheduledFor : Moment
  status : AutomationRunStatus
  pipelineRunId : Option String
  operationalAttemptId : Option String
  startedAt : Option Moment
  finishedAt : Option Moment
  errorSummary : Option String
  warningSummary : Option String
  metadata : List (String × Json)
  deriving DecidableEq

def runId (job : AutomationJob) (scheduledFor : Moment) : String :=
  identity "automation-run" (Canonical.mapping [("job_id", .str job.jobId),
    ("target", Canonical.dataclass "TargetSelection" [("target_type", .str job.target.targetType),
      ("target_id", .str job.target.targetId)]),
    ("scheduled_for", Canonical.datetime scheduledFor), ("run_type", .str job.runType)])

/-- `new or old` for optional texts. -/
def textOr (new old : Option String) : Option String :=
  match new with
  | some text => if text = "" then old else some text
  | none => old

def transition (run : AutomationRun) (status : AutomationRunStatus) (at_ : Moment)
    (error warning : Option String) : Except Exn AutomationRun := do
  require (status ∈ transitions run.status)
    (.lifecycleError ("Invalid automation transition: " ++ run.status.text ++ " -> " ++ status.text))
  return { run with
    status := status
    startedAt := if status = .running ∧ run.startedAt = none then some at_ else run.startedAt
    finishedAt := if status.terminal then some at_ else run.finishedAt
    errorSummary := textOr error run.errorSummary
    warningSummary := textOr warning run.warningSummary }

def stateId (run : AutomationRun) : String :=
  identity "automation-run-state" (Canonical.mapping [("automation_run_id", .str run.automationRunId),
    ("job_id", .str run.jobId), ("scheduled_for", Canonical.datetime run.scheduledFor),
    ("status", .str run.status.text)])

/-- The content under the canonical hash of a record: the operational times are left out. -/
def hashPayload (run : AutomationRun) : AutomationRun :=
  { run with startedAt := none, finishedAt := none, metadata := Json.canonFields run.metadata }

def existing (records : List AutomationRun) (run : AutomationRun) : Option AutomationRun :=
  records.find? fun record => stateId record = stateId run

def save (records : List AutomationRun) (run : AutomationRun) : Except Exn (List AutomationRun) :=
  match existing records run with
  | some record =>
      if hashPayload record = hashPayload run then .ok records
      else .error (.identityConflict ("Record identity conflict: " ++ stateId run))
  | none => .ok (records ++ [run])

/-- A runner of a process, with or without the repository. The runners of one process
share its lock. -/
structure RunnerId where
  process : Nat
  number : Nat
  repositories : Bool
  deriving DecidableEq

/-- What a runner remembers. -/
structure Memory where
  runs : List AutomationRun
  cancelledRunIds : List String

inductive Phase where
  | scheduled | acquired | running | ended
  deriving DecidableEq

/-- A call of `run_once` under way. `holding` says that the lock it acquired has not
been released on its account. -/
structure Flight where
  runner : RunnerId
  job : AutomationJob
  current : AutomationRun
  phase : Phase
  holding : Bool

def Flight.lock (flight : Flight) : Nat × String := (flight.runner.process, flight.job.lockKey)

structure System where
  records : List AutomationRun
  memory : RunnerId → Memory
  locks : Finset (Nat × String)
  flights : Nat → Option Flight

namespace System

/-- A repository, and nothing running. -/
def start (records : List AutomationRun) : System where
  records := records
  memory := fun _ => ⟨[], []⟩
  locks := ∅
  flights := fun _ => none

def setFlight (s : System) (call : Nat) (flight : Option Flight) : System :=
  { s with flights := Function.update s.flights call flight }

def remember (s : System) (runner : RunnerId) (run : AutomationRun) : System :=
  let memory := s.memory runner
  { s with memory := Function.update s.memory runner { memory with runs := memory.runs ++ [run] } }

def saveRun (s : System) (runner : RunnerId) (run : AutomationRun) : Except Exn (List AutomationRun) :=
  if runner.repositories then save s.records run else .ok s.records

/-- Saving a run and remembering it; the exception of a conflict leaves both out. -/
def record (s : System) (runner : RunnerId) (run : AutomationRun) : System :=
  match s.saveRun runner run with
  | .ok records => remember { s with records := records } runner run
  | .error _ => s

/-- `release` of a lock on account of a run: its own calls hold the lock no more. -/
def free (s : System) (lock : Nat × String) (owner : String) : System :=
  { s with
    locks := s.locks.erase lock
    flights := fun call => (s.flights call).map fun flight =>
      if flight.lock = lock ∧ flight.current.automationRunId = owner
      then { flight with holding := false } else flight }

end System

def scheduledRun (job : AutomationJob) (scheduledFor : Moment) : AutomationRun where
  automationRunId := runId job scheduledFor
  jobId := job.jobId
  scheduledFor := scheduledFor
  status := .scheduled
  pipelineRunId := none
  operationalAttemptId := none
  startedAt := none
  finishedAt := none
  errorSummary := none
  warningSummary := none
  metadata := [("target_id", .str job.target.targetId), ("target_type", .str job.target.targetType),
    ("run_type", .str job.runType)]

def schedule (s : System) (call : Nat) (runner : RunnerId) (job : AutomationJob)
    (scheduledFor : Moment) : Option System :=
  match s.flights call with
  | some _ => none
  | none =>
      let run := scheduledRun job scheduledFor
      match s.saveRun runner run with
      | .ok records => some ({ s with records := records }.setFlight call
          (some ⟨runner, job, run, .scheduled, false⟩))
      | .error _ => some s

/-- An outcome before execution: recorded and remembered, and the call is over. -/
def giveUp (s : System) (call : Nat) (flight : Flight) (status : AutomationRunStatus) (now : Moment)
    (warning : String) : System :=
  match transition flight.current status now none (some warning) with
  | .ok run => (s.setFlight call none).record flight.runner run
  | .error _ => s.setFlight call none

def acquire (s : System) (call : Nat) (now : Moment) : Option System :=
  match s.flights call with
  | some flight =>
      if flight.phase = .scheduled then
        if flight.current.automationRunId ∈ (s.memory flight.runner).cancelledRunIds then
          some (giveUp s call flight .cancelled now "run cancelled before execution")
        else if flight.job.preventOverlapping then
          if flight.lock ∈ s.locks then
            some (giveUp s call flight .blocked now "duplicate concurrent run prevented")
          else some ({ s with locks := insert flight.lock s.locks }.setFlight call
            (some { flight with phase := .acquired, holding := true }))
        else some (s.setFlight call (some { flight with phase := .acquired }))
      else none
  | none => none

def begin_ (s : System) (call : Nat) (claimedAt startedAt : Moment) : Option System :=
  match s.flights call with
  | some flight =>
      if flight.phase = .acquired then
        match (transition flight.current .claimed claimedAt none none >>= fun claimed =>
          transition claimed .running startedAt none none) with
        | .ok running => some (s.setFlight call (some { flight with current := running, phase := .running }))
        | .error _ => none
      else none
  | none => none

/-- What the pipeline executor does. -/
inductive ExecutorResult where
  | raised (error : String)
  | returned (pipelineRunId operationalAttemptId : Option String) (persistenceErrors : Bool)

def timedOut (job : AutomationJob) (startedAt : Option Moment) (now : Moment) : Prop :=
  match job.timeoutSeconds, startedAt with
  | some seconds, some started => started.val + seconds * microsPerSecond < now.val
  | _, _ => False

instance (job : AutomationJob) (startedAt : Option Moment) (now : Moment) :
    Decidable (timedOut job startedAt now) := by
  unfold timedOut
  split <;> infer_instance

def Exn.summary : Exn → String
  | .lifecycleError message => "AutomationLifecycleError: " ++ message
  | .identityConflict message => "PersistenceIdentityConflictError: " ++ message

/-- The outcome that the body of the `try` saves, or the text of the exception there. -/
def outcome (job : AutomationJob) (running : AutomationRun) (execution : ExecutorResult)
    (checkedAt endedAt : Moment) : Except String AutomationRun :=
  match execution with
  | .raised error => .error error
  | .returned pipelineRunId operationalAttemptId persistenceErrors =>
      if timedOut job running.startedAt checkedAt then
        (transition running .failed endedAt (some ("TimeoutError: automation job exceeded " ++
          toString (job.timeoutSeconds.getD 0) ++ " seconds")) none).mapError Exn.summary
      else (transition { running with
          pipelineRunId := pipelineRunId, operationalAttemptId := operationalAttemptId }
        (if persistenceErrors then .partially else .succeeded) endedAt none none).mapError Exn.summary

/-- The failure that the `except` clause saves. -/
def failure (running : AutomationRun) (failedAt : Moment) (error : String) : Except Exn AutomationRun :=
  transition running .failed failedAt (some error) none

def conclude (s : System) (runner : RunnerId) : Except Exn AutomationRun → System
  | .ok run => s.record runner run
  | .error _ => s

def finish (s : System) (call : Nat) (execution : ExecutorResult) (checkedAt endedAt failedAt : Moment) :
    Option System :=
  match s.flights call with
  | some flight =>
      if flight.phase = .running then
        let ended := s.setFlight call (some { flight with phase := .ended })
        let failing := fun error => conclude ended flight.runner (failure flight.current failedAt error)
        match outcome flight.job flight.current execution checkedAt endedAt with
        | .ok run =>
            match s.saveRun flight.runner run with
            | .ok _ => some (ended.record flight.runner run)
            | .error exn => some (failing exn.summary)
        | .error error => some (failing error)
      else none
  | none => none

/-- The `finally` clause: the lock of the job is released, whoever holds it. -/
def release (s : System) (call : Nat) : Option System :=
  match s.flights call with
  | some flight =>
      if flight.phase = .ended then
        some ({ s with locks := s.locks.erase flight.lock }.setFlight call none)
      else none
  | none => none

/-- `cancelled_run_ids.add`. -/
def System.note (s : System) (runner : RunnerId) (id : String) : System :=
  let memory := s.memory runner
  let noted := { memory with cancelledRunIds := id :: memory.cancelledRunIds }
  { s with memory := Function.update s.memory runner noted }

def cancel (s : System) (runner : RunnerId) (run : AutomationRun) (job : AutomationJob)
    (now : Moment) : System :=
  match transition run .cancelled now none none with
  | .error _ => s
  | .ok cancelled =>
      match s.saveRun runner cancelled with
      | .error _ => s.note runner run.automationRunId
      | .ok _ => (((s.note runner run.automationRunId).record runner cancelled).free
          (runner.process, job.lockKey) run.automationRunId)

def AutomationRun.moment (run : AutomationRun) : Moment :=
  (run.finishedAt.or run.startedAt).getD run.scheduledFor

/-- The order of `load_latest_run`. -/
def AutomationRun.upTo (run other : AutomationRun) : Prop :=
  run.moment < other.moment ∨ run.moment = other.moment ∧ run.status.text ≤ other.status.text

instance (run other : AutomationRun) : Decidable (run.upTo other) := by
  unfold AutomationRun.upTo
  infer_instance

def System.candidates (s : System) (runner : RunnerId) : List AutomationRun :=
  (s.memory runner).runs ++ if runner.repositories then s.records else []

/-- A last run of an id among the remembered and the recorded ones. Runs of one time and
one status may come in any order. -/
def LatestRun (s : System) (runner : RunnerId) (id : String) (run : AutomationRun) : Prop :=
  (run ∈ s.candidates runner ∧ run.automationRunId = id) ∧
    ∀ other ∈ s.candidates runner, other.automationRunId = id → other.upTo run

instance (s : System) (runner : RunnerId) (id : String) (run : AutomationRun) :
    Decidable (LatestRun s runner id run) := by
  unfold LatestRun
  infer_instance

def jobFor (jobs : List AutomationJob) (run : AutomationRun) : Option AutomationJob :=
  jobs.find? fun job => job.jobId = run.jobId

/-- `cancel_by_id`, where `run` is the latest run of its id. -/
def cancelById (s : System) (runner : RunnerId) (run : AutomationRun) (jobs : List AutomationJob)
    (now : Moment) : Option System :=
  if LatestRun s runner run.automationRunId run then
    match jobFor jobs run with
    | some job => some (cancel s runner run job now)
    | none => some s
  else none

/-- What recovery makes of an unfinished run. -/
def recovered (run : AutomationRun) (job : Option AutomationJob) (now : Moment) :
    Except Exn AutomationRun :=
  match job with
  | none => transition run .blocked now none (some "job definition unavailable during recovery")
  | some _ =>
      if run.status = .scheduled then
        transition run .blocked now none (some "scheduled run blocked during recovery")
      else transition run .failed now
        (some "RestartRecoveryError: active run abandoned during restart") none

/-- `recover` at one of the records that it has queried. -/
def recover (s : System) (runner : RunnerId) (run : AutomationRun) (jobs : List AutomationJob)
    (now : Moment) : Option System :=
  if runner.repositories ∧ run ∈ s.records ∧ ¬run.status.terminal then
    let freed := match jobFor jobs run with
      | some job =>
          if run.status = .scheduled then s
          else s.free (runner.process, job.lockKey) run.automationRunId
      | none => s
    some (conclude freed runner (recovered run (jobFor jobs run) now))
  else none

/-- The runs, the memories and the locks of a process are lost. -/
def restart (s : System) (process : Nat) : System :=
  { s with
    memory := fun runner => if runner.process = process then ⟨[], []⟩ else s.memory runner
    locks := s.locks.filter fun lock => lock.1 ≠ process
    flights := fun call => (s.flights call).filter fun flight => flight.runner.process ≠ process }

inductive Event where
  | schedule (call : Nat) (runner : RunnerId) (job : AutomationJob) (scheduledFor : Moment)
  | acquire (call : Nat) (now : Moment)
  | begin_ (call : Nat) (claimedAt startedAt : Moment)
  | finish (call : Nat) (execution : ExecutorResult) (checkedAt endedAt failedAt : Moment)
  | release (call : Nat)
  | cancel (runner : RunnerId) (run : AutomationRun) (job : AutomationJob) (now : Moment)
  | cancelById (runner : RunnerId) (run : AutomationRun) (jobs : List AutomationJob) (now : Moment)
  | recover (runner : RunnerId) (run : AutomationRun) (jobs : List AutomationJob) (now : Moment)
  | restart (process : Nat)

def next (s : System) : Event → Option System
  | .schedule call runner job scheduledFor => schedule s call runner job scheduledFor
  | .acquire call now => acquire s call now
  | .begin_ call claimedAt startedAt => begin_ s call claimedAt startedAt
  | .finish call execution checkedAt endedAt failedAt => finish s call execution checkedAt endedAt failedAt
  | .release call => release s call
  | .cancel runner run job now => some (cancel s runner run job now)
  | .cancelById runner run jobs now => cancelById s runner run jobs now
  | .recover runner run jobs now => recover s runner run jobs now
  | .restart process => some (restart s process)

namespace System

variable (s : System) (call : Nat) (flight : Option Flight) (runner : RunnerId) (run : AutomationRun)

@[simp] theorem setFlight_records : (s.setFlight call flight).records = s.records := rfl
@[simp] theorem setFlight_memory : (s.setFlight call flight).memory = s.memory := rfl
@[simp] theorem setFlight_locks : (s.setFlight call flight).locks = s.locks := rfl
@[simp] theorem setFlight_flights :
    (s.setFlight call flight).flights = Function.update s.flights call flight := rfl

@[simp] theorem setFlight_saveRun :
    (s.setFlight call flight).saveRun runner run = s.saveRun runner run := rfl

@[simp] theorem record_locks : (s.record runner run).locks = s.locks := by
  unfold record
  split <;> rfl

@[simp] theorem record_flights : (s.record runner run).flights = s.flights := by
  unfold record
  split <;> rfl

@[simp] theorem note_records (id : String) : (s.note runner id).records = s.records := rfl
@[simp] theorem note_locks (id : String) : (s.note runner id).locks = s.locks := rfl
@[simp] theorem note_flights (id : String) : (s.note runner id).flights = s.flights := rfl

@[simp] theorem free_records (lock : Nat × String) (owner : String) :
    (s.free lock owner).records = s.records := rfl
@[simp] theorem free_memory (lock : Nat × String) (owner : String) :
    (s.free lock owner).memory = s.memory := rfl
@[simp] theorem free_locks (lock : Nat × String) (owner : String) :
    (s.free lock owner).locks = s.locks.erase lock := rfl

end System

@[simp] theorem conclude_locks (s : System) (runner : RunnerId) (result : Except Exn AutomationRun) :
    (conclude s runner result).locks = s.locks := by
  cases result <;> simp [conclude]

@[simp] theorem conclude_flights (s : System) (runner : RunnerId) (result : Except Exn AutomationRun) :
    (conclude s runner result).flights = s.flights := by
  cases result <;> simp [conclude]

@[simp] theorem giveUp_locks (s : System) (call : Nat) (flight : Flight) (status : AutomationRunStatus)
    (now : Moment) (warning : String) : (giveUp s call flight status now warning).locks = s.locks := by
  unfold giveUp
  split <;> simp

@[simp] theorem giveUp_flights (s : System) (call : Nat) (flight : Flight)
    (status : AutomationRunStatus) (now : Moment) (warning : String) :
    (giveUp s call flight status now warning).flights = Function.update s.flights call none := by
  unfold giveUp
  split <;> simp

end Hunter.Automation
