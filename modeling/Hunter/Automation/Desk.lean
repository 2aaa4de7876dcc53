import Hunter.Automation.Records
import Hunter.Automation.Runner
import Hunter.Machine.Run

/-!
The calls on one automation runner, one after the other, with what each of them answers. A state of a
run is recorded once: the record of a second one with the same identity has to have the same content,
and the call that saves it raises otherwise. A run that is cancelled is recorded by `cancel` without
the warning that `run_once` records it with.
-/

namespace Hunter.AutomationCalls

open Calendar Execution Fallible
open Automation (AutomationRun AutomationRunStatus ExecutorResult transition textOr save existing
  hashPayload stateId scheduledRun outcome failure timedOut)
open AutomationRecords (AutomationJob AutomationJobRecord jobToRecord)

inductive Raised where
  | valueError (message : String)
  | replaySafety (message : String)
  | job (raised : AutomationRecords.Raised)
  | jobConflict (message : String)
  | run (exn : Automation.Exn)
  | lookup (message : String)
  | due (raised : Scheduling.Raised)
  | assertionError

/-- What a run depends on. -/
def brief (job : AutomationJob) : Automation.AutomationJob where
  jobId := job.jobId
  target := ⟨job.target.targetType, job.target.targetId⟩
  runType := job.runType
  timeoutSeconds := job.timeoutSeconds.map Int.toNat
  preventOverlapping := job.concurrencyPolicy.preventOverlapping

def supportedJobKinds : List String :=
  ["ingest_project_data", "current_state_pipeline", "selected_intelligence", "fusion",
    "opportunity_timing", "generate_reports", "evaluate_alerts", "historical_replay", "backtest",
    "real_market_validation"]

/-- `validate_job_for_execution`. The plan that `pipeline_plan_for_job` then makes of a constructed job
raises nothing. -/
def validateJobForExecution (job : AutomationJob) : Except Raised Unit := do
  require (job.jobKind ∈ supportedJobKinds) (.valueError ("Unsupported automation job kind: " ++ job.jobKind))
  require (job.runType ∈ ["replay", "backtest"] ∨ job.jobKind ∈ ["historical_replay", "backtest"] →
    job.asOfPolicy.asOf.isSome)
    (.replaySafety "Replay/backtest automation jobs require explicit timezone-aware as_of")

/-- The content of the record of a job, which has no times. -/
def definition (record : AutomationJobRecord) (at_ : Moment) : AutomationJobRecord :=
  { record with createdAt := at_, effectiveAt := at_ }

structure Desk where
  repositories : Bool
  jobRecords : List AutomationJobRecord
  records : List AutomationRun
  runs : List AutomationRun
  cancelledRunIds : List String
  locks : List String

namespace Desk

/-- `_save_job`. -/
def saveJob (desk : Desk) (job : AutomationJob) (createdAt : Moment) : Except Raised Desk :=
  if desk.repositories then do
    let record ← (jobToRecord job createdAt).mapError .job
    match desk.jobRecords.find? fun stored => stored.id = record.id with
    | some stored => do
        require (definition stored createdAt = definition record createdAt)
          (.jobConflict ("Record identity conflict: " ++ record.id))
        .ok desk
    | none => .ok { desk with jobRecords := desk.jobRecords ++ [record] }
  else .ok desk

/-- `_save_run`. -/
def saveRun (desk : Desk) (run : AutomationRun) : Except Automation.Exn Desk :=
  if desk.repositories then
    match save desk.records run with
    | .ok records => .ok { desk with records := records }
    | .error exn => .error exn
  else .ok desk

/-- An outcome is saved and remembered. -/
def settle (desk : Desk) (outcome : Except Automation.Exn AutomationRun) :
    Except Automation.Exn AutomationRun × Desk :=
  match outcome with
  | .error exn => (.error exn, desk)
  | .ok run =>
      match desk.saveRun run with
      | .error exn => (.error exn, desk)
      | .ok saved => (.ok run, { saved with runs := saved.runs ++ [run] })

def release (desk : Desk) (key : String) : Desk :=
  { desk with locks := desk.locks.filter fun lock => lock ≠ key }

end Desk

/-- What the executor does, and the times that a call reads on its clock. -/
structure Turn where
  execution : ExecutorResult
  claimedAt : Moment
  startedAt : Moment
  checkedAt : Moment
  endedAt : Moment
  failedAt : Moment

/-- What a call answers, whether it has invoked the executor, and what it leaves. -/
structure Result where
  answer : Except Raised AutomationRun
  executed : Bool
  desk : Desk

def settled (result : Except Automation.Exn AutomationRun × Desk) (executed : Bool) : Result :=
  ⟨result.1.mapError .run, executed, result.2⟩

/-- The `except` clause. -/
def fail (desk : Desk) (current : AutomationRun) (turn : Turn) (error : String) :
    Except Automation.Exn AutomationRun × Desk :=
  desk.settle (failure current turn.failedAt error)

/-- The body of the `try` with its `except` clause. -/
def attempt (desk : Desk) (job : AutomationJob) (run : AutomationRun) (turn : Turn) :
    Except Automation.Exn AutomationRun × Desk :=
  match transition run .claimed turn.claimedAt none none >>= fun claimed =>
    transition claimed .running turn.startedAt none none with
  | .error exn =>
      fail desk { run with status := .running, startedAt := some turn.failedAt } turn exn.summary
  | .ok running =>
      match outcome (brief job) running turn.execution turn.checkedAt turn.endedAt with
      | .error error => fail desk running turn error
      | .ok ended =>
          match desk.settle (.ok ended) with
          | (.error exn, _) => fail desk running turn exn.summary
          | (.ok ended, after) => (.ok ended, after)

/-- The executor under the lock of the job, which is released in the end, whoever acquired it. -/
def execute (desk : Desk) (job : AutomationJob) (run : AutomationRun) (turn : Turn) : Result :=
  let key := (brief job).lockKey
  let locked := if job.concurrencyPolicy.preventOverlapping then key :: desk.locks else desk.locks
  let (answer, after) := attempt { desk with locks := locked } job run turn
  settled (answer, after.release key) true

/-- A run that has been saved as scheduled. -/
def proceed (desk : Desk) (job : AutomationJob) (run : AutomationRun) (turn : Turn) : Result :=
  if run.automationRunId ∈ desk.cancelledRunIds then
    settled (desk.settle (transition run .cancelled turn.endedAt none
      (some "run cancelled before execution"))) false
  else if job.concurrencyPolicy.preventOverlapping ∧ (brief job).lockKey ∈ desk.locks then
    settled (desk.settle (transition run .blocked turn.endedAt none
      (some "duplicate concurrent run prevented"))) false
  else execute desk job run turn

/-- `run_once`. -/
def runOnce (desk : Desk) (job : AutomationJob) (scheduledFor : Moment) (turn : Turn) : Result :=
  match validateJobForExecution job >>= fun _ => desk.saveJob job scheduledFor with
  | .error raised => ⟨.error raised, false, desk⟩
  | .ok ready =>
      match ready.saveRun (scheduledRun (brief job) scheduledFor) with
      | .error exn => ⟨.error (.run exn), false, ready⟩
      | .ok saved => proceed saved job (scheduledRun (brief job) scheduledFor) turn

/-- `cancel`. -/
def cancel (desk : Desk) (run : AutomationRun) (job : AutomationJob) (now : Moment) : Result :=
  match transition run .cancelled now none none with
  | .error exn => ⟨.error (.run exn), false, desk⟩
  | .ok cancelled =>
      let noted := { desk with cancelledRunIds := run.automationRunId :: desk.cancelledRunIds }
      match noted.saveRun cancelled with
      | .error exn => ⟨.error (.run exn), false, noted⟩
      | .ok saved =>
          let freed := saved.release (brief job).lockKey
          ⟨.ok cancelled, false, { freed with runs := freed.runs ++ [cancelled] }⟩

def Desk.candidates (desk : Desk) : List AutomationRun :=
  desk.runs ++ if desk.repositories then desk.records else []

/-- What `load_latest_run` may find. Runs of one time and one status may come in any order. -/
def Latest (desk : Desk) (id : String) (found : Option AutomationRun) : Prop :=
  (∀ run ∈ found, run ∈ desk.candidates ∧ run.automationRunId = id) ∧
    ∀ other ∈ desk.candidates, other.automationRunId = id → ∃ run ∈ found, other.upTo run

/-- `cancel_by_id`, with the run that is found. -/
def cancelById (desk : Desk) (id : String) (jobs : List AutomationJob) (found : Option AutomationRun)
    (now : Moment) : Result :=
  match found with
  | none => ⟨.error (.lookup ("Unknown automation run: " ++ id)), false, desk⟩
  | some run =>
      match jobs.find? fun job => job.jobId = run.jobId with
      | none => ⟨.error (.lookup ("Automation job not available for run: " ++ run.jobId)), false, desk⟩
      | some job => cancel desk run job now

inductive Call where
  | runOnce (job : AutomationJob) (scheduledFor : Moment) (turn : Turn)
  | cancel (run : AutomationRun) (job : AutomationJob) (now : Moment)
  | cancelById (id : String) (jobs : List AutomationJob) (found : Option AutomationRun) (now : Moment)

def perform (desk : Desk) : Call → Result
  | .runOnce job scheduledFor turn => runOnce desk job scheduledFor turn
  | .cancel run job now => cancel desk run job now
  | .cancelById id jobs found now => cancelById desk id jobs found now

/-- A call with its answer. -/
structure Event where
  call : Call
  answer : Except Raised AutomationRun
  executed : Bool

structure Step (desk : Desk) (event : Event) (next : Desk) : Prop where
  found : ∀ id jobs run now, event.call = .cancelById id jobs run now → Latest desk id run
  performed : perform desk event.call = ⟨event.answer, event.executed, next⟩

/-- The record of a state, if there is one, has its content. -/
def Agrees (records : List AutomationRun) (state : AutomationRun) : Prop :=
  ∀ record ∈ existing records state, hashPayload record = hashPayload state

instance (records : List AutomationRun) (state : AutomationRun) : Decidable (Agrees records state) := by
  unfold Agrees
  infer_instance

def conflict (state : AutomationRun) : Automation.Exn :=
  .identityConflict ("Record identity conflict: " ++ stateId state)

theorem existing_mem {records : List AutomationRun} {state record : AutomationRun}
    (found : existing records state = some record) : record ∈ records ∧ stateId record = stateId state := by
  have same : decide (stateId record = stateId state) = true :=
    List.find?_some (p := fun record => decide (stateId record = stateId state)) found
  exact ⟨List.mem_of_find?_eq_some found, of_decide_eq_true same⟩

theorem existing_isSome {records : List AutomationRun} {state record : AutomationRun}
    (inside : record ∈ records) (same : stateId record = stateId state) :
    ∃ found, existing records state = some found := by
  have some_ : (existing records state).isSome :=
    List.find?_isSome.mpr ⟨record, inside, decide_eq_true same⟩
  exact Option.isSome_iff_exists.mp some_

theorem existing_append (records : List AutomationRun) (state other : AutomationRun) :
    existing (records ++ [state]) other =
      (existing records other).or (existing [state] other) := List.find?_append

/-- A state that is saved is among the records as if it were the last one. -/
theorem save_agrees {records : List AutomationRun} {state : AutomationRun} (agrees : Agrees records state) :
    ∃ saved, save records state = .ok saved ∧
      ∀ other, existing saved other = existing (records ++ [state]) other := by
  unfold save
  cases found : existing records state with
  | none => exact ⟨_, rfl, fun _ => rfl⟩
  | some record =>
      refine ⟨_, if_pos (agrees record found), fun other => ?_⟩
      obtain ⟨inside, same⟩ := existing_mem found
      rw [existing_append]
      cases first : existing records other with
      | some _ => rfl
      | none =>
          cases last : existing [state] other with
          | none => rfl
          | some again =>
              obtain ⟨only, equal⟩ := existing_mem last
              cases List.mem_singleton.mp only
              obtain ⟨_, there⟩ := existing_isSome inside (same.trans equal)
              cases first.symm.trans there

theorem save_conflict {records : List AutomationRun} {state : AutomationRun}
    (disagrees : ¬Agrees records state) : save records state = .error (conflict state) := by
  unfold save
  cases found : existing records state with
  | none =>
      refine absurd (fun record there => ?_) disagrees
      cases found.symm.trans there
  | some record =>
      refine if_neg fun same => disagrees fun other there => ?_
      cases found.symm.trans there
      exact same

theorem Agrees.congr {records other : List AutomationRun}
    (same : ∀ state, existing records state = existing other state) (state : AutomationRun) :
    Agrees records state ↔ Agrees other state := by
  rw [Agrees, Agrees, same]

/-- A state of a run without its times. -/
def stateOf (run : AutomationRun) (status : AutomationRunStatus) (error warning : Option String) :
    AutomationRun :=
  { run with status := status, errorSummary := error, warningSummary := warning }

def failedState (run : AutomationRun) (error : String) : AutomationRun :=
  stateOf run .failed (textOr (some error) none) none

def timeoutText (job : AutomationJob) : String :=
  "TimeoutError: automation job exceeded " ++ toString ((brief job).timeoutSeconds.getD 0) ++ " seconds"

/-- The state that a call records which the executor returns to. -/
def endState (job : AutomationJob) (run : AutomationRun) (turn : Turn)
    (pipelineRunId operationalAttemptId : Option String) (persistenceErrors : Bool) : AutomationRun :=
  if timedOut (brief job) (some turn.startedAt) turn.checkedAt then failedState run (timeoutText job)
  else stateOf { run with pipelineRunId := pipelineRunId, operationalAttemptId := operationalAttemptId }
    (if persistenceErrors then .partially else .succeeded) none none

/-- The records agree with the failure, or with the state the run ends in, or with the failure that
its conflict is. -/
def Concludes (records : List AutomationRun) (job : AutomationJob) (run : AutomationRun) (turn : Turn) :
    Prop :=
  match turn.execution with
  | .raised error => Agrees records (failedState run error)
  | .returned pipelineRunId operationalAttemptId persistenceErrors =>
      let ended := endState job run turn pipelineRunId operationalAttemptId persistenceErrors
      Agrees records ended ∨ Agrees records (failedState run (conflict ended).summary)

def cancelledState (run : AutomationRun) : AutomationRun :=
  stateOf run .cancelled none (some "run cancelled before execution")

def blockedState (run : AutomationRun) : AutomationRun :=
  stateOf run .blocked none (some "duplicate concurrent run prevented")

def Continues (records : List AutomationRun) (desk : Desk) (job : AutomationJob) (run : AutomationRun)
    (turn : Turn) : Prop :=
  if run.automationRunId ∈ desk.cancelledRunIds then Agrees records (cancelledState run)
  else if job.concurrencyPolicy.preventOverlapping ∧ (brief job).lockKey ∈ desk.locks then
    Agrees records (blockedState run)
  else Concludes records job run turn

/-- The records agree with the states that `run_once` writes. -/
def Admits (desk : Desk) (job : AutomationJob) (scheduledFor : Moment) (turn : Turn) : Prop :=
  Agrees desk.records (scheduledRun (brief job) scheduledFor) ∧
    Continues (desk.records ++ [scheduledRun (brief job) scheduledFor]) desk job
      (scheduledRun (brief job) scheduledFor) turn

/-- The job is one that is executed, and its record is accepted. -/
def Ready (desk : Desk) (job : AutomationJob) (scheduledFor : Moment) : Prop :=
  validateJobForExecution job = .ok () ∧ ∃ saved, desk.saveJob job scheduledFor = .ok saved

def Conflicts (result : Result) : Prop := ∃ state, result.answer = .error (.run (conflict state))

theorem Continues.congr {records other : List AutomationRun}
    (same : ∀ state, existing records state = existing other state) (desk : Desk) (job : AutomationJob)
    (run : AutomationRun) (turn : Turn) :
    Continues records desk job run turn ↔ Continues other desk job run turn := by
  have agrees := Agrees.congr same
  unfold Continues Concludes
  cases turn.execution <;> simp only [agrees]

variable {desk : Desk}

theorem saveRun_saved (stored : desk.repositories = true) {run : AutomationRun} {saved : List AutomationRun}
    (found : save desk.records run = .ok saved) : desk.saveRun run = .ok { desk with records := saved } := by
  rw [Desk.saveRun, if_pos stored, found]

theorem saveRun_conflict (stored : desk.repositories = true) {run : AutomationRun}
    (disagrees : ¬Agrees desk.records run) : desk.saveRun run = .error (conflict run) := by
  rw [Desk.saveRun, if_pos stored, save_conflict disagrees]

theorem settle_ok (stored : desk.repositories = true) {ended : AutomationRun}
    (agrees : Agrees desk.records ended) : ∃ after, desk.settle (.ok ended) = (.ok ended, after) := by
  obtain ⟨saved, found, -⟩ := save_agrees agrees
  have recorded := saveRun_saved stored found
  exact ⟨_, by simp only [Desk.settle, recorded]; rfl⟩

theorem settle_conflict (stored : desk.repositories = true) {ended : AutomationRun}
    (disagrees : ¬Agrees desk.records ended) :
    desk.settle (.ok ended) = (.error (conflict ended), desk) := by
  simp only [Desk.settle, saveRun_conflict stored disagrees]

/-- An outcome is answered, unless the record of its state conflicts. -/
theorem settled_conflicts (stored : desk.repositories = true) {ended : AutomationRun} {executed : Bool} :
    Conflicts (settled (desk.settle (.ok ended)) executed) ↔ ¬Agrees desk.records ended := by
  constructor
  · rintro ⟨state, raised⟩ agrees
    obtain ⟨after, answered⟩ := settle_ok stored agrees
    rw [settled, answered] at raised
    exact nomatch raised
  · intro disagrees
    rw [settled, settle_conflict stored disagrees]
    exact ⟨ended, rfl⟩

/-- The same content, whatever the times. -/
def Alike (state other : AutomationRun) : Prop :=
  stateId state = stateId other ∧ hashPayload state = hashPayload other

theorem Alike.agrees {state other : AutomationRun} (alike : Alike state other)
    (records : List AutomationRun) : Agrees records state ↔ Agrees records other := by
  rw [Agrees, Agrees, existing, existing, alike.1, alike.2]

theorem Alike.conflict {state other : AutomationRun} (alike : Alike state other) :
    conflict state = conflict other := by
  rw [AutomationCalls.conflict, AutomationCalls.conflict, alike.1]

variable {job : AutomationJob} {scheduledFor : Moment} {turn : Turn}

def runningRun (job : AutomationJob) (scheduledFor : Moment) (turn : Turn) : AutomationRun :=
  { scheduledRun (brief job) scheduledFor with status := .running, startedAt := some turn.startedAt }

theorem fail_state (desk : Desk) (job : AutomationJob) (scheduledFor : Moment) (turn : Turn)
    (error : String) : ∃ state, Alike state (failedState (scheduledRun (brief job) scheduledFor) error) ∧
      fail desk (runningRun job scheduledFor turn) turn error = desk.settle (.ok state) := by
  refine ⟨_, ?_, rfl⟩
  exact ⟨rfl, rfl⟩

theorem outcome_returned (job : AutomationJob) (scheduledFor : Moment) (turn : Turn)
    (pipelineRunId operationalAttemptId : Option String) (persistenceErrors : Bool) :
    ∃ ended, Alike ended (endState job (scheduledRun (brief job) scheduledFor) turn pipelineRunId
        operationalAttemptId persistenceErrors) ∧
      outcome (brief job) (runningRun job scheduledFor turn)
        (.returned pipelineRunId operationalAttemptId persistenceErrors) turn.checkedAt turn.endedAt =
          .ok ended := by
  unfold endState outcome
  by_cases late : timedOut (brief job) (some turn.startedAt) turn.checkedAt
  · refine ⟨_, ?_, if_pos late⟩
    rw [if_pos late]
    exact ⟨rfl, rfl⟩
  · cases persistenceErrors with
    | true =>
        refine ⟨_, ?_, if_neg late⟩
        rw [if_neg late]
        exact ⟨rfl, rfl⟩
    | false =>
        refine ⟨_, ?_, if_neg late⟩
        rw [if_neg late]
        exact ⟨rfl, rfl⟩

theorem fail_conflicts (stored : desk.repositories = true) (error : String) :
    (∃ state, (fail desk (runningRun job scheduledFor turn) turn error).1 = .error (conflict state)) ↔
      ¬Agrees desk.records (failedState (scheduledRun (brief job) scheduledFor) error) := by
  obtain ⟨state, alike, failed⟩ := fail_state desk job scheduledFor turn error
  rw [failed, ← alike.agrees]
  constructor
  · rintro ⟨other, raised⟩ agrees
    obtain ⟨after, answered⟩ := settle_ok stored agrees
    rw [answered] at raised
    exact nomatch raised
  · intro disagrees
    rw [settle_conflict stored disagrees]
    exact ⟨state, rfl⟩

theorem attempt_running (desk : Desk) (job : AutomationJob) (scheduledFor : Moment) (turn : Turn) :
    attempt desk job (scheduledRun (brief job) scheduledFor) turn =
      match outcome (brief job) (runningRun job scheduledFor turn) turn.execution turn.checkedAt
        turn.endedAt with
      | .error error => fail desk (runningRun job scheduledFor turn) turn error
      | .ok ended =>
          match desk.settle (.ok ended) with
          | (.error exn, _) => fail desk (runningRun job scheduledFor turn) turn exn.summary
          | (.ok ended, after) => (.ok ended, after) := rfl

theorem attempt_conflicts (stored : desk.repositories = true) :
    (∃ state, (attempt desk job (scheduledRun (brief job) scheduledFor) turn).1 = .error (conflict state)) ↔
      ¬Concludes desk.records job (scheduledRun (brief job) scheduledFor) turn := by
  rw [attempt_running, Concludes]
  cases turn.execution with
  | raised error => exact fail_conflicts stored error
  | returned pipelineRunId operationalAttemptId persistenceErrors =>
      obtain ⟨ended, alike, made⟩ := outcome_returned job scheduledFor turn pipelineRunId
        operationalAttemptId persistenceErrors
      rw [made]
      dsimp only
      rw [← alike.agrees, ← alike.conflict, not_or]
      by_cases agrees : Agrees desk.records ended
      · obtain ⟨after, answered⟩ := settle_ok stored agrees
        rw [answered]
        refine ⟨?_, fun disagrees => absurd agrees disagrees.1⟩
        rintro ⟨state, raised⟩
        cases raised
      · rw [settle_conflict stored agrees]
        exact (fail_conflicts stored _).trans ⟨fun disagrees => ⟨agrees, disagrees⟩, And.right⟩

theorem mapError_conflict {answer : Except Automation.Exn AutomationRun} :
    (∃ state, answer.mapError Raised.run = .error (.run (conflict state))) ↔
      ∃ state, answer = .error (conflict state) := by
  refine exists_congr fun state => ?_
  cases answer with
  | ok run => exact ⟨fun raised => (nomatch raised), fun raised => (nomatch raised)⟩
  | error exn => simp only [Except.mapError, Except.error.injEq, Raised.run.injEq]

theorem execute_conflicts (stored : desk.repositories = true) :
    Conflicts (execute desk job (scheduledRun (brief job) scheduledFor) turn) ↔
      ¬Concludes desk.records job (scheduledRun (brief job) scheduledFor) turn :=
  mapError_conflict.trans (attempt_conflicts stored)

theorem proceed_conflicts (stored : desk.repositories = true) :
    Conflicts (proceed desk job (scheduledRun (brief job) scheduledFor) turn) ↔
      ¬Continues desk.records desk job (scheduledRun (brief job) scheduledFor) turn := by
  unfold proceed Continues
  split
  · exact settled_conflicts stored
  · split
    · exact settled_conflicts stored
    · exact execute_conflicts stored

/-- Saving a job only adds to the records of the jobs. -/
theorem saveJob_keeps {ready : Desk} (saved : desk.saveJob job scheduledFor = .ok ready) :
    ready = { desk with jobRecords := ready.jobRecords } := by
  unfold Desk.saveJob at saved
  split at saved
  · obtain ⟨record, -, rest⟩ := bind_ok.mp saved
    split at rest
    · cases (require_bind_ok.mp rest).2
      rfl
    · cases rest
      rfl
  · cases saved
    rfl

theorem saveJob_raised {raised : Raised} {exn : Automation.Exn}
    (failed : desk.saveJob job scheduledFor = .error raised) : raised ≠ .run exn := by
  rintro rfl
  unfold Desk.saveJob at failed
  split at failed
  · cases made : jobToRecord job scheduledFor with
    | error raised =>
        rw [made] at failed
        cases failed
    | ok record =>
        rw [made] at failed
        simp only [Except.mapError, ok_bind] at failed
        split at failed
        · obtain refused | ⟨-, rest⟩ := check_error.mp failed
          · cases (require_error.mp refused).2
          · cases rest
        · cases failed
  · cases failed

theorem validate_raised {raised : Raised} {exn : Automation.Exn}
    (failed : validateJobForExecution job = .error raised) : raised ≠ .run exn := by
  rintro rfl
  obtain refused | ⟨-, refused⟩ := check_error.mp failed
  · cases (require_error.mp refused).2
  · cases (require_error.mp refused).2

/-- A call that does not get as far as its run. -/
theorem runOnce_unready (unready : ¬Ready desk job scheduledFor) :
    ∃ raised, runOnce desk job scheduledFor turn = ⟨.error raised, false, desk⟩ ∧
      ∀ exn, raised ≠ .run exn := by
  unfold runOnce
  cases checked : validateJobForExecution job with
  | error raised => exact ⟨raised, rfl, fun exn => validate_raised checked⟩
  | ok value =>
      rw [ok_bind]
      cases saved : desk.saveJob job scheduledFor with
      | error raised => exact ⟨raised, rfl, fun exn => saveJob_raised saved⟩
      | ok ready => exact absurd ⟨checked, ready, saved⟩ unready

/-- A call whose run has another content than is recorded of it. -/
theorem runOnce_disagrees (stored : desk.repositories = true) (ready : Ready desk job scheduledFor)
    (disagrees : ¬Agrees desk.records (scheduledRun (brief job) scheduledFor)) :
    ∃ after, runOnce desk job scheduledFor turn =
      ⟨.error (.run (conflict (scheduledRun (brief job) scheduledFor))), false, after⟩ := by
  obtain ⟨checked, saved, found⟩ := ready
  have keeps := saveJob_keeps found
  have raised : saved.saveRun (scheduledRun (brief job) scheduledFor) =
      .error (conflict (scheduledRun (brief job) scheduledFor)) := by
    rw [keeps]
    exact @saveRun_conflict { desk with jobRecords := saved.jobRecords } stored _ disagrees
  refine ⟨saved, ?_⟩
  unfold runOnce
  rw [checked, ok_bind, found]
  dsimp only
  rw [raised]

/-- A call that goes on with a run that is recorded. -/
theorem runOnce_agrees (stored : desk.repositories = true) (ready : Ready desk job scheduledFor)
    (agrees : Agrees desk.records (scheduledRun (brief job) scheduledFor)) :
    ∃ saved : Desk, runOnce desk job scheduledFor turn =
        proceed saved job (scheduledRun (brief job) scheduledFor) turn ∧
      saved.repositories = true ∧ saved.cancelledRunIds = desk.cancelledRunIds ∧
      saved.locks = desk.locks ∧ ∀ state, existing saved.records state =
        existing (desk.records ++ [scheduledRun (brief job) scheduledFor]) state := by
  obtain ⟨checked, saved, found⟩ := ready
  obtain ⟨records, recorded, same⟩ := save_agrees agrees
  have keeps := saveJob_keeps found
  have added : saved.saveRun (scheduledRun (brief job) scheduledFor) =
      .ok { saved with records := records } := by
    rw [keeps]
    exact @saveRun_saved { desk with jobRecords := saved.jobRecords } stored _ _ recorded
  refine ⟨{ saved with records := records }, ?_, ?_, ?_, ?_, same⟩
  · unfold runOnce
    rw [checked, ok_bind, found]
    dsimp only
    rw [added]
  · rw [keeps]
    exact stored
  · rw [keeps]
  · rw [keeps]

theorem Continues.saved {saved : Desk} {run : AutomationRun}
    (cancelled : saved.cancelledRunIds = desk.cancelledRunIds) (locks : saved.locks = desk.locks)
    (same : ∀ state, existing saved.records state = existing (desk.records ++ [run]) state) :
    Continues saved.records saved job run turn ↔ Continues (desk.records ++ [run]) desk job run turn := by
  rw [Continues.congr same, Continues, Continues, cancelled, locks]

/-- A call raises a conflict where its job is executed and a record has another content. -/
theorem runOnce_conflicts (stored : desk.repositories = true) :
    Conflicts (runOnce desk job scheduledFor turn) ↔
      Ready desk job scheduledFor ∧ ¬Admits desk job scheduledFor turn := by
  by_cases ready : Ready desk job scheduledFor
  · by_cases agrees : Agrees desk.records (scheduledRun (brief job) scheduledFor)
    · obtain ⟨saved, proceeds, again, cancelled, locks, same⟩ := runOnce_agrees stored ready agrees
      have continues := @Continues.saved desk job turn saved _ cancelled locks same
      rw [proceeds, proceed_conflicts again, continues, Admits]
      exact ⟨fun stops => ⟨ready, fun admits => stops admits.2⟩, fun refused goes => refused.2 ⟨agrees, goes⟩⟩
    · obtain ⟨after, raised⟩ := runOnce_disagrees stored ready agrees
      rw [raised]
      exact ⟨fun _ => ⟨ready, fun admits => agrees admits.1⟩, fun _ => ⟨_, rfl⟩⟩
  · obtain ⟨raised, answered, other⟩ := runOnce_unready ready
    rw [answered]
    refine ⟨?_, fun refused => absurd refused.1 ready⟩
    rintro ⟨state, same⟩
    exact absurd (Except.error.inj same) (other _)

theorem proceed_cancelled (stored : desk.repositories = true)
    (gone : (scheduledRun (brief job) scheduledFor).automationRunId ∈ desk.cancelledRunIds) :
    (proceed desk job (scheduledRun (brief job) scheduledFor) turn).executed = false ∧
      ((∃ run, (proceed desk job (scheduledRun (brief job) scheduledFor) turn).answer = .ok run ∧
        run.status = .cancelled) ↔
          Continues desk.records desk job (scheduledRun (brief job) scheduledFor) turn) := by
  have made : ∃ state, Alike state (cancelledState (scheduledRun (brief job) scheduledFor)) ∧
      state.status = .cancelled ∧ transition (scheduledRun (brief job) scheduledFor) .cancelled turn.endedAt
        none (some "run cancelled before execution") = .ok state := by
    refine ⟨_, ?_, ?_, rfl⟩
    · exact ⟨rfl, rfl⟩
    · rfl
  obtain ⟨state, alike, status, made⟩ := made
  rw [proceed, Continues, if_pos gone, if_pos gone, made, ← alike.agrees]
  refine ⟨rfl, ?_⟩
  constructor
  · rintro ⟨run, answered, -⟩
    by_contra disagrees
    rw [settled, settle_conflict stored disagrees] at answered
    cases answered
  · intro agrees
    obtain ⟨after, answered⟩ := settle_ok stored agrees
    rw [settled, answered]
    exact ⟨state, rfl, status⟩

theorem runOnce_cancelled (stored : desk.repositories = true)
    (gone : (scheduledRun (brief job) scheduledFor).automationRunId ∈ desk.cancelledRunIds) :
    (runOnce desk job scheduledFor turn).executed = false ∧
      ((∃ run, (runOnce desk job scheduledFor turn).answer = .ok run ∧ run.status = .cancelled) ↔
        Ready desk job scheduledFor ∧ Admits desk job scheduledFor turn) := by
  by_cases ready : Ready desk job scheduledFor
  · by_cases agrees : Agrees desk.records (scheduledRun (brief job) scheduledFor)
    · obtain ⟨saved, proceeds, again, cancelled, locks, same⟩ := runOnce_agrees stored ready agrees
      have continues := @Continues.saved desk job turn saved _ cancelled locks same
      obtain ⟨idle, answers⟩ := @proceed_cancelled saved job scheduledFor turn again (cancelled ▸ gone)
      rw [proceeds]
      refine ⟨idle, answers.trans (continues.trans ?_)⟩
      exact ⟨fun goes => ⟨ready, agrees, goes⟩, fun admits => admits.2.2⟩
    · obtain ⟨after, raised⟩ := @runOnce_disagrees desk job scheduledFor turn stored ready agrees
      rw [raised]
      refine ⟨rfl, ?_, fun admits => absurd admits.2.1 agrees⟩
      rintro ⟨run, answered, -⟩
      cases answered
  · obtain ⟨raised, answered, -⟩ := @runOnce_unready desk job scheduledFor turn ready
    rw [answered]
    refine ⟨rfl, ?_, fun admits => absurd admits.1 ready⟩
    rintro ⟨run, answered, -⟩
    cases answered

def Call.cancels : Call → Bool
  | .runOnce .. => false
  | .cancel .. | .cancelById .. => true

/-- A call that has cancelled the run of an id. -/
def Event.cancelled (event : Event) (id : String) : Prop :=
  event.call.cancels = true ∧ ∃ run, event.answer = .ok run ∧ run.automationRunId = id

/-- What a call leaves of the runner: the cancelled runs stay cancelled, and the records stay. -/
structure Extends (desk next : Desk) : Prop where
  repositories : next.repositories = desk.repositories
  cancelled : desk.cancelledRunIds ⊆ next.cancelledRunIds
  records : desk.records ⊆ next.records

theorem Extends.refl (desk : Desk) : Extends desk desk := ⟨rfl, List.Subset.refl _, List.Subset.refl _⟩

theorem Extends.trans {next last : Desk} (first : Extends desk next) (second : Extends next last) :
    Extends desk last where
  repositories := second.repositories.trans first.repositories
  cancelled := List.Subset.trans first.cancelled second.cancelled
  records := List.Subset.trans first.records second.records

theorem saveRun_keeps {run : AutomationRun} {saved : Desk} (found : desk.saveRun run = .ok saved) :
    saved = { desk with records := saved.records } := by
  unfold Desk.saveRun at found
  split at found
  · split at found
    · cases found
      rfl
    · cases found
  · cases found
    rfl

theorem save_records {records saved : List AutomationRun} {run : AutomationRun}
    (kept : save records run = .ok saved) : records ⊆ saved := by
  unfold save at kept
  split at kept
  · split at kept
    · cases kept
      exact List.Subset.refl _
    · cases kept
  · cases kept
    exact List.subset_append_left _ _

theorem saveRun_extends {run : AutomationRun} {saved : Desk} (found : desk.saveRun run = .ok saved) :
    Extends desk saved := by
  have records : desk.records ⊆ saved.records := by
    unfold Desk.saveRun at found
    split at found
    · split at found
      · rename_i records kept
        cases found
        exact save_records kept
      · cases found
    · cases found
      exact List.Subset.refl _
  rw [saveRun_keeps found]
  exact ⟨rfl, List.Subset.refl _, records⟩

theorem settle_extends (desk : Desk) (outcome : Except Automation.Exn AutomationRun) :
    Extends desk (desk.settle outcome).2 := by
  cases outcome with
  | error exn => exact Extends.refl desk
  | ok run =>
      cases found : desk.saveRun run with
      | error exn =>
          simp only [Desk.settle, found]
          exact Extends.refl desk
      | ok saved =>
          simp only [Desk.settle, found]
          exact (saveRun_extends found).trans ⟨rfl, List.Subset.refl _, List.Subset.refl _⟩

theorem attempt_extends (desk : Desk) (job : AutomationJob) (run : AutomationRun) (turn : Turn) :
    Extends desk (attempt desk job run turn).2 := by
  unfold attempt fail
  split
  · exact settle_extends desk _
  · split
    · exact settle_extends desk _
    · rename_i ended _
      have extended := settle_extends desk (.ok ended)
      split
      · exact settle_extends desk _
      · rename_i same
        rw [same] at extended
        exact extended

theorem release_extends (desk : Desk) (key : String) : Extends desk (desk.release key) :=
  ⟨rfl, List.Subset.refl _, List.Subset.refl _⟩

theorem proceed_extends (desk : Desk) (job : AutomationJob) (run : AutomationRun) (turn : Turn) :
    Extends desk (proceed desk job run turn).desk := by
  unfold proceed
  split
  · exact settle_extends desk _
  · split
    · exact settle_extends desk _
    · refine Extends.trans ?_ ((attempt_extends _ job run turn).trans (release_extends _ _))
      exact ⟨rfl, List.Subset.refl _, List.Subset.refl _⟩

theorem runOnce_extends (desk : Desk) (job : AutomationJob) (scheduledFor : Moment) (turn : Turn) :
    Extends desk (runOnce desk job scheduledFor turn).desk := by
  unfold runOnce
  split
  · exact Extends.refl desk
  · rename_i ready made
    obtain ⟨_, _, saved⟩ := bind_ok.mp made
    have first : Extends desk ready := by
      rw [saveJob_keeps saved]
      exact ⟨rfl, List.Subset.refl _, List.Subset.refl _⟩
    split
    · exact first
    · rename_i added
      exact (first.trans (saveRun_extends added)).trans (proceed_extends _ job _ turn)

theorem cancel_extends (desk : Desk) (run : AutomationRun) (job : AutomationJob) (now : Moment) :
    Extends desk (cancel desk run job now).desk := by
  unfold cancel
  split
  · exact Extends.refl desk
  · have noted : Extends desk { desk with cancelledRunIds := run.automationRunId :: desk.cancelledRunIds } :=
      ⟨rfl, List.subset_cons_self _ _, List.Subset.refl _⟩
    dsimp only
    split
    · exact noted
    · rename_i saved
      refine (noted.trans (saveRun_extends saved)).trans ?_
      exact ⟨rfl, List.Subset.refl _, List.Subset.refl _⟩

/-- A cancellation that returns is noted. -/
theorem cancel_notes {run gone : AutomationRun} {now : Moment}
    (returned : (cancel desk run job now).answer = .ok gone) :
    gone.automationRunId ∈ (cancel desk run job now).desk.cancelledRunIds := by
  unfold cancel at returned ⊢
  cases made : transition run .cancelled now none none with
  | error exn =>
      rw [made] at returned
      cases returned
  | ok cancelled =>
      have same : cancelled.automationRunId = run.automationRunId := by
        cases (require_bind_ok.mp made).2
        rfl
      rw [made] at returned
      dsimp only at returned ⊢
      split at returned
      · cases returned
      · rename_i saved
        cases returned
        rw [same]
        exact (saveRun_extends saved).cancelled List.mem_cons_self

theorem cancelById_extends (desk : Desk) (id : String) (jobs : List AutomationJob)
    (found : Option AutomationRun) (now : Moment) :
    Extends desk (cancelById desk id jobs found now).desk := by
  unfold cancelById
  split
  · exact Extends.refl desk
  · split
    · exact Extends.refl desk
    · exact cancel_extends desk _ _ now

theorem cancelById_notes {id : String} {jobs : List AutomationJob} {found : Option AutomationRun}
    {now : Moment} {gone : AutomationRun}
    (returned : (cancelById desk id jobs found now).answer = .ok gone) :
    gone.automationRunId ∈ (cancelById desk id jobs found now).desk.cancelledRunIds := by
  cases found with
  | none => cases returned
  | some run =>
      unfold cancelById at returned ⊢
      dsimp only at returned ⊢
      cases known : jobs.find? fun job => job.jobId = run.jobId with
      | none =>
          rw [known] at returned
          cases returned
      | some job =>
          rw [known] at returned
          exact cancel_notes returned

theorem perform_extends (desk : Desk) (call : Call) : Extends desk (perform desk call).desk := by
  cases call with
  | runOnce job scheduledFor turn => exact runOnce_extends desk job scheduledFor turn
  | cancel run job now => exact cancel_extends desk run job now
  | cancelById id jobs found now => exact cancelById_extends desk id jobs found now

theorem perform_notes {call : Call} {gone : AutomationRun} (cancels : call.cancels = true)
    (returned : (perform desk call).answer = .ok gone) :
    gone.automationRunId ∈ (perform desk call).desk.cancelledRunIds := by
  cases call with
  | runOnce job scheduledFor turn => exact absurd cancels nofun
  | cancel run job now => exact cancel_notes returned
  | cancelById id jobs found now => exact cancelById_notes returned

theorem Step.extends {event : Event} {next : Desk} (step : Step desk event next) : Extends desk next := by
  have extended := perform_extends desk event.call
  rwa [step.performed] at extended

theorem Step.notes {event : Event} {next : Desk} (step : Step desk event next) {id : String}
    (gone : event.cancelled id) : id ∈ next.cancelledRunIds := by
  obtain ⟨cancels, run, answered, rfl⟩ := gone
  have noted := perform_notes cancels ((congrArg Result.answer step.performed).trans answered)
  rwa [step.performed] at noted

/-- The runs that are cancelled in a history are noted in its last state. -/
theorem noted {start desk : Desk} {events : List Event} (reached : Run Step start events desk)
    {event : Event} (inside : event ∈ events) {id : String} (gone : event.cancelled id) :
    id ∈ desk.cancelledRunIds := by
  induction reached with
  | nil => cases inside
  | snoc _ step ih =>
      rcases List.mem_append.mp inside with earlier | last
      · exact step.extends.cancelled (ih earlier)
      · cases List.mem_singleton.mp last
        exact step.notes gone

theorem run_stored {start desk : Desk} {events : List Event} (reached : Run Step start events desk)
    (stored : start.repositories = true) : desk.repositories = true := by
  induction reached with
  | nil => exact stored
  | snoc _ step ih => exact step.extends.repositories.trans ih

/-- After any calls on a runner with a repository, a call raises a conflict where its job is executed
and a record of its run has another content than it writes. Once a run has been cancelled, no call
executes it, and a call answers that it is cancelled where it raises no conflict. -/
theorem cancelled_stays {start desk : Desk} {events : List Event} (stored : start.repositories = true)
    (reached : Run Step start events desk) (job : AutomationJob) (scheduledFor : Moment) (turn : Turn) :
    (Conflicts (runOnce desk job scheduledFor turn) ↔
      Ready desk job scheduledFor ∧ ¬Admits desk job scheduledFor turn) ∧
    ((∃ event ∈ events, event.cancelled (scheduledRun (brief job) scheduledFor).automationRunId) →
      (runOnce desk job scheduledFor turn).executed = false ∧
      ((∃ run, (runOnce desk job scheduledFor turn).answer = .ok run ∧ run.status = .cancelled) ↔
        Ready desk job scheduledFor ∧ Admits desk job scheduledFor turn)) := by
  have still := run_stored reached stored
  refine ⟨runOnce_conflicts still, ?_⟩
  rintro ⟨event, inside, gone⟩
  exact runOnce_cancelled still (noted reached inside gone)

def sampleJob : AutomationJob := AutomationRecords.sampleJob false

def sampleMoment : Moment := AutomationRecords.sampleMoment

def sampleRun : AutomationRun := scheduledRun (brief sampleJob) sampleMoment

def sampleCancelled : AutomationRun :=
  { sampleRun with status := .cancelled, finishedAt := some sampleMoment }

def sampleTurn : Turn where
  execution := .returned none none false
  claimedAt := sampleMoment
  startedAt := sampleMoment
  checkedAt := sampleMoment
  endedAt := sampleMoment
  failedAt := sampleMoment

def sampleStart : Desk := ⟨true, [], [], [], [], []⟩

/-- The runner when its run has been cancelled. -/
def sampleDesk : Desk :=
  ⟨true, [], [sampleCancelled], [sampleCancelled], [sampleRun.automationRunId], []⟩

def sampleEvent : Event := ⟨.cancel sampleRun sampleJob sampleMoment, .ok sampleCancelled, false⟩

theorem sample_reached : Run Step sampleStart [sampleEvent] sampleDesk := by
  refine Run.cons ⟨?_, rfl⟩ Run.nil
  intro id jobs run now same
  cases same

theorem sample_ready : Ready sampleDesk sampleJob sampleMoment := by
  obtain ⟨record, stored⟩ := AutomationRecords.sampleJob_stored false
  have made : jobToRecord sampleJob sampleMoment = .ok record := stored
  refine ⟨rfl, { sampleDesk with jobRecords := [record] }, ?_⟩
  have kept : sampleDesk.repositories = true := rfl
  rw [Desk.saveJob, if_pos kept, made]
  rfl

theorem sample_disagrees : ¬Admits sampleDesk sampleJob sampleMoment sampleTurn := by
  rintro ⟨-, continues⟩
  have gone : (scheduledRun (brief sampleJob) sampleMoment).automationRunId ∈ sampleDesk.cancelledRunIds :=
    List.mem_cons_self
  rw [Continues, if_pos gone] at continues
  have found : existing ([sampleCancelled] ++ [sampleRun]) (cancelledState sampleRun) = some sampleCancelled :=
    List.find?_cons_of_pos (decide_eq_true rfl)
  have same := congrArg AutomationRun.warningSummary (continues sampleCancelled found)
  exact absurd same (by decide)

theorem cancelled_stays_sample :
    (runOnce sampleDesk sampleJob sampleMoment sampleTurn).executed = false ∧
      ¬∃ run, (runOnce sampleDesk sampleJob sampleMoment sampleTurn).answer = .ok run ∧
        run.status = .cancelled := by
  have gone : sampleEvent.cancelled sampleRun.automationRunId := ⟨rfl, sampleCancelled, rfl, rfl⟩
  obtain ⟨-, stays⟩ := cancelled_stays rfl sample_reached sampleJob sampleMoment sampleTurn
  obtain ⟨idle, answers⟩ := stays ⟨sampleEvent, List.mem_singleton_self _, gone⟩
  exact ⟨idle, fun answered => sample_disagrees (answers.mp answered).2⟩

/-- The cancelled run is recorded, and the next call on it raises a conflict. -/
theorem cancelled_stays_fails : ∃ events desk, Run Step sampleStart events desk ∧
    (∃ event ∈ events, event.cancelled (scheduledRun (brief sampleJob) sampleMoment).automationRunId) ∧
    Conflicts (runOnce desk sampleJob sampleMoment sampleTurn) := by
  refine ⟨[sampleEvent], sampleDesk, sample_reached, ⟨sampleEvent, List.mem_singleton_self _, ?_⟩, ?_⟩
  · exact ⟨rfl, sampleCancelled, rfl, rfl⟩
  · exact (runOnce_conflicts rfl).mpr ⟨sample_ready, sample_disagrees⟩

end Hunter.AutomationCalls
