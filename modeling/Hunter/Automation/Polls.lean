import Hunter.Automation.Desk

/-!
The polls of the scheduler. A poll runs every enabled job that is due at its instant. Only a one-time
job that has ended in the repository is left out, so two polls in one due minute run a recurring job
twice, and without a repository a one-time job is run at every poll from its time on.
-/

namespace Hunter.AutomationCalls

open Calendar Execution Fallible
open Automation (AutomationRun AutomationRunStatus ExecutorResult transition textOr save existing
  hashPayload stateId scheduledRun outcome failure timedOut)
open AutomationRecords (AutomationJob)

/-- The schedule as it is read when a job is asked whether it is due. -/
def scheduleOf (schedule : AutomationRecords.AutomationSchedule) :
    Except Raised Scheduling.AutomationSchedule :=
  if schedule.scheduleType = "once" then
    match schedule.runAt with
    | some time => do
        let moment ← time.utc.mapError .job
        .ok (.once moment)
    | none => .error .assertionError
  else if schedule.scheduleType = "hourly" then .ok .hourly
  else if schedule.scheduleType = "every_6_hours" then .ok .everySixHours
  else if schedule.scheduleType = "daily" then .ok .daily
  else if schedule.scheduleType = "weekly" then .ok .weekly
  else
    match schedule.expression with
    | some expression => .ok (.cron expression)
    | none => .error .assertionError

/-- The clock of each zone by its name. -/
abbrev Clocks : Type := String → Moment → Except Scheduling.Raised Moment

/-- `is_due`. -/
def isDue (clocks : Clocks) (job : AutomationJob) (at_ : Moment) : Except Raised Bool := do
  let local_ ← (clocks job.timezone at_).mapError .due
  let schedule ← scheduleOf job.schedule
  (Scheduling.dueOnClock schedule at_ local_).mapError .due

def completions : List AutomationRunStatus := [.succeeded, .partially, .failed, .cancelled]

def AutomationJob.once (job : AutomationJob) : Prop := job.schedule.scheduleType = "once"

instance (job : AutomationJob) : Decidable (AutomationJob.once job) := by
  unfold AutomationJob.once
  infer_instance

/-- `_completed_one_time`. -/
def completedOneTime (desk : Desk) (job : AutomationJob) : Prop :=
  AutomationJob.once job ∧ desk.repositories = true ∧
    ∃ record ∈ desk.records, record.jobId = job.jobId ∧ record.status ∈ completions

instance (desk : Desk) (job : AutomationJob) : Decidable (completedOneTime desk job) := by
  unfold completedOneTime
  infer_instance

/-- The instant of a poll, and what the executor does for each job in it. -/
structure Poll where
  at_ : Moment
  turns : AutomationJob → Turn

/-- What a poll answers, the jobs it has invoked the executor for, and what it leaves. -/
structure Polled where
  answer : Except Raised (List AutomationRun)
  executed : List AutomationJob
  desk : Desk

/-- `run_due`. -/
def runDue (clocks : Clocks) (poll : Poll) : List AutomationJob → Desk → Polled
  | [], desk => ⟨.ok [], [], desk⟩
  | job :: jobs, desk =>
      if job.enabled = false ∨ completedOneTime desk job then runDue clocks poll jobs desk
      else
        match isDue clocks job poll.at_ with
        | .error raised => ⟨.error raised, [], desk⟩
        | .ok false => runDue clocks poll jobs desk
        | .ok true =>
            let result := runOnce desk job poll.at_ (poll.turns job)
            let invoked := if result.executed then [job] else []
            match result.answer with
            | .error raised => ⟨.error raised, invoked, result.desk⟩
            | .ok run =>
                let rest := runDue clocks poll jobs result.desk
                ⟨rest.answer.map fun runs => run :: runs, invoked ++ rest.executed, rest.desk⟩

/-- A poll of the jobs that returns, with the jobs it has invoked the executor for. -/
def Returns (clocks : Clocks) (jobs : List AutomationJob) (desk : Desk)
    (label : Poll × List AutomationJob) (next : Desk) : Prop :=
  ∃ runs, runDue clocks label.1 jobs desk = ⟨.ok runs, label.2, next⟩

variable {desk : Desk} {job : AutomationJob}

theorem save_content {records saved : List AutomationRun} {run : AutomationRun}
    (kept : save records run = .ok saved) : ∃ record ∈ saved, hashPayload record = hashPayload run := by
  unfold save at kept
  split at kept
  · rename_i record found
    split at kept
    · rename_i same
      cases kept
      exact ⟨record, (existing_mem found).1, same⟩
    · cases kept
  · cases kept
    exact ⟨run, List.mem_append_right _ (List.mem_singleton_self run), rfl⟩

/-- An outcome that is answered is recorded with its content. -/
theorem settle_content (stored : desk.repositories = true) {ended run : AutomationRun} {after : Desk}
    (answered : desk.settle (.ok ended) = (.ok run, after)) :
    ∃ record ∈ after.records, hashPayload record = hashPayload ended := by
  unfold Desk.settle at answered
  dsimp only at answered
  split at answered
  · cases answered
  · rename_i saved found
    cases answered
    unfold Desk.saveRun at found
    rw [if_pos stored] at found
    split at found
    · rename_i records kept
      cases found
      exact save_content kept
    · cases found

/-- The job of a run has ended. -/
def Ended (desk : Desk) (jobId : String) : Prop :=
  ∃ record ∈ desk.records, record.jobId = jobId ∧ record.status ∈ completions

theorem ended_of_alike {state other : AutomationRun} {after : Desk} (alike : Alike state other)
    (complete : other.status ∈ completions)
    (recorded : ∃ record ∈ after.records, hashPayload record = hashPayload state) :
    Ended after other.jobId := by
  obtain ⟨record, inside, same⟩ := recorded
  have content := same.trans alike.2
  have jobs : (hashPayload record).jobId = (hashPayload other).jobId := by rw [content]
  have status : (hashPayload record).status = (hashPayload other).status := by rw [content]
  refine ⟨record, inside, jobs, ?_⟩
  rwa [show record.status = other.status from status]

theorem endState_complete (run : AutomationRun) (turn : Turn)
    (pipelineRunId operationalAttemptId : Option String) (persistenceErrors : Bool) :
    (endState job run turn pipelineRunId operationalAttemptId persistenceErrors).jobId = run.jobId ∧
    (endState job run turn pipelineRunId operationalAttemptId persistenceErrors).status ∈ completions := by
  unfold endState
  split
  · exact ⟨rfl, (show AutomationRunStatus.failed ∈ completions by decide)⟩
  · cases persistenceErrors with
    | true => exact ⟨rfl, (show AutomationRunStatus.partially ∈ completions by decide)⟩
    | false => exact ⟨rfl, (show AutomationRunStatus.succeeded ∈ completions by decide)⟩

theorem attempt_ended (stored : desk.repositories = true) {scheduledFor : Moment} {turn : Turn}
    {run : AutomationRun} {after : Desk}
    (answered : attempt desk job (scheduledRun (brief job) scheduledFor) turn = (.ok run, after)) :
    Ended after job.jobId := by
  have failing {error : String}
      (failed : fail desk (runningRun job scheduledFor turn) turn error = (.ok run, after)) :
      Ended after job.jobId := by
    obtain ⟨state, alike, same⟩ := fail_state desk job scheduledFor turn error
    rw [same] at failed
    have complete : AutomationRunStatus.failed ∈ completions := by decide
    exact ended_of_alike alike complete (settle_content stored failed)
  rw [attempt_running] at answered
  cases execution : turn.execution with
  | raised error =>
      rw [execution] at answered
      exact failing answered
  | returned pipelineRunId operationalAttemptId persistenceErrors =>
      obtain ⟨ended, alike, made⟩ := outcome_returned job scheduledFor turn pipelineRunId
        operationalAttemptId persistenceErrors
      rw [execution, made] at answered
      dsimp only at answered
      split at answered
      · exact failing answered
      · rename_i settled
        cases answered
        obtain ⟨jobs, complete⟩ := @endState_complete job (scheduledRun (brief job) scheduledFor) turn
          pipelineRunId operationalAttemptId persistenceErrors
        have recorded := ended_of_alike alike complete (settle_content stored settled)
        rwa [jobs] at recorded

theorem execute_ended (stored : desk.repositories = true) {scheduledFor : Moment} {turn : Turn}
    {run : AutomationRun}
    (answered : (execute desk job (scheduledRun (brief job) scheduledFor) turn).answer = .ok run) :
    Ended (execute desk job (scheduledRun (brief job) scheduledFor) turn).desk job.jobId := by
  unfold execute settled at answered ⊢
  dsimp only at answered ⊢
  cases made : attempt _ job (scheduledRun (brief job) scheduledFor) turn with
  | mk answer after =>
      rw [made] at answered
      cases answer with
      | error exn => cases answered
      | ok run =>
          have ended (locks : List String) := @attempt_ended { desk with locks := locks } job stored
            scheduledFor turn run after
          exact ended _ made

/-- A call that has invoked the executor and returns leaves a record of the end of its job. -/
theorem runOnce_ended (stored : desk.repositories = true) {scheduledFor : Moment} {turn : Turn}
    {run : AutomationRun} (executed : (runOnce desk job scheduledFor turn).executed = true)
    (answered : (runOnce desk job scheduledFor turn).answer = .ok run) :
    Ended (runOnce desk job scheduledFor turn).desk job.jobId := by
  unfold runOnce at executed answered ⊢
  split at executed
  · cases executed
  · rename_i ready made
    obtain ⟨_, _, saved⟩ := bind_ok.mp made
    have kept : ready.repositories = true := by
      rw [saveJob_keeps saved]
      exact stored
    split at executed
    · cases executed
    · rename_i next added
      have still : next.repositories = true := (saveRun_extends added).repositories.trans kept
      simp only [made, added] at answered ⊢
      unfold proceed at executed answered ⊢
      split at executed
      · cases executed
      · split at executed
        · cases executed
        · rename_i free open_
          rw [if_neg free, if_neg open_] at answered ⊢
          exact execute_ended still answered

variable {clocks : Clocks} {poll : Poll}

/-- The course of a poll: the jobs it has invoked the executor for, what it leaves, and whether it
returns. -/
inductive Course (clocks : Clocks) (poll : Poll) :
    List AutomationJob → Desk → List AutomationJob → Desk → Bool → Prop where
  | done (desk : Desk) : Course clocks poll [] desk [] desk true
  | skip {job : AutomationJob} {jobs executed : List AutomationJob} {desk next : Desk} {returned : Bool}
      (rest : Course clocks poll jobs desk executed next returned) :
      Course clocks poll (job :: jobs) desk executed next returned
  | stop (jobs : List AutomationJob) (desk : Desk) : Course clocks poll jobs desk [] desk false
  | fail {job : AutomationJob} {desk : Desk} (jobs : List AutomationJob) {raised : Raised}
      (enabled : job.enabled = true) (due : isDue clocks job poll.at_ = .ok true)
      (open_ : ¬completedOneTime desk job)
      (answered : (runOnce desk job poll.at_ (poll.turns job)).answer = .error raised) :
      Course clocks poll (job :: jobs) desk
        (if (runOnce desk job poll.at_ (poll.turns job)).executed then [job] else [])
        (runOnce desk job poll.at_ (poll.turns job)).desk false
  | run {job : AutomationJob} {jobs executed : List AutomationJob} {desk next : Desk} {returned : Bool}
      {run : AutomationRun} (enabled : job.enabled = true) (due : isDue clocks job poll.at_ = .ok true)
      (open_ : ¬completedOneTime desk job)
      (answered : (runOnce desk job poll.at_ (poll.turns job)).answer = .ok run)
      (rest : Course clocks poll jobs (runOnce desk job poll.at_ (poll.turns job)).desk executed next
        returned) :
      Course clocks poll (job :: jobs) desk
        ((if (runOnce desk job poll.at_ (poll.turns job)).executed then [job] else []) ++ executed) next
        returned

theorem isOk_map {α β ε : Type} (f : α → β) (result : Except ε α) :
    (result.map f).isOk = result.isOk := by
  cases result <;> rfl

theorem runDue_course (jobs : List AutomationJob) (desk : Desk) :
    Course clocks poll jobs desk (runDue clocks poll jobs desk).executed
      (runDue clocks poll jobs desk).desk (runDue clocks poll jobs desk).answer.isOk := by
  induction jobs generalizing desk with
  | nil => exact .done desk
  | cons job jobs ih =>
      unfold runDue
      split
      · exact .skip (ih desk)
      · rename_i open_
        rw [not_or] at open_
        split
        · exact .stop _ desk
        · exact .skip (ih desk)
        · rename_i due
          dsimp only
          split
          · rename_i raised
            exact .fail jobs (Bool.not_eq_false _ ▸ open_.1) due open_.2 raised
          · rename_i answered
            rw [isOk_map]
            exact .run (Bool.not_eq_false _ ▸ open_.1) due open_.2 answered (ih _)

variable {jobs executed : List AutomationJob} {next : Desk} {returned : Bool}

theorem invoked_sublist (invoked : Bool) (job : AutomationJob) :
    (if invoked then [job] else []).Sublist [job] := by
  cases invoked with
  | true => exact List.Sublist.refl _
  | false => exact List.nil_sublist _

theorem Course.sublist (course : Course clocks poll jobs desk executed next returned) :
    executed.Sublist jobs := by
  induction course with
  | done desk => exact List.Sublist.refl _
  | skip _ ih => exact ih.cons _
  | stop jobs desk => exact List.nil_sublist _
  | fail jobs _ _ _ _ => exact (invoked_sublist _ _).trans (List.singleton_sublist.mpr List.mem_cons_self)
  | run _ _ _ _ _ ih => exact (invoked_sublist _ _).append ih

theorem Course.due (course : Course clocks poll jobs desk executed next returned) :
    ∀ job ∈ executed, job.enabled = true ∧ isDue clocks job poll.at_ = .ok true := by
  induction course with
  | done desk => exact fun job inside => absurd inside List.not_mem_nil
  | skip _ ih => exact ih
  | stop jobs desk => exact fun job inside => absurd inside List.not_mem_nil
  | fail jobs enabled due _ _ =>
      intro job inside
      cases List.mem_singleton.mp ((invoked_sublist _ _).subset inside)
      exact ⟨enabled, due⟩
  | run enabled due _ _ _ ih =>
      intro job inside
      rcases List.mem_append.mp inside with first | later
      · cases List.mem_singleton.mp ((invoked_sublist _ _).subset first)
        exact ⟨enabled, due⟩
      · exact ih job later

theorem Course.extends (course : Course clocks poll jobs desk executed next returned) :
    Extends desk next := by
  induction course with
  | done desk => exact Extends.refl desk
  | skip _ ih => exact ih
  | stop jobs desk => exact Extends.refl desk
  | fail jobs _ _ _ _ => exact runOnce_extends _ _ _ _
  | run _ _ _ _ _ ih => exact (runOnce_extends _ _ _ _).trans ih

theorem completedOneTime_extends (extended : Extends desk next) (complete : completedOneTime desk job) :
    completedOneTime next job := by
  obtain ⟨once, stored, record, inside, same⟩ := complete
  exact ⟨once, extended.repositories.trans stored, record, extended.records inside, same⟩

/-- A one-time job that has ended is not executed. -/
theorem Course.completed (course : Course clocks poll jobs desk executed next returned)
    (complete : completedOneTime desk job) : job ∉ executed := by
  induction course with
  | done desk => exact List.not_mem_nil
  | skip _ ih => exact ih complete
  | stop jobs desk => exact List.not_mem_nil
  | fail jobs _ _ open_ _ =>
      intro inside
      cases List.mem_singleton.mp ((invoked_sublist _ _).subset inside)
      exact open_ complete
  | run _ _ open_ _ _ ih =>
      intro inside
      rcases List.mem_append.mp inside with first | later
      · cases List.mem_singleton.mp ((invoked_sublist _ _).subset first)
        exact open_ complete
      · exact ih (completedOneTime_extends (runOnce_extends _ _ _ _) complete) later

/-- With a repository a one-time job is executed at most once, and then it has ended. -/
theorem Course.once (course : Course clocks poll jobs desk executed next returned)
    (stored : desk.repositories = true) (once : AutomationJob.once job) :
    executed.count job ≤ 1 ∧ (returned = true → job ∈ executed → completedOneTime next job) := by
  induction course with
  | done desk => exact ⟨Nat.zero_le _, fun _ inside => absurd inside List.not_mem_nil⟩
  | skip _ ih => exact ih stored
  | stop jobs desk => exact ⟨Nat.zero_le _, fun _ inside => absurd inside List.not_mem_nil⟩
  | fail jobs _ _ _ _ =>
      refine ⟨((invoked_sublist _ _).count_le job).trans ?_, fun same => (nomatch same)⟩
      exact List.count_le_length
  | @run first jobs executed desk next returned run enabled due open_ answered rest ih =>
      have kept := (runOnce_extends desk first poll.at_ (poll.turns first)).repositories.trans stored
      obtain ⟨few, ended⟩ := ih kept
      by_cases here : (runOnce desk first poll.at_ (poll.turns first)).executed = true ∧ first = job
      · obtain ⟨invoked, rfl⟩ := here
        have complete : completedOneTime (runOnce desk first poll.at_ (poll.turns first)).desk first :=
          ⟨once, kept, runOnce_ended stored invoked answered⟩
        have none := List.count_eq_zero_of_not_mem (rest.completed complete)
        rw [if_pos invoked, List.count_append, none, List.count_singleton_self]
        exact ⟨le_refl 1, fun _ _ => completedOneTime_extends rest.extends complete⟩
      · have absent : job ∉ (if (runOnce desk first poll.at_ (poll.turns first)).executed then [first]
            else []) := by
          intro inside
          split at inside
          · rename_i invoked
            exact here ⟨invoked, (List.mem_singleton.mp inside).symm⟩
          · cases inside
        rw [List.count_append, List.count_eq_zero_of_not_mem absent, Nat.zero_add]
        refine ⟨few, fun back inside => ended back ?_⟩
        exact (List.mem_append.mp inside).resolve_left absent

def executions (polls : List (Poll × List AutomationJob)) : List AutomationJob :=
  polls.flatMap Prod.snd

theorem Returns.course {label : Poll × List AutomationJob} (step : Returns clocks jobs desk label next) :
    Course clocks label.1 jobs desk label.2 next true := by
  obtain ⟨runs, same⟩ := step
  have course := @runDue_course clocks label.1 jobs desk
  rwa [same] at course

/-- What is known of a one-time job after some polls: it has been executed at most once, and then it
has ended. -/
theorem returns_once {start : Desk} {polls : List (Poll × List AutomationJob)}
    (reached : Run (Returns clocks jobs) start polls desk) (stored : start.repositories = true)
    (once : AutomationJob.once job) :
    desk.repositories = true ∧ (executions polls).count job ≤ 1 ∧
      (job ∈ executions polls → completedOneTime desk job) := by
  induction reached with
  | nil => exact ⟨stored, Nat.zero_le _, fun inside => absurd inside List.not_mem_nil⟩
  | @snoc polls desk next label _ step ih =>
      obtain ⟨kept, few, ended⟩ := ih
      have course := step.course
      obtain ⟨last, complete⟩ := course.once kept once
      have whole : executions (polls ++ [label]) = executions polls ++ label.2 := by
        simp [executions]
      rw [whole, List.count_append]
      refine ⟨course.extends.repositories.trans kept, ?_, ?_⟩
      · by_cases before : job ∈ executions polls
        · rw [List.count_eq_zero_of_not_mem (course.completed (ended before))]
          exact few
        · rw [List.count_eq_zero_of_not_mem before, Nat.zero_add]
          exact last
      · intro inside
        rcases List.mem_append.mp inside with before | now
        · exact completedOneTime_extends course.extends (ended before)
        · exact complete rfl now

/-- In every poll the executor is invoked only for enabled jobs that are due at its instant, and for
each at most once. With a repository it is invoked at most once in total for a one-time job, in any
polls that return and the one after them, and for none that has ended. -/
theorem polls_execute {start desk : Desk} {polls : List (Poll × List AutomationJob)}
    (distinct : jobs.Nodup) (reached : Run (Returns clocks jobs) start polls desk) (poll : Poll) :
    ((runDue clocks poll jobs desk).executed.Nodup ∧
      ∀ job ∈ (runDue clocks poll jobs desk).executed,
        job ∈ jobs ∧ job.enabled = true ∧ isDue clocks job poll.at_ = .ok true) ∧
    (start.repositories = true → ∀ job, AutomationJob.once job →
      (executions polls ++ (runDue clocks poll jobs desk).executed).count job ≤ 1 ∧
      ((∃ record ∈ desk.records, record.jobId = job.jobId ∧ record.status ∈ completions) →
        job ∉ (runDue clocks poll jobs desk).executed)) := by
  have course := @runDue_course clocks poll jobs desk
  refine ⟨⟨distinct.sublist course.sublist, fun job inside =>
    ⟨course.sublist.subset inside, course.due job inside⟩⟩, fun stored job once => ?_⟩
  obtain ⟨kept, few, ended⟩ := returns_once reached stored once
  refine ⟨?_, fun complete => course.completed ⟨once, kept, complete⟩⟩
  rw [List.count_append]
  by_cases before : job ∈ executions polls
  · rw [List.count_eq_zero_of_not_mem (course.completed (ended before))]
    exact few
  · rw [List.count_eq_zero_of_not_mem before, Nat.zero_add]
    exact (course.once kept once).1

def sampleHourly : AutomationJob :=
  { AutomationRecords.sampleJob false with schedule := ⟨"hourly", none, none⟩ }

def sampleOnce : AutomationJob :=
  { AutomationRecords.sampleJob false with
    jobId := "once"
    schedule := ⟨"once", none, some (AutomationRecords.atUtc sampleMoment)⟩ }

def sampleClocks : Clocks := fun _ at_ => .ok at_

/-- A runner without a repository. -/
def sampleEmpty : Desk := ⟨false, [], [], [], [], []⟩

/-- Half a minute later, on the same clock minute. -/
def sampleLater : Moment := ⟨30000000, by decide⟩

def samplePoll (at_ : Moment) : Poll := ⟨at_, fun _ => sampleTurn⟩

theorem returns_of_isOk (isOk : (runDue clocks poll jobs desk).answer.isOk = true) :
    Returns clocks jobs desk (poll, (runDue clocks poll jobs desk).executed)
      (runDue clocks poll jobs desk).desk := by
  cases answered : (runDue clocks poll jobs desk).answer with
  | error raised =>
      rw [answered] at isOk
      cases isOk
  | ok runs =>
      refine ⟨runs, ?_⟩
      rw [← answered]

/-- The first poll of a one-time job returns, and it has been executed. -/
theorem sampleOnce_polled :
    ((runDue sampleClocks (samplePoll sampleMoment) [sampleOnce] sampleStart).answer.isOk &&
      (runDue sampleClocks (samplePoll sampleMoment) [sampleOnce] sampleStart).executed == [sampleOnce]) = true := by
  decide +kernel

/-- A one-time job is executed in the first of two polls and not in the second. -/
theorem polls_execute_sample : ∃ desk,
    Run (Returns sampleClocks [sampleOnce]) sampleStart [(samplePoll sampleMoment, [sampleOnce])] desk ∧
      sampleOnce ∉ (runDue sampleClocks (samplePoll sampleLater) [sampleOnce] desk).executed := by
  obtain ⟨answered, executed⟩ := Bool.and_eq_true_iff.mp sampleOnce_polled
  have run : Run (Returns sampleClocks [sampleOnce]) sampleStart [(samplePoll sampleMoment, [sampleOnce])] _ :=
    Run.cons (eq_of_beq executed ▸ returns_of_isOk answered) Run.nil
  obtain ⟨-, once⟩ := polls_execute (List.nodup_singleton _) run (samplePoll sampleLater)
  have few := (once rfl sampleOnce rfl).1
  refine ⟨_, run, fun again => ?_⟩
  have twice := List.count_pos_iff.mpr again
  rw [List.count_append, executions, List.flatMap_singleton, List.count_singleton_self] at few
  omega

/-- In two polls of one minute an hourly job is executed twice, and so is a one-time job without a
repository. -/
theorem polls_execute_fails : ∃ first second desk,
    Run (Returns sampleClocks [sampleHourly, sampleOnce]) sampleEmpty
      [(samplePoll sampleMoment, first), (samplePoll sampleLater, second)] desk ∧
    Scheduling.minute sampleMoment = Scheduling.minute sampleLater ∧
    (first ++ second).count sampleHourly = 2 ∧ (first ++ second).count sampleOnce = 2 := by
  refine ⟨_, _, _, Run.cons (returns_of_isOk ?_) (Run.cons (returns_of_isOk ?_) Run.nil), rfl, ?_, ?_⟩
  · rfl
  · rfl
  · rfl
  · rfl

end Hunter.AutomationCalls
