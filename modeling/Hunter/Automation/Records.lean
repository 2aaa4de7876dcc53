import Hunter.Automation.Schedule
import Hunter.Execution.AsciiJson
import Hunter.Text.DecimalText

/-!
The records that automation jobs and runs are stored as, and how they are read back. The policies of
a job become untyped mappings and its kind becomes a member of its metadata. One option of the
pipeline is written but not read, and a member of the metadata that is named as the kind is lost.
-/

namespace Hunter.AutomationRecords

open Calendar Execution Fallible
open Scheduling (Zone)

inductive Raised where
  | valueError
  | overflowError
  | typeError
  | validationError
  | serializationError
  deriving DecidableEq, Repr

/-- A time with its offset from UTC. -/
structure Aware where
  clock : Moment
  zone : Zone
  deriving DecidableEq

/-- `astimezone(UTC)`. -/
def Aware.utc (time : Aware) : Except Raised Moment :=
  match time.clock.utc time.zone.val with
  | some moment => .ok moment
  | none => .error .overflowError

/-- `±HH:MM`, with the seconds and their fraction where there are any. -/
def offsetText (zone : Zone) : List Char :=
  let micros := zone.val.natAbs
  let seconds := micros / 1000000
  let fraction := if micros % 1000000 = 0 then [] else '.' :: padded 6 (micros % 1000000)
  let tail := if micros % 60000000 = 0 then [] else ':' :: (padded 2 (seconds % 60) ++ fraction)
  (if zone.val < 0 then '-' else '+') ::
    (padded 2 (seconds / 3600) ++ ':' :: (padded 2 (seconds / 60 % 60) ++ tail))

def Aware.isoformat (time : Aware) : String :=
  let fraction := if time.clock.val % 1000000 = 0 then [] else '.' :: padded 6 (time.clock.val % 1000000)
  String.ofList (dateText (time.clock.val / 1000000 / 86400)
    (time.clock.clockText fraction ++ offsetText time.zone))

/-- `datetime.fromisoformat` of a text that has an offset. -/
def readAware (text : String) : Except Raised Aware :=
  match fromisoformat text.scalars with
  | some (clock, some offset) =>
      if h : -(microsPerDay : Int) < offset ∧ offset < microsPerDay then .ok ⟨clock, offset, h⟩
      else .error .valueError
  | _ => .error .valueError

/-- `text.replace("Z", "+00:00")`. -/
def replaceZulu (text : List Char) : List Char :=
  text.flatMap fun c => if c = 'Z' then ['+', '0', '0', ':', '0', '0'] else [c]

/-- `_datetime`. -/
def readMoment (text : String) : Except Raised Moment :=
  match readAware (String.ofList (replaceZulu text.scalars)) with
  | .ok time => time.utc
  | .error _ => .error .serializationError

abbrev Fields : Type := List (String × Json)

structure AutomationSchedule where
  scheduleType : String
  expression : Option String
  runAt : Option Aware
  deriving DecidableEq

structure TargetSelection where
  targetType : String
  targetId : String
  deriving DecidableEq

structure PipelineOptions where
  runIntelligence : Bool
  runFusion : Bool
  runOpportunityTiming : Bool
  runInvestmentCommittee : Bool
  selectedEngines : List String
  generateReports : Bool
  evaluateAlerts : Bool
  deriving DecidableEq

/-- The instant is kept in UTC. -/
structure AsOfPolicy where
  mode : String
  asOf : Option Moment
  deriving DecidableEq

structure ConcurrencyPolicy where
  preventOverlapping : Bool
  scope : String
  deriving DecidableEq

/-- The members of a metadata mapping stand in the order of their names. -/
structure AutomationJob where
  jobId : String
  name : String
  enabled : Bool
  schedule : AutomationSchedule
  timezone : String
  target : TargetSelection
  runType : String
  pipelineOptions : PipelineOptions
  persistencePolicy : String
  asOfPolicy : AsOfPolicy
  timeoutSeconds : Option Int
  concurrencyPolicy : ConcurrencyPolicy
  jobKind : String
  metadata : Fields
  deriving DecidableEq

/-- `_text`. -/
def visible (text : String) : Bool := Chars.strip text.scalars ≠ []

def scalar : Json → Bool
  | .arr _ | .obj _ => false
  | _ => true

def AutomationSchedule.construct (schedule : AutomationSchedule) :
    Except Raised AutomationSchedule := do
  require (schedule.scheduleType = "cron" → schedule.expression.getD "" ≠ "") .valueError
  if schedule.scheduleType = "once" then
    match schedule.runAt with
    | none => .error .valueError
    | some runAt => do
        let _ ← runAt.utc
        .ok schedule
  else .ok schedule

def TargetSelection.construct (target : TargetSelection) : Except Raised TargetSelection := do
  require (visible target.targetType ∧ visible target.targetId) .valueError
  .ok target

def AsOfPolicy.construct (policy : AsOfPolicy) : Except Raised AsOfPolicy := do
  require (policy.mode ∈ ["replay", "backtest"] → policy.asOf.isSome) .valueError
  .ok policy

/-- The constructors of a job and of its parts, with the zones that there are. -/
def AutomationJob.construct (knownZone : String → Bool) (job : AutomationJob) :
    Except Raised AutomationJob := do
  let schedule ← job.schedule.construct
  let target ← job.target.construct
  let asOfPolicy ← job.asOfPolicy.construct
  require (∀ text ∈ [job.jobId, job.name, job.timezone, job.runType, job.persistencePolicy, job.jobKind],
    visible text) .valueError
  require (knownZone job.timezone) .valueError
  require (∀ seconds ∈ job.timeoutSeconds, 0 < seconds) .valueError
  .ok { job with schedule := schedule, target := target, asOfPolicy := asOfPolicy }

/-- The canonical form of a scalar. A float is the decimal of its shortest text. -/
def normalizeScalar : Json → Json
  | .int n => Canonical.int n
  | .float text => Canonical.tagged "decimal" [("value",
      .str (String.ofList (((Decimal.ofText text.val).bind Decimal.text).getD [])))]
  | j => j

def optional {α : Type} (encode : α → Json) : Option α → Json
  | some value => encode value
  | none => .null

def PipelineOptions.members (options : PipelineOptions) (sequence : List Json → Json) : Fields := [
  ("run_intelligence", .bool options.runIntelligence),
  ("run_fusion", .bool options.runFusion),
  ("run_opportunity_timing", .bool options.runOpportunityTiming),
  ("run_investment_committee", .bool options.runInvestmentCommittee),
  ("selected_engines", sequence (options.selectedEngines.map .str)),
  ("generate_reports", .bool options.generateReports),
  ("evaluate_alerts", .bool options.evaluateAlerts)]

def ConcurrencyPolicy.members (policy : ConcurrencyPolicy) : Fields := [
  ("prevent_overlapping", .bool policy.preventOverlapping),
  ("scope", .str policy.scope)]

/-- `job_definition_id`. -/
def jobDefinitionId (job : AutomationJob) : Except Raised String := do
  let runAt ← match job.schedule.runAt with
    | some runAt => do
        let moment ← runAt.utc
        .ok (Canonical.datetime moment)
    | none => .ok .null
  .ok (identity "automation-job-definition" (Canonical.mapping [
    ("job_id", .str job.jobId),
    ("name", .str job.name),
    ("enabled", .bool job.enabled),
    ("schedule", Canonical.mapping [
      ("type", .str job.schedule.scheduleType),
      ("expression", optional .str job.schedule.expression),
      ("run_at", runAt)]),
    ("timezone", .str job.timezone),
    ("target", Canonical.mapping [
      ("type", .str job.target.targetType),
      ("id", .str job.target.targetId)]),
    ("run_type", .str job.runType),
    ("pipeline_options",
      Canonical.dataclass "PipelineOptions" (job.pipelineOptions.members Canonical.sequence)),
    ("persistence_policy", .str job.persistencePolicy),
    ("as_of_policy", Canonical.dataclass "AsOfPolicy" [
      ("mode", .str job.asOfPolicy.mode),
      ("as_of", optional Canonical.datetime job.asOfPolicy.asOf)]),
    ("timeout_seconds", optional Canonical.int job.timeoutSeconds),
    ("concurrency_policy", Canonical.dataclass "ConcurrencyPolicy" job.concurrencyPolicy.members),
    ("job_kind", .str job.jobKind),
    ("metadata", Canonical.mapping (job.metadata.map fun (name, value) => (name, normalizeScalar value))),
    ("identity_schema_version", .str "automation-job-definition-v1")]))

structure AutomationJobRecord where
  id : String
  createdAt : Moment
  effectiveAt : Moment
  metadata : Fields
  jobId : String
  name : String
  enabled : Bool
  schedule : Fields
  timezone : String
  target : Fields
  runType : String
  pipelineOptions : Fields
  persistencePolicy : String
  asOfPolicy : Fields
  timeoutSeconds : Option Int
  concurrencyPolicy : Fields
  deriving DecidableEq

/-- `__post_init__`: the mappings are frozen in the order of their names. -/
def AutomationJobRecord.construct (record : AutomationJobRecord) : Except Raised AutomationJobRecord := do
  require (visible record.id) .validationError
  require (∀ member ∈ record.metadata, scalar member.2) .validationError
  require (∀ text ∈ [record.jobId, record.name, record.timezone, record.runType,
    record.persistencePolicy], visible text) .validationError
  require (∀ seconds ∈ record.timeoutSeconds, 0 < seconds) .validationError
  .ok { record with
    schedule := Json.canonFields record.schedule
    target := Json.canonFields record.target
    pipelineOptions := Json.canonFields record.pipelineOptions
    asOfPolicy := Json.canonFields record.asOfPolicy
    concurrencyPolicy := Json.canonFields record.concurrencyPolicy }

/-- `job_to_record`. -/
def jobToRecord (job : AutomationJob) (createdAt : Moment) : Except Raised AutomationJobRecord := do
  let id ← jobDefinitionId job
  AutomationJobRecord.construct {
    id := id
    createdAt := createdAt
    effectiveAt := createdAt
    jobId := job.jobId
    name := job.name
    enabled := job.enabled
    schedule := [
      ("type", .str job.schedule.scheduleType),
      ("expression", optional .str job.schedule.expression),
      ("run_at", optional (fun time => .str time.isoformat) job.schedule.runAt)]
    timezone := job.timezone
    target := [("type", .str job.target.targetType), ("id", .str job.target.targetId)]
    runType := job.runType
    pipelineOptions := job.pipelineOptions.members .arr
    persistencePolicy := job.persistencePolicy
    asOfPolicy := [
      ("mode", .str job.asOfPolicy.mode),
      ("as_of", optional (fun moment => .str moment.isoformat) job.asOfPolicy.asOf)]
    timeoutSeconds := job.timeoutSeconds
    concurrencyPolicy := job.concurrencyPolicy.members
    metadata := Json.canonFields (job.metadata ++ [("job_kind", .str job.jobKind)]) }

def schemaVersion : String := "persistence-record-v1"

def moment (value : Moment) : Json := .str (Canonical.datetimeText value)

def AutomationJobRecord.fields (record : AutomationJobRecord) : Fields := [
  ("id", .str record.id),
  ("schema_version", .str schemaVersion),
  ("created_at", moment record.createdAt),
  ("effective_at", moment record.effectiveAt),
  ("metadata", .obj record.metadata),
  ("job_id", .str record.jobId),
  ("name", .str record.name),
  ("enabled", .bool record.enabled),
  ("schedule", .obj record.schedule),
  ("timezone", .str record.timezone),
  ("target", .obj record.target),
  ("run_type", .str record.runType),
  ("pipeline_options", .obj record.pipelineOptions),
  ("persistence_policy", .str record.persistencePolicy),
  ("as_of_policy", .obj record.asOfPolicy),
  ("timeout_seconds", optional .int record.timeoutSeconds),
  ("concurrency_policy", .obj record.concurrencyPolicy)]

structure AutomationRun where
  automationRunId : String
  jobId : String
  scheduledFor : Moment
  status : String
  pipelineRunId : Option String
  operationalAttemptId : Option String
  startedAt : Option Moment
  finishedAt : Option Moment
  errorSummary : Option String
  warningSummary : Option String
  metadata : Fields
  deriving DecidableEq

/-- `__post_init__`. -/
def AutomationRun.construct (run : AutomationRun) : Except Raised AutomationRun := do
  require (visible run.automationRunId ∧ visible run.jobId) .valueError
  .ok run

structure AutomationRunRecord where
  id : String
  createdAt : Moment
  effectiveAt : Moment
  metadata : Fields
  automationRunId : String
  jobId : String
  scheduledFor : Moment
  status : String
  pipelineRunId : Option String
  operationalAttemptId : Option String
  startedAt : Option Moment
  finishedAt : Option Moment
  errorSummary : Option String
  warningSummary : Option String
  deriving DecidableEq

def AutomationRunRecord.construct (record : AutomationRunRecord) : Except Raised AutomationRunRecord := do
  require (visible record.id) .validationError
  require (∀ member ∈ record.metadata, scalar member.2) .validationError
  require (∀ text ∈ [record.automationRunId, record.jobId, record.status], visible text) .validationError
  .ok record

def AutomationRunRecord.fields (record : AutomationRunRecord) : Fields := [
  ("id", .str record.id),
  ("schema_version", .str schemaVersion),
  ("created_at", moment record.createdAt),
  ("effective_at", moment record.effectiveAt),
  ("metadata", .obj record.metadata),
  ("automation_run_id", .str record.automationRunId),
  ("job_id", .str record.jobId),
  ("scheduled_for", moment record.scheduledFor),
  ("status", .str record.status),
  ("pipeline_run_id", optional .str record.pipelineRunId),
  ("operational_attempt_id", optional .str record.operationalAttemptId),
  ("started_at", optional moment record.startedAt),
  ("finished_at", optional moment record.finishedAt),
  ("error_summary", optional .str record.errorSummary),
  ("warning_summary", optional .str record.warningSummary)]

/-- A field of a stored record. Nothing is stored that is of another type. -/
def field {α : Type} (read : Json → Option α) (fields : Json) (name : String) : Except Raised α :=
  match (fields.get? name).bind read with
  | some value => .ok value
  | none => .error .typeError

def text? : Json → Option String
  | .str text => some text
  | _ => none

def int? : Json → Option (Option Int)
  | .int n => some (some n)
  | .null => some none
  | _ => none

def readTime (fields : Json) (name : String) : Except Raised Moment := do
  let text ← field text? fields name
  readMoment text

def utcZone : Zone := ⟨0, Scheduling.utc_within⟩

/-- A time in UTC. -/
def atUtc (value : Moment) : Aware := ⟨value, utcZone⟩

/-- The mappings of a record in the order of their names, the metadata as well. -/
def AutomationJobRecord.canon (record : AutomationJobRecord) : AutomationJobRecord :=
  { record with
    metadata := Json.canonFields record.metadata
    schedule := Json.canonFields record.schedule
    target := Json.canonFields record.target
    pipelineOptions := Json.canonFields record.pipelineOptions
    asOfPolicy := Json.canonFields record.asOfPolicy
    concurrencyPolicy := Json.canonFields record.concurrencyPolicy }

/-- What the constructor of a record checks. -/
def AutomationJobRecord.Accepted (record : AutomationJobRecord) : Prop :=
  visible record.id ∧ (∀ member ∈ record.metadata, scalar member.2) ∧
    (∀ text ∈ [record.jobId, record.name, record.timezone, record.runType, record.persistencePolicy],
      visible text) ∧
    ∀ seconds ∈ record.timeoutSeconds, 0 < seconds

theorem AutomationJobRecord.construct_ok {record result : AutomationJobRecord} :
    record.construct = .ok result ↔ record.Accepted ∧ result = { record with
      schedule := Json.canonFields record.schedule
      target := Json.canonFields record.target
      pipelineOptions := Json.canonFields record.pipelineOptions
      asOfPolicy := Json.canonFields record.asOfPolicy
      concurrencyPolicy := Json.canonFields record.concurrencyPolicy } := by
  rw [AutomationJobRecord.construct, require_bind_ok, require_bind_ok, require_bind_ok, require_bind_ok,
    Except.ok.injEq, AutomationJobRecord.Accepted, @eq_comm _ result, and_assoc, and_assoc, and_assoc]

/-- The record before its mappings are frozen. -/
def openRecord (job : AutomationJob) (id : String) (createdAt : Moment) : AutomationJobRecord where
  id := id
  createdAt := createdAt
  effectiveAt := createdAt
  jobId := job.jobId
  name := job.name
  enabled := job.enabled
  schedule := [
    ("type", .str job.schedule.scheduleType),
    ("expression", optional .str job.schedule.expression),
    ("run_at", optional (fun time => .str time.isoformat) job.schedule.runAt)]
  timezone := job.timezone
  target := [("type", .str job.target.targetType), ("id", .str job.target.targetId)]
  runType := job.runType
  pipelineOptions := job.pipelineOptions.members .arr
  persistencePolicy := job.persistencePolicy
  asOfPolicy := [
    ("mode", .str job.asOfPolicy.mode),
    ("as_of", optional (fun moment => .str moment.isoformat) job.asOfPolicy.asOf)]
  timeoutSeconds := job.timeoutSeconds
  concurrencyPolicy := job.concurrencyPolicy.members
  metadata := Json.canonFields (job.metadata ++ [("job_kind", .str job.jobKind)])

/-- A job without what is lost on the way. -/
def AutomationJob.kept (job : AutomationJob) : AutomationJob :=
  { job with
    pipelineOptions := { job.pipelineOptions with runInvestmentCommittee := false }
    metadata := (Json.canonFields job.metadata).filter fun member => member.1 ≠ "job_kind" }

theorem AutomationJob.construct_ok {knownZone : String → Bool} {job result : AutomationJob} :
    job.construct knownZone = .ok result ↔ ∃ schedule, job.schedule.construct = .ok schedule ∧
      ∃ target, job.target.construct = .ok target ∧ ∃ policy, job.asOfPolicy.construct = .ok policy ∧
        (∀ text ∈ [job.jobId, job.name, job.timezone, job.runType, job.persistencePolicy, job.jobKind],
          visible text) ∧ knownZone job.timezone ∧ (∀ seconds ∈ job.timeoutSeconds, 0 < seconds) ∧
        { job with schedule := schedule, target := target, asOfPolicy := policy } = result := by
  rw [AutomationJob.construct, bind_ok]
  refine exists_congr fun schedule => and_congr_right fun _ => ?_
  rw [bind_ok]
  refine exists_congr fun target => and_congr_right fun _ => ?_
  rw [bind_ok]
  refine exists_congr fun policy => and_congr_right fun _ => ?_
  rw [require_bind_ok, require_bind_ok, require_bind_ok, Except.ok.injEq]

theorem AutomationRunRecord.construct_ok {record result : AutomationRunRecord} :
    record.construct = .ok result ↔ visible record.id ∧ (∀ member ∈ record.metadata, scalar member.2) ∧
      (∀ text ∈ [record.automationRunId, record.jobId, record.status], visible text) ∧ record = result := by
  rw [AutomationRunRecord.construct, require_bind_ok, require_bind_ok, require_bind_ok, Except.ok.injEq]

/-- A job with its metadata in the order of the names. -/
def AutomationJob.canon (job : AutomationJob) : AutomationJob :=
  { job with metadata := Json.canonFields job.metadata }

def sampleJob (committee : Bool) : AutomationJob where
  jobId := "job"
  name := "Daily review"
  enabled := true
  schedule := ⟨"daily", none, none⟩
  timezone := "UTC"
  target := ⟨"project", "global-crypto"⟩
  runType := "pipeline"
  pipelineOptions := {
    runIntelligence := true
    runFusion := true
    runOpportunityTiming := false
    runInvestmentCommittee := committee
    selectedEngines := ["team"]
    generateReports := true
    evaluateAlerts := false }
  persistencePolicy := "atomic"
  asOfPolicy := ⟨"current", none⟩
  timeoutSeconds := some 60
  concurrencyPolicy := ⟨true, "job_target"⟩
  jobKind := "current_state_pipeline"
  metadata := [("owner", .str "research")]

def sampleMoment : Moment := ⟨0, Calendar.zero_lt_end⟩

def sampleRun : AutomationRun where
  automationRunId := "run"
  jobId := "job"
  scheduledFor := sampleMoment
  status := "succeeded"
  pipelineRunId := some "pipeline"
  operationalAttemptId := none
  startedAt := some sampleMoment
  finishedAt := none
  errorSummary := none
  warningSummary := some "late"
  metadata := [("attempt", .int 1)]

theorem visible_identity {nameSpace : String} {payload : Json} {c : Char} {rest : List Char}
    (start : nameSpace.toList = c :: rest) (plain : Chars.isSpace c = false) :
    visible (identity nameSpace payload) := by
  have first : (identity nameSpace payload).toList.head? = some c := identity_head start
  have member : c ∈ (identity nameSpace payload).scalars := by
    rw [String.scalars_eq_toList]
    exact List.mem_of_mem_head? first
  exact decide_eq_true (Chars.strip_ne_nil_of_mem member plain)

theorem sampleJob_stored (committee : Bool) :
    ∃ record, jobToRecord (sampleJob committee) sampleMoment = .ok record := by
  have named (payload : Json) : visible (identity "automation-job-definition" payload) :=
    visible_identity (show "automation-job-definition".toList = 'a' :: _ from rfl) rfl
  have identified : ∃ payload, jobDefinitionId (sampleJob committee) =
      .ok (identity "automation-job-definition" payload) := ⟨_, rfl⟩
  obtain ⟨payload, identified⟩ := identified
  have accepted : (openRecord (sampleJob committee) (identity "automation-job-definition" payload)
      sampleMoment).Accepted := by
    refine ⟨named payload, ?_, ?_, ?_⟩
    · exact (show ∀ member ∈ Json.canonFields [("owner", .str "research"),
        ("job_kind", .str "current_state_pipeline")], scalar member.2 = true by decide)
    · exact (show ∀ text ∈ ["job", "Daily review", "UTC", "pipeline", "atomic"], visible text = true by decide)
    · exact (show ∀ seconds ∈ some (60 : Int), 0 < seconds by decide)
  refine ⟨_, bind_ok.mpr ⟨_, identified, AutomationJobRecord.construct_ok.mpr ⟨accepted, rfl⟩⟩⟩

end Hunter.AutomationRecords
