import Hunter.Machine.Run
import Hunter.PredictionEvaluation.Models

/-!
The calls of the prediction-evaluation service. A call reads the current rows and either answers
with one of them or plans rows, each of which names the row that it was made from. The planned
rows are written in one transaction, before which other calls may have written theirs.
-/

namespace Hunter.PredictionEvaluation

open Calendar Fallible
open MarketValidation (blank)

/-- A correctness decision and its calculation, in floating point. -/
abbrev Correctness : Type :=
  PredictionPublication → EvaluationPolicy → OutcomeObservation → Py (Bool × String)

/-- What a call does with what it read. -/
inductive Decision where
  | answered (record : AnalyticalRecord)
  | planned (plans : List AuthorizedAnalyticalWrite)
  deriving DecidableEq

def later (moment : Moment) (seconds : Nat) : Py Moment :=
  match moment.plus (seconds * microsPerSecond) with
  | some moment => .ok moment
  | none => .error .overflowError

def earlier (moment : Moment) (seconds : Nat) : Py Moment :=
  if seconds * microsPerSecond ≤ moment.val then
    .ok ⟨moment.val - seconds * microsPerSecond, Nat.lt_of_le_of_lt (Nat.sub_le _ _) moment.isLt⟩
  else .error .overflowError

def persistPolicy (policy : EvaluationPolicy) (context : EvaluationContext) : Py Decision := do
  let made ← record [("policy_id", .str policy.policyId), ("policy_version", .str policy.policyVersion)]
    context.knownBy context (.policy policy) none (some policy.methodologyVersion) [] [] [] none none
  let write ← authorize made .create
  return .planned [write]

def loadPolicy (stored : Store) (policyId version : String) : Py AnalyticalRecord :=
  match stored.current policyType (policyTarget policyId version) with
  | some record => .ok record
  | none => .error (.authorizationError "bound immutable evaluation policy does not exist")

def validatePublication (publication : PredictionPublication) (policy : EvaluationPolicy) : Py Unit := do
  require (publication.policyId = policy.policyId ∧ publication.policyVersion = policy.policyVersion ∧
      publication.claimType = policy.claimType ∧ publication.entityType = policy.entityType ∧
      publication.operator = policy.allowedOperator ∧
      publication.measurementUnit = policy.measurementUnit)
    (.valueError "publication is incompatible with its bound policy")
  require (policy.comparisonMode = .benchmarkRelative → publication.benchmarkId ≠ none)
    (.valueError "benchmark-relative publication requires benchmark_id")

/-- A correction has to name the current publication, give a reason and come before the due time. -/
def checkCorrection (stored : Store) (publication : PredictionPublication) (context : EvaluationContext)
    (predecessor : Option AnalyticalRecord) (correctionReason : Option String) : Py Unit :=
  match predecessor with
  | some predecessor => do
      require (stored.current publicationType publication.predictionId = some predecessor)
        (.correctionConflict "publication correction must use the current predecessor")
      require (∃ reason ∈ correctionReason, blank reason = false)
        (.valueError "publication correction requires a reason")
      require (context.recordedAt < publication.dueAt)
        (.valueError "prediction contract cannot be corrected at or after its due time")
  | none => require (correctionReason = none) (.valueError "correction_reason requires a predecessor")

def publicationRecord (publication : PredictionPublication) (policyRecord : AnalyticalRecord)
    (context : EvaluationContext) (predecessor : Option AnalyticalRecord)
    (correctionReason : Option String) : Py AnalyticalRecord :=
  record [("prediction_id", .str publication.predictionId), ("predecessor", identityOf predecessor)]
    publication.effectiveAt context (.publication publication policyRecord.id)
    (some publication.modelVersion) (some publication.methodologyVersion)
    (publication.sourceRecordIds ++ [policyRecord.id]) (publication.sourceVersions ++ [schemaVersion])
    ((publication.evidenceReferences ++ publication.baselineEvidenceReferences).dedup.mergeSort (· ≤ ·))
    predecessor correctionReason

def evaluationRecord (publication policy : AnalyticalRecord) (state : LifecycleState)
    (context : EvaluationContext) (predecessor : Option AnalyticalRecord) (reason : String)
    (outcome : Option OutcomeObservation) (correctness : Option Bool) (correctionReason : Option String) :
    Py AnalyticalRecord := do
  let native ← publication.native
  let evaluation : Evaluation :=
    { predictionId := publication.targetIdentity
      state
      reason
      correctness
      publicationRecordId := publication.id
      policyRecordId := policy.id
      policyId := native.policyId
      policyVersion := native.policyVersion
      modelVersion := publication.modelVersion
      methodologyVersion := native.methodologyVersion
      configurationVersion := native.configurationVersion
      forecastProbability := native.forecastProbability
      outcome }
  record [("prediction_id", .str publication.targetIdentity), ("state", .str state.text),
      ("predecessor", identityOf predecessor)]
    ((outcome.map OutcomeObservation.effectiveAt).getD publication.effectiveAt) context
    (.evaluation evaluation) publication.modelVersion publication.methodologyFingerprint
    ([publication.id, policy.id] ++ (outcome.map OutcomeObservation.observationId).toList)
    ([schemaVersion, schemaVersion] ++ (outcome.map OutcomeObservation.sourceVersion).toList)
    ((outcome.map OutcomeObservation.evidenceReferences).getD publication.evidenceReferences)
    predecessor correctionReason

def publish (stored : Store) (publication : PredictionPublication) (context : EvaluationContext)
    (predecessorPublication : Option AnalyticalRecord) (correctionReason : Option String) :
    Py Decision := do
  require (publication.recordedAt = context.recordedAt ∧ publication.knownAt = context.knownBy)
    (.valueError "publication clocks must equal the service authorization context")
  let policyRecord ← loadPolicy stored publication.policyId publication.policyVersion
  let policy ← policyRecord.policy
  require (policyRecord.recordedAt ≤ publication.publishedAt ∧ policyRecord.knownAt ≤ publication.knownAt)
    (.valueError "bound policy was not strict-known before prediction publication")
  validatePublication publication policy
  checkCorrection stored publication context predecessorPublication correctionReason
  let corrected ← publicationRecord publication policyRecord context predecessorPublication correctionReason
  let initialPredecessor := if predecessorPublication.isSome then
    stored.current evaluationType publication.predictionId else none
  let initial ← evaluationRecord corrected policyRecord .pending context initialPredecessor
    "canonical publication accepted" none none (if initialPredecessor.isSome then correctionReason else none)
  let first ← authorize corrected (if predecessorPublication.isSome then .correct else .create)
  let second ← authorize initial (if initialPredecessor.isSome then .correct else .create)
  return .planned [first, second]

/-- The publication, the policy and the evaluation that are current. -/
def currentBundle (stored : Store) (predictionId : String) :
    Py (AnalyticalRecord × AnalyticalRecord × AnalyticalRecord) :=
  match stored.current publicationType predictionId, stored.current evaluationType predictionId with
  | some publication, some evaluation => do
      let native ← publication.native
      let policy ← loadPolicy stored native.policyId native.policyVersion
      return (publication, policy, evaluation)
  | _, _ => .error (.lookupError "canonical prediction publication/lifecycle does not exist")

def requireTransition (current : AnalyticalRecord) (target : LifecycleState) : Py Unit := do
  let state ← current.state
  require (target ∈ state.allowedTransitions)
    (.valueError ("invalid prediction-evaluation transition: " ++ state.text ++ " -> " ++ target.text))

/-- The current record is followed by one in the target state. -/
def advance (publication policy current : AnalyticalRecord) (target : LifecycleState)
    (context : EvaluationContext) (reason : String) (outcome : Option OutcomeObservation)
    (correctionReason : String) : Py Decision := do
  let successor ← evaluationRecord publication policy target context (some current) reason outcome none
    (some correctionReason)
  let write ← authorize successor .correct
  return .planned [write]

/-- A prediction becomes due no earlier than its publication says. -/
def checkDue (publication : AnalyticalRecord) (target : LifecycleState) (context : EvaluationContext) :
    Py Unit := do
  let native ← publication.native
  require (target = .due → publication.effectiveAt ≤ context.recordedAt)
    (.valueError "transition context cannot precede publication")
  require (target = .due → native.dueAt ≤ context.recordedAt) (.valueError "prediction is not due")

def transition (stored : Store) (predictionId : String) (target : LifecycleState)
    (context : EvaluationContext) (reason : String) : Py Decision := do
  require (target ∉ [.evaluable, .evaluatedCorrect, .evaluatedIncorrect])
    (.valueError "outcome-dependent states require evaluate()")
  let (publication, policy, current) ← currentBundle stored predictionId
  if current.state? = some target then return .answered current
  else do
    requireTransition current target
    checkDue publication target context
    let state ← current.state
    advance publication policy current target context reason none
      ("lifecycle transition: " ++ state.text ++ " -> " ++ target.text)

def withinWindow (due : Moment) (seconds : Nat) (effectiveAt : Moment) : Py Bool := do
  let opens ← earlier due seconds
  if opens ≤ effectiveAt then do
    let closes ← later due seconds
    return effectiveAt ≤ closes
  else return false

def outcomeEligibility (native : PredictionPublication) (policy : EvaluationPolicy)
    (outcome : Option OutcomeObservation) (context : EvaluationContext) (deadline : Moment) :
    Py (LifecycleState × String) :=
  match outcome with
  | none => .ok (if deadline < context.recordedAt then (.unevaluable, "outcome data deadline passed")
      else (.awaitingData, "authorized outcome is not yet available"))
  | some outcome =>
      if outcome.targetId ≠ native.targetId ∨ outcome.entityType ≠ native.entityType ∨
          outcome.sourceType ≠ policy.outcomeSourceType ∨
          outcome.sourceVersion ≠ policy.outcomeSourceVersion ∨
          outcome.measurementUnit ≠ policy.measurementUnit then
        .ok (.invalidated, "outcome target, source, version, entity, or units violate the bound policy")
      else match outcome.knownAt with
      | none => .ok (.unevaluable, "outcome has unknown known-time provenance")
      | some knownAt =>
          if context.knownBy < outcome.recordedAt ∨ context.knownBy < knownAt then
            .ok (if deadline < context.recordedAt then
                (.unevaluable, "outcome was unavailable by the declared data deadline")
              else (.awaitingData, "outcome is post-cutoff"))
          else do
            let inside ← withinWindow native.dueAt policy.observationWindowSeconds outcome.effectiveAt
            if inside = false then
              return (.unevaluable, "outcome observation is outside the policy window")
            else if policy.comparisonMode = .benchmarkRelative ∧
                (outcome.benchmarkId ≠ native.benchmarkId ∨ outcome.benchmarkValue = none) then
              return (.unevaluable, "compatible benchmark observation is unavailable")
            else return (.evaluable, "compatible strict-known outcome selected")

def correctnessOf (correctness : Correctness) (native : PredictionPublication) (policy : EvaluationPolicy)
    (outcome : Option OutcomeObservation) : Py (Bool × String) :=
  match outcome with
  | none => .error (.valueError "correctness requires an outcome")
  | some outcome => correctness native policy outcome

/-- The record that the outcome was selected, and the verdict on it. -/
def verdictRecords (correctness : Correctness) (publication policyRecord : AnalyticalRecord)
    (context : EvaluationContext) (current : AnalyticalRecord) (outcome : Option OutcomeObservation) :
    Py (AnalyticalRecord × AnalyticalRecord) := do
  let native ← publication.native
  let policy ← policyRecord.policy
  let evaluable ← evaluationRecord publication policyRecord .evaluable context (some current)
    "compatible strict-known outcome selected" outcome none (some "authorized outcome selection")
  let (correct, calculation) ← correctnessOf correctness native policy outcome
  let terminalState := if correct then .evaluatedCorrect else .evaluatedIncorrect
  let terminal ← evaluationRecord publication policyRecord terminalState context (some evaluable)
    calculation outcome (some correct) (some "deterministic policy evaluation")
  return (evaluable, terminal)

def evaluate (correctness : Correctness) (stored : Store) (predictionId : String)
    (outcome : Option OutcomeObservation) (context : EvaluationContext) : Py Decision := do
  let (publication, policyRecord, current) ← currentBundle stored predictionId
  let currentState ← current.state
  if currentState ∈ [.evaluatedCorrect, .evaluatedIncorrect] then return .answered current
  else do
    require (currentState ∈ [.due, .awaitingData])
      (.valueError "prediction must be due or awaiting-data before evaluation")
    let policy ← policyRecord.policy
    let native ← publication.native
    let deadline ← later native.dueAt policy.outcomeDataDeadlineSeconds
    let (targetState, reason) ← outcomeEligibility native policy outcome context deadline
    if targetState ≠ .evaluable then
      if currentState = targetState then return .answered current
      else do
        requireTransition current targetState
        advance publication policyRecord current targetState context reason outcome
          ("evaluation eligibility: " ++ reason)
    else do
      let (evaluable, terminal) ← verdictRecords correctness publication policyRecord context current outcome
      let first ← authorize evaluable .correct
      let second ← authorize terminal .correct
      return .planned [first, second]

inductive Call where
  | persistPolicy (policy : EvaluationPolicy) (context : EvaluationContext)
  | publish (publication : PredictionPublication) (context : EvaluationContext)
      (predecessorPublication : Option AnalyticalRecord) (correctionReason : Option String)
  | transition (predictionId : String) (target : LifecycleState) (context : EvaluationContext)
      (reason : String)
  | evaluate (predictionId : String) (outcome : Option OutcomeObservation) (context : EvaluationContext)

def Call.decide (correctness : Correctness) (stored : Store) : Call → Py Decision
  | persistPolicy policy context => PredictionEvaluation.persistPolicy policy context
  | publish publication context predecessor reason =>
      PredictionEvaluation.publish stored publication context predecessor reason
  | transition predictionId target context reason =>
      PredictionEvaluation.transition stored predictionId target context reason
  | evaluate predictionId outcome context =>
      PredictionEvaluation.evaluate correctness stored predictionId outcome context

/-- The store, and the rows of the calls that have read and not yet written. -/
structure State where
  stored : Store
  pending : List (List AuthorizedAnalyticalWrite)

def State.initial : State := ⟨[], []⟩

inductive Event where
  | read (call : Call)
  | write (plans : List AuthorizedAnalyticalWrite)
  /-- Snapshots of aggregates, which other calls write. -/
  | aggregate (plans : List AuthorizedAnalyticalWrite)

/-- The store after a transaction. An exception rolls it back. -/
def written (stored : Store) (plans : List AuthorizedAnalyticalWrite) : Store :=
  match stored.persistMany plans with
  | .ok after => after
  | .error _ => stored

def plansOf : Py Decision → List (List AuthorizedAnalyticalWrite)
  | .ok (.planned plans) => [plans]
  | _ => []

def isSnapshot (record : AnalyticalRecord) : Prop :=
  record.semanticType = accuracyType ∨ record.semanticType = calibrationType

inductive Step (correctness : Correctness) : State → Event → State → Prop where
  | read {state : State} {call : Call} : Step correctness state (.read call)
      ⟨state.stored, plansOf (call.decide correctness state.stored) ++ state.pending⟩
  | write {state : State} {front back : List (List AuthorizedAnalyticalWrite)}
      {plans : List AuthorizedAnalyticalWrite} (waiting : state.pending = front ++ plans :: back) :
      Step correctness state (.write plans) ⟨written state.stored plans, front ++ back⟩
  | aggregate {state : State} {plans : List AuthorizedAnalyticalWrite}
      (snapshots : ∀ plan ∈ plans, isSnapshot plan.record) :
      Step correctness state (.aggregate plans) ⟨written state.stored plans, state.pending⟩

end Hunter.PredictionEvaluation
