import Hunter.PredictionEvaluation.Verdict

/-!
Evaluations at other times. The records of two evaluations that both find the outcome
recorded and known differ in their clocks only, and are written or refused alike.
-/

namespace Hunter.PredictionEvaluation

open Calendar Fallible
open MarketValidation (blank)

variable {correctness : Correctness} {stored : Store} {predictionId : String}

/-- The arithmetic and the text of floating-point numbers. -/
structure Floats (F : Type) where
  float : Decimal → F
  add : F → F → F
  sub : F → F → F
  abs : F → F
  round : F → Nat → F
  lt : F → F → Bool
  le : F → F → Bool
  text : F → String

def ComparisonOperator.text : ComparisonOperator → String
  | gt => "gt"
  | gte => "gte"
  | lt => "lt"
  | lte => "lte"
  | eq => "eq"

def measured {F : Type} (floats : Floats F) (native : PredictionPublication) (policy : EvaluationPolicy)
    (outcome : OutcomeObservation) : Py F :=
  match policy.comparisonMode with
  | .absoluteThreshold => .ok (floats.float outcome.value)
  | .changeFromBaseline => .ok (floats.sub (floats.float outcome.value) (floats.float native.baselineValue))
  | .benchmarkRelative =>
      match outcome.benchmarkValue with
      | none => .error (.valueError "benchmark-relative correctness requires benchmark value")
      | some benchmark => .ok (floats.sub (floats.float outcome.value) (floats.float benchmark))

/-- `_correctness`. -/
def comparison {F : Type} (floats : Floats F) : Correctness := fun native policy outcome => do
  let value ← measured floats native policy outcome
  let value := floats.round value policy.requiredPrecision
  let threshold := floats.round (floats.float native.threshold) policy.requiredPrecision
  let tolerance := floats.float policy.tolerance
  let result := match native.operator with
    | .gt => floats.lt (floats.add threshold tolerance) value
    | .gte => floats.le (floats.sub threshold tolerance) value
    | .lt => floats.lt value (floats.sub threshold tolerance)
    | .lte => floats.le value (floats.add threshold tolerance)
    | .eq => floats.le (floats.abs (floats.sub value threshold)) tolerance
  let operator := native.operator.text
  return (result, floats.text value ++ " " ++ operator ++ " " ++ floats.text threshold ++
    " with tolerance " ++ floats.text tolerance ++ " -> " ++ if result then "True" else "False")

/-- What is written for a decision, and the last record of it. -/
def conclude (stored : Store) : Decision → Py (Option AnalyticalRecord × Store)
  | .answered record => .ok (some record, stored)
  | .planned plans => do
      let after ← stored.persistMany plans
      return (plans.getLast?.map AuthorizedAnalyticalWrite.record, after)

/-- `evaluate` with its writes. -/
def evaluated (correctness : Correctness) (stored : Store) (predictionId : String)
    (outcome : Option OutcomeObservation) (context : EvaluationContext) :
    Py (Option AnalyticalRecord × Store) := do
  let decision ← evaluate correctness stored predictionId outcome context
  conclude stored decision

/-- The kind of a result and its correctness. -/
def reached (record : AnalyticalRecord) : Option (LifecycleState × Option Bool) :=
  match record.payload with
  | .evaluation lifecycle => some (lifecycle.state, lifecycle.correctness)
  | _ => none

def result (returned : Option AnalyticalRecord × Store) : Option (LifecycleState × Option Bool) :=
  returned.1.bind reached

/-- The outcome is recorded and known at the evaluation. -/
def Observed (outcome : OutcomeObservation) (context : EvaluationContext) : Prop :=
  outcome.recordedAt ≤ context.knownBy ∧ ∃ known ∈ outcome.knownAt, known ≤ context.knownBy

section

variable (context : EvaluationContext)

def AnalyticalRecord.retimed (record : AnalyticalRecord) : AnalyticalRecord :=
  { record with createdAt := context.recordedAt, knownAt := context.knownBy }

def AuthorizedAnalyticalWrite.retimed (plan : AuthorizedAnalyticalWrite) : AuthorizedAnalyticalWrite :=
  { plan with record := plan.record.retimed context }

def Decision.retimed : Decision → Decision
  | .answered record => .answered record
  | .planned plans => .planned (plans.map (AuthorizedAnalyticalWrite.retimed context))

theorem AnalyticalRecord.check_retimed (record : AnalyticalRecord) :
    (record.retimed context).check = record.check := rfl

variable (first : EvaluationContext)

theorem record_retimed (identityKey : List (String × Json)) (effectiveAt : Moment) (payload : Payload)
    (modelVersion methodology : Option String) (sourceIds sourceVersions evidence : List String)
    (predecessor : Option AnalyticalRecord) (correctionReason : Option String) :
    record identityKey effectiveAt context payload modelVersion methodology sourceIds sourceVersions evidence
        predecessor correctionReason =
      (record identityKey effectiveAt first payload modelVersion methodology sourceIds sourceVersions evidence
        predecessor correctionReason).map (AnalyticalRecord.retimed context) := by
  obtain ⟨identity, same⟩ : ∃ identity, recordId payload.semanticType identityKey = identity := ⟨_, rfl⟩
  rw [record_identity _ context _ _ _ _ _ _ _ _ same, record_identity _ first _ _ _ _ _ _ _ _ same]
  let made : AnalyticalRecord := ⟨identity, first.recordedAt, effectiveAt, first.knownBy, modelVersion,
    methodology, sourceIds, sourceVersions, evidence, predecessor.map AnalyticalRecord.id, correctionReason,
    payload⟩
  show (made.retimed context).check.map (fun _ => made.retimed context) = (made.check.map fun _ => made).map _
  rw [made.check_retimed]
  cases made.check with
  | error exn => rfl
  | ok value => rfl

variable (publication policy : AnalyticalRecord) (outcome : Option OutcomeObservation)

/-- Of its predecessor a record holds the identity only. -/
theorem evaluationRecord_retimed (state : LifecycleState) {predecessor other : Option AnalyticalRecord}
    (same : predecessor.map AnalyticalRecord.id = other.map AnalyticalRecord.id) (reason : String)
    (correct : Option Bool) (correctionReason : Option String) :
    evaluationRecord publication policy state context predecessor reason outcome correct correctionReason =
      (evaluationRecord publication policy state first other reason outcome correct correctionReason).map
        (AnalyticalRecord.retimed context) := by
  have identity : identityOf predecessor = identityOf other := by
    cases predecessor with
    | none =>
        cases other with
        | none => rfl
        | some head => cases same
    | some record =>
        cases other with
        | none => cases same
        | some head => exact congrArg Json.str (Option.some.inj same)
  unfold evaluationRecord
  cases publication.native with
  | error exn => rfl
  | ok native =>
      rw [ok_bind, ok_bind]
      dsimp only
      rw [identity, record_retimed context first]
      show Except.map _ (record _ _ _ _ _ _ _ _ _ predecessor _) = Except.map _ (record _ _ _ _ _ _ _ _ _ other _)
      unfold record
      rw [same]

theorem authorize_retimed (record : AnalyticalRecord) (operation : Operation) :
    authorize (record.retimed context) operation =
      (authorize record operation).map (AuthorizedAnalyticalWrite.retimed context) := by
  unfold authorize
  rw [show (record.retimed context).supersedesId = record.supersedesId from rfl]
  cases require (operation = .create → record.supersedesId = none)
      (Exn.valueError "create operation cannot supersede a record") with
  | error exn => rfl
  | ok value =>
      rw [ok_bind, ok_bind]
      cases require (operation = .correct → record.supersedesId ≠ none)
          (Exn.valueError "correct operation requires an explicit predecessor") with
      | error exn => rfl
      | ok value => rfl

theorem advance_retimed (current : AnalyticalRecord) (target : LifecycleState) (reason correctionReason : String) :
    advance publication policy current target context reason outcome correctionReason =
      (advance publication policy current target first reason outcome correctionReason).map
        (Decision.retimed context) := by
  unfold advance
  rw [evaluationRecord_retimed context first publication policy outcome target rfl]
  cases evaluationRecord publication policy target first (some current) reason outcome none
      (some correctionReason) with
  | error exn => rfl
  | ok successor =>
      show (authorize (successor.retimed context) .correct >>= fun _ => _) = _
      rw [authorize_retimed, ok_bind]
      cases authorize successor .correct with
      | error exn => rfl
      | ok write => rfl

theorem verdictRecords_retimed (current : AnalyticalRecord) :
    verdictRecords correctness publication policy context current outcome =
      (verdictRecords correctness publication policy first current outcome).map fun (evaluable, terminal) =>
        (evaluable.retimed context, terminal.retimed context) := by
  unfold verdictRecords
  cases publication.native with
  | error exn => rfl
  | ok native =>
      cases policy.policy with
      | error exn => rfl
      | ok bound =>
          rw [ok_bind, ok_bind, ok_bind, ok_bind,
            evaluationRecord_retimed context first publication policy outcome .evaluable rfl]
          cases evaluationRecord publication policy .evaluable first (some current)
              "compatible strict-known outcome selected" outcome none (some "authorized outcome selection") with
          | error exn => rfl
          | ok evaluable =>
              show (correctnessOf correctness native bound outcome >>= fun _ => _) = _
              rw [ok_bind]
              cases correctnessOf correctness native bound outcome with
              | error exn => rfl
              | ok answer =>
                  obtain ⟨correct, calculation⟩ := answer
                  rw [ok_bind, ok_bind]
                  dsimp only
                  rw [evaluationRecord_retimed context first publication policy outcome
                    (if correct then .evaluatedCorrect else .evaluatedIncorrect)
                    (show (some (evaluable.retimed context)).map AnalyticalRecord.id =
                      (some evaluable).map AnalyticalRecord.id from rfl)]
                  cases evaluationRecord publication policy
                      (if correct then .evaluatedCorrect else .evaluatedIncorrect) first (some evaluable)
                      calculation outcome (some correct) (some "deterministic policy evaluation") with
                  | error exn => rfl
                  | ok terminal => rfl

end

section

variable {outcome : OutcomeObservation} {first second : EvaluationContext}

theorem Observed.unavoided {known : Moment} (observed : Observed outcome first)
    (knownAt : outcome.knownAt = some known) :
    ¬(first.knownBy < outcome.recordedAt ∨ first.knownBy < known) := by
  obtain ⟨recorded, moment, same, early⟩ := observed
  cases knownAt.symm.trans same
  exact not_or.mpr ⟨not_lt.mpr recorded, not_lt.mpr early⟩

theorem outcomeEligibility_observed (native : PredictionPublication) (policy : EvaluationPolicy) (deadline : Moment)
    (one : Observed outcome first) (two : Observed outcome second) :
    outcomeEligibility native policy (some outcome) first deadline =
      outcomeEligibility native policy (some outcome) second deadline := by
  unfold outcomeEligibility
  dsimp only
  split
  · rfl
  · cases knownAt : outcome.knownAt with
    | none => rfl
    | some known =>
        dsimp only
        rw [if_neg (one.unavoided knownAt), if_neg (two.unavoided knownAt)]

/-- The decisions on an outcome that is recorded and known differ in their clocks. -/
theorem evaluate_retimed (one : Observed outcome first) (two : Observed outcome second) :
    evaluate correctness stored predictionId (some outcome) second =
      (evaluate correctness stored predictionId (some outcome) first).map (Decision.retimed second) := by
  unfold evaluate
  cases currentBundle stored predictionId with
  | error exn => rfl
  | ok bundle =>
      obtain ⟨publication, policyRecord, current⟩ := bundle
      rw [ok_bind, ok_bind]
      dsimp only
      cases current.state with
      | error exn => rfl
      | ok state =>
          rw [ok_bind, ok_bind]
          by_cases answered : state ∈ [.evaluatedCorrect, .evaluatedIncorrect]
          · rw [if_pos answered, if_pos answered]
            rfl
          · rw [if_neg answered, if_neg answered]
            cases require (state ∈ [.due, .awaitingData])
                (Exn.valueError "prediction must be due or awaiting-data before evaluation") with
            | error exn => rfl
            | ok value =>
                cases policyRecord.policy with
                | error exn => rfl
                | ok policy =>
                    cases publication.native with
                    | error exn => rfl
                    | ok native =>
                        rw [ok_bind, ok_bind, ok_bind, ok_bind, ok_bind, ok_bind]
                        cases later native.dueAt policy.outcomeDataDeadlineSeconds with
                        | error exn =>
                            rw [error_bind, error_bind]
                            rfl
                        | ok deadline =>
                            rw [ok_bind, ok_bind, outcomeEligibility_observed native policy deadline two one]
                            cases outcomeEligibility native policy (some outcome) first deadline with
                            | error exn => rfl
                            | ok eligibility =>
                                obtain ⟨target, reason⟩ := eligibility
                                rw [ok_bind, ok_bind]
                                dsimp only
                                split
                                · split
                                  · rfl
                                  · cases requireTransition current target with
                                    | error exn => rfl
                                    | ok value =>
                                        rw [ok_bind, ok_bind]
                                        exact advance_retimed second first publication policyRecord (some outcome)
                                          current target reason _
                                · rw [verdictRecords_retimed second first]
                                  cases verdictRecords correctness publication policyRecord first current
                                    (some outcome) with
                                  | error exn => rfl
                                  | ok made =>
                                      obtain ⟨evaluable, terminal⟩ := made
                                      show (authorize (evaluable.retimed second) .correct >>= fun _ =>
                                        authorize (terminal.retimed second) .correct >>= fun _ => _) = _
                                      rw [authorize_retimed, authorize_retimed, ok_bind]
                                      dsimp only
                                      cases authorize evaluable .correct with
                                      | error exn => rfl
                                      | ok one =>
                                          cases authorize terminal .correct with
                                          | error exn => rfl
                                          | ok two => rfl

end

section

variable {other : Store} {plan : AuthorizedAnalyticalWrite} {plans : List AuthorizedAnalyticalWrite}
  {context : EvaluationContext}

/-- What a write reads of a stored record. -/
def key (record : AnalyticalRecord) : String × String := (record.id, record.logicalIdentity)

theorem load_key (identity : String) : (stored.load identity).map AnalyticalRecord.logicalIdentity =
    ((stored.map key).find? fun k => k.1 = identity).map Prod.snd := by
  rw [List.find?_map, Option.map_map]
  rfl

theorem ids_key (same : stored.map key = other.map key) :
    stored.map AnalyticalRecord.id = other.map AnalyticalRecord.id := by
  have firsts := congrArg (List.map Prod.fst) same
  rwa [List.map_map, List.map_map] at firsts

theorem checkOperation_retimed : stored.checkOperation (plan.retimed context) = stored.checkOperation plan := rfl

theorem checkOperation_key (same : stored.map key = other.map key) :
    stored.checkOperation plan = other.checkOperation plan := by
  unfold Store.checkOperation
  cases plan.operation with
  | create => rfl
  | correct =>
      have loaded : (stored.load (plan.record.supersedesId.getD "")).map AnalyticalRecord.logicalIdentity =
          (other.load (plan.record.supersedesId.getD "")).map AnalyticalRecord.logicalIdentity := by
        rw [load_key, load_key, same]
      cases one : stored.load (plan.record.supersedesId.getD "") with
      | none =>
          cases two : other.load (plan.record.supersedesId.getD "") with
          | none => rfl
          | some predecessor =>
              rw [one, two] at loaded
              cases loaded
      | some predecessor =>
          cases two : other.load (plan.record.supersedesId.getD "") with
          | none =>
              rw [one, two] at loaded
              cases loaded
          | some found =>
              rw [one, two] at loaded
              dsimp only
              rw [Option.some.inj loaded]

/-- A record that is not there is added, unless its identity is taken. -/
theorem persist_new (absent : plan.record ∉ stored) : stored.persist plan = (do
    stored.checkOperation plan
    if plan.record.id ∈ stored.map AnalyticalRecord.id then .error (.identityConflict plan.record.id)
    else .ok (stored ++ [plan.record])) := by
  unfold Store.persist Store.save
  cases found : stored.load plan.record.id with
  | none => rw [if_neg (load_none found)]
  | some existing =>
      have there := List.mem_of_find?_eq_some found
      have same : existing.id = plan.record.id := by
        have kept := List.find?_some
          (show stored.find? (fun row => row.id = plan.record.id) = some existing from found)
        exact of_decide_eq_true kept
      have different : existing ≠ plan.record := fun equal => absent (equal ▸ there)
      rw [if_pos (same ▸ List.mem_map_of_mem there)]
      dsimp only
      rw [require, if_neg different]
      rfl

/-- None of the records is there when its turn comes. -/
def NewIn (stored : Store) : List AuthorizedAnalyticalWrite → Prop
  | [] => True
  | plan :: plans => plan.record ∉ stored ∧
      (plan.record.id ∉ stored.map AnalyticalRecord.id → NewIn (stored ++ [plan.record]) plans)

/-- New records are written or refused whatever their clocks. -/
theorem persistMany_retimed (same : stored.map key = other.map key)
    (new : NewIn stored (plans.map (AuthorizedAnalyticalWrite.retimed context))) (new' : NewIn other plans) :
    (stored.persistMany (plans.map (AuthorizedAnalyticalWrite.retimed context))).map (fun _ => ()) =
      (other.persistMany plans).map fun _ => () := by
  induction plans generalizing stored other with
  | nil => rfl
  | cons plan plans ih =>
      obtain ⟨absent, later⟩ := new
      obtain ⟨absent', later'⟩ := new'
      show ((stored.persist (plan.retimed context) >>= fun after => after.persistMany _).map _ : Py Unit) =
        (other.persist plan >>= fun after => after.persistMany plans).map _
      rw [persist_new absent, persist_new absent', checkOperation_retimed, checkOperation_key same, ids_key same]
      cases other.checkOperation plan with
      | error exn => rfl
      | ok value =>
          rw [ok_bind, ok_bind]
          rw [ids_key same] at later
          show ((if plan.record.id ∈ other.map AnalyticalRecord.id then _ else _) >>=
            fun _ => _ : Py Store).map _ = _
          by_cases taken : plan.record.id ∈ other.map AnalyticalRecord.id
          · rw [if_pos taken, if_pos taken]
            rfl
          · rw [if_neg taken, if_neg taken, ok_bind, ok_bind]
            refine ih ?_ (later taken) (later' taken)
            rw [List.map_append, List.map_append, same]
            rfl

theorem getLast?_retimed : ((plans.map (AuthorizedAnalyticalWrite.retimed context)).getLast?.map
    AuthorizedAnalyticalWrite.record).bind reached =
      (plans.getLast?.map AuthorizedAnalyticalWrite.record).bind reached := by
  rw [List.getLast?_map]
  cases plans.getLast? with
  | none => rfl
  | some plan => rfl

/-- What a decision comes to does not depend on its clocks, if all that it plans is new. -/
theorem conclude_retimed {decision : Decision}
    (new : ∀ plans, decision.retimed context = .planned plans → NewIn stored plans)
    (new' : ∀ plans, decision = .planned plans → NewIn stored plans) :
    (conclude stored (decision.retimed context)).map result = (conclude stored decision).map result := by
  cases decision with
  | answered record => rfl
  | planned plans =>
      have alike := persistMany_retimed rfl (new _ rfl) (new' _ rfl)
      show ((stored.persistMany (plans.map _) >>= fun after => .ok (_, after)).map result : Py _) =
        (stored.persistMany plans >>= fun after => .ok (_, after)).map result
      cases one : stored.persistMany (plans.map (AuthorizedAnalyticalWrite.retimed context)) with
      | error exn =>
          rw [one] at alike
          cases two : stored.persistMany plans with
          | error exn' =>
              rw [two] at alike
              exact congrArg Except.error (Except.error.inj alike)
          | ok after =>
              rw [two] at alike
              cases alike
      | ok after =>
          rw [one] at alike
          cases two : stored.persistMany plans with
          | error exn' =>
              rw [two] at alike
              cases alike
          | ok after' => exact congrArg Except.ok getLast?_retimed

end

end Hunter.PredictionEvaluation
