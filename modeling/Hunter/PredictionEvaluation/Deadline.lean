import Hunter.PredictionEvaluation.Retiming

/-!
The deadline for outcome data. It is read only while the outcome is not known: an outcome
that was recorded after it is evaluated like any other one. So the deadline binds the verdict
exactly when the outcome is punctual, or is not one that the verdict on it could be recorded.
-/

namespace Hunter.PredictionEvaluation

open Calendar Fallible
open MarketValidation (blank sha256_ofList)

variable {correctness : Correctness} {stored after : Store} {plans : List AuthorizedAnalyticalWrite}
  {record : AnalyticalRecord} {plan : AuthorizedAnalyticalWrite}

/-- A row was made by the service, whatever the snapshots are. -/
def Bound (record : AnalyticalRecord) : Prop :=
  match record.payload with
  | .publication native _ => blank record.id = false ∧ record.modelVersion = some native.modelVersion ∧
      record.methodologyFingerprint = some native.methodologyVersion
  | .policy _ => blank record.id = false
  | .evaluation lifecycle => blank record.id = false ∧
      ∀ forecast ∈ lifecycle.forecastProbability, 0 ≤ forecast.value ∧ forecast.value ≤ 1
  | .snapshot _ _ _ => True

structure Sane (plan : AuthorizedAnalyticalWrite) : Prop where
  bound : Bound plan.record
  linked : ¬isSnapshot plan.record → plan.operation = .create → plan.record.supersedesId = none

/-- Every identity is used once, and every row but a snapshot names a stored record. -/
structure Sound (stored : Store) : Prop where
  distinct : (stored.map AnalyticalRecord.id).Nodup
  anchored : ∀ record ∈ stored, ¬isSnapshot record → ∀ named ∈ record.supersedesId,
    named ∈ stored.map AnalyticalRecord.id
  bound : ∀ record ∈ stored, Bound record

theorem not_isSnapshot {record : AnalyticalRecord} (evaluation : IsEvaluation record) : ¬isSnapshot record := by
  unfold isSnapshot
  rw [show record.semanticType = evaluationType from evaluation]
  decide

theorem blank_recordId (semanticType : String) (identityKey : List (String × Json)) :
    blank (recordId semanticType identityKey) = false := by
  have inside : 'p' ∈ (recordId semanticType identityKey).scalars := by
    rw [recordId, stableIdentifier, String.scalars_eq_toList]
    simp only [String.toList_append]
    refine List.mem_append_left _ (List.mem_append_left _ (List.mem_append_left _ (List.mem_append_left _ ?_)))
    decide
  rw [blank, List.isEmpty_eq_false_iff]
  exact Chars.strip_ne_nil_of_mem inside (by decide)

theorem load_of_mem (distinct : (stored.map AnalyticalRecord.id).Nodup) (there : record ∈ stored) :
    stored.load record.id = some record := by
  cases found : stored.load record.id with
  | none => exact absurd (List.mem_map_of_mem there) (load_none found)
  | some other =>
      have same : other.id = record.id := by
        have kept := List.find?_some (show stored.find? (fun other => other.id = record.id) = some other from found)
        exact of_decide_eq_true kept
      exact congrArg some (List.inj_on_of_nodup_map distinct (List.mem_of_find?_eq_some found) there same)

theorem load_isSome {identity : String} (found : stored.load identity ≠ none) :
    identity ∈ stored.map AnalyticalRecord.id := by
  cases loaded : stored.load identity with
  | none => exact absurd loaded found
  | some other =>
      have kept := List.find?_some (show stored.find? (fun other => other.id = identity) = some other from loaded)
      rw [← of_decide_eq_true kept]
      exact List.mem_map_of_mem (List.mem_of_find?_eq_some loaded)

theorem Sound.persist (sound : Sound stored) (sane : Sane plan) (done : stored.persist plan = .ok after) :
    Sound after := by
  cases persist_ok done with
  | inl old => exact old.2 ▸ sound
  | inr new =>
      obtain ⟨fresh, rfl⟩ := new
      refine ⟨nodup_snoc sound.distinct fresh, fun record inside row named names => ?_, fun record inside => ?_⟩
      · rw [List.map_append]
        refine List.mem_append_left _ ?_
        cases List.mem_append.mp inside with
        | inl before => exact sound.anchored record before row named names
        | inr last =>
            rw [List.mem_singleton.mp last] at row names
            obtain ⟨checked, -⟩ := check_ok.mp done
            unfold Store.checkOperation at checked
            cases operation : plan.operation with
            | create =>
                rw [sane.linked row operation] at names
                cases names
            | correct =>
                rw [operation, Option.mem_def.mp names] at checked
                refine load_isSome fun none => ?_
                simp only [Option.getD_some, none] at checked
                cases checked
      · cases List.mem_append.mp inside with
        | inl before => exact sound.bound record before
        | inr last => exact List.mem_singleton.mp last ▸ sane.bound

theorem Sound.persistMany (sound : Sound stored) (sane : ∀ plan ∈ plans, Sane plan)
    (done : stored.persistMany plans = .ok after) : Sound after := by
  induction plans generalizing stored with
  | nil =>
      cases done
      exact sound
  | cons plan plans ih =>
      obtain ⟨first, others⟩ := List.forall_mem_cons.mp sane
      obtain ⟨between, one, rest⟩ := persistMany_cons done
      exact ih (sound.persist first one) others rest

theorem authorize_linked {operation : Operation} (done : authorize record operation = .ok plan) :
    plan.record = record ∧ (plan.operation = .create → record.supersedesId = none) := by
  simp only [authorize, require_bind_ok, pure_eq_ok, Except.ok.injEq] at done
  obtain ⟨created, -, rfl⟩ := done
  exact ⟨rfl, created⟩

/-- What a call plans is no snapshot. -/
structure Issued (plan : AuthorizedAnalyticalWrite) : Prop where
  sane : Sane plan
  row : ¬isSnapshot plan.record

theorem issued_of_authorize {operation : Operation} (bound : Bound record) (row : ¬isSnapshot record)
    (done : authorize record operation = .ok plan) : Issued plan := by
  obtain ⟨rfl, linked⟩ := authorize_linked done
  exact ⟨⟨bound, fun _ => linked⟩, row⟩

theorem record_made {identityKey : List (String × Json)} {effectiveAt : Moment} {context : EvaluationContext}
    {payload : Payload} {modelVersion methodology : Option String}
    {sourceIds sourceVersions evidence : List String} {predecessor : Option AnalyticalRecord}
    {correctionReason : Option String} {made : AnalyticalRecord}
    (done : PredictionEvaluation.record identityKey effectiveAt context payload modelVersion methodology sourceIds
      sourceVersions evidence predecessor correctionReason = .ok made) :
    made = ⟨recordId payload.semanticType identityKey, context.recordedAt, effectiveAt, context.knownBy,
      modelVersion, methodology, sourceIds, sourceVersions, evidence, predecessor.map AnalyticalRecord.id,
      correctionReason, payload⟩ := by
  simp only [PredictionEvaluation.record, bind_ok, exists_unit, pure_eq_ok, Except.ok.injEq] at done
  exact done.2.symm

theorem bound_of_made {publication policy made : AnalyticalRecord} {state : LifecycleState}
    {context : EvaluationContext} {predecessor : Option AnalyticalRecord} {reason : String}
    {outcome : Option OutcomeObservation} {correct : Option Bool} {correctionReason : Option String}
    (done : evaluationRecord publication policy state context predecessor reason outcome correct correctionReason =
      .ok made) : Bound made := by
  obtain ⟨native, -, recorded⟩ := bind_ok.mp done
  rw [record_made recorded]
  exact ⟨blank_recordId _ _, native.probability⟩

theorem issued_of_made {publication policy made : AnalyticalRecord} {state : LifecycleState}
    {context : EvaluationContext} {predecessor : Option AnalyticalRecord} {reason : String}
    {outcome : Option OutcomeObservation} {correct : Option Bool} {correctionReason : Option String}
    {operation : Operation}
    (done : evaluationRecord publication policy state context predecessor reason outcome correct correctionReason =
      .ok made) (authorized : authorize made operation = .ok plan) : Issued plan :=
  issued_of_authorize (bound_of_made done) (not_isSnapshot (evaluationRecord_ok done).isEvaluation) authorized

section

variable {context : EvaluationContext}

theorem persistPolicy_issued {policy : EvaluationPolicy}
    (done : persistPolicy policy context = .ok (.planned plans)) : ∀ plan ∈ plans, Issued plan := by
  simp only [persistPolicy, bind_ok, pure_eq_ok, Except.ok.injEq, Decision.planned.injEq] at done
  obtain ⟨made, recorded, write, authorized, rfl⟩ := done
  intro plan inside
  rw [List.mem_singleton.mp inside]
  refine issued_of_authorize ?_ ?_ authorized
  · rw [record_made recorded]
    exact blank_recordId _ _
  · rw [record_made recorded]
    exact (by decide : ¬(policyType = accuracyType ∨ policyType = calibrationType))

theorem publish_issued {publication : PredictionPublication} {predecessor : Option AnalyticalRecord}
    {correctionReason : Option String}
    (done : publish stored publication context predecessor correctionReason = .ok (.planned plans)) :
    ∀ plan ∈ plans, Issued plan := by
  simp only [publish, bind_ok, exists_unit, pure_eq_ok, Except.ok.injEq, Decision.planned.injEq] at done
  obtain ⟨-, policyRecord, -, policy, -, -, -, -, corrected, published, initial, evaluated, first, one, second,
    two, rfl⟩ := done
  intro plan inside
  cases List.mem_cons.mp inside with
  | inl here =>
      rw [here]
      refine issued_of_authorize ?_ ?_ one
      · rw [record_made published]
        exact ⟨blank_recordId _ _, rfl, rfl⟩
      · rw [record_made published]
        exact (by decide : ¬(publicationType = accuracyType ∨ publicationType = calibrationType))
  | inr later =>
      rw [List.mem_singleton.mp later]
      exact issued_of_made evaluated two

theorem advance_issued {publication policy current : AnalyticalRecord} {target : LifecycleState}
    {reason correctionReason : String} {outcome : Option OutcomeObservation}
    (done : advance publication policy current target context reason outcome correctionReason =
      .ok (.planned plans)) : ∀ plan ∈ plans, Issued plan := by
  simp only [advance, bind_ok, pure_eq_ok, Except.ok.injEq, Decision.planned.injEq] at done
  obtain ⟨successor, made, write, authorized, rfl⟩ := done
  intro plan inside
  rw [List.mem_singleton.mp inside]
  exact issued_of_made made authorized

theorem decide_issued {call : Call} (done : call.decide correctness stored = .ok (.planned plans)) :
    ∀ plan ∈ plans, Issued plan := by
  cases call with
  | persistPolicy policy context => exact persistPolicy_issued done
  | publish publication context predecessor reason => exact publish_issued done
  | transition predictionId target context reason =>
      simp only [Call.decide, transition, bind_ok, exists_unit, Prod.exists] at done
      obtain ⟨-, publication, policy, current, -, done⟩ := done
      split at done
      · cases done
      · simp only [bind_ok, exists_unit] at done
        obtain ⟨-, -, state, -, advanced⟩ := done
        exact advance_issued advanced
  | evaluate predictionId outcome context =>
      simp only [Call.decide, evaluate, bind_ok, Prod.exists] at done
      obtain ⟨publication, policyRecord, current, -, state, -, done⟩ := done
      split at done
      · cases done
      simp only [bind_ok, exists_unit, Prod.exists] at done
      obtain ⟨-, policy, -, native, -, deadline, -, target, reason, -, done⟩ := done
      split at done
      · split at done
        · cases done
        · obtain ⟨_, -, advanced⟩ := bind_ok.mp done
          exact advance_issued advanced
      · simp only [bind_ok, Prod.exists, pure_eq_ok, Except.ok.injEq, Decision.planned.injEq] at done
        obtain ⟨evaluable, terminal, made, first, one, second, two, rfl⟩ := done
        simp only [verdictRecords, bind_ok, pure_eq_ok, Except.ok.injEq, Prod.mk.injEq, Prod.exists] at made
        obtain ⟨_, -, _, -, _, selected, _, _, -, _, decided, rfl, rfl⟩ := made
        intro plan inside
        cases List.mem_cons.mp inside with
        | inl here => exact here ▸ issued_of_made selected one
        | inr later => exact List.mem_singleton.mp later ▸ issued_of_made decided two

end

/-- What every run keeps, whatever calls are interleaved. -/
structure Keeps (state : State) : Prop where
  sound : Sound state.stored
  sane : ∀ plans ∈ state.pending, ∀ plan ∈ plans, Sane plan

theorem keeps_step {state after : State} {event : Event} (keeps : Keeps state)
    (step : Step correctness state event after) : Keeps after := by
  cases step with
  | @read call =>
      refine ⟨keeps.sound, fun plans inside => ?_⟩
      cases List.mem_append.mp inside with
      | inl new =>
          unfold plansOf at new
          split at new
          · rename_i found done
            exact List.mem_singleton.mp new ▸ fun plan inside => (decide_issued done plan inside).sane
          · cases new
      | inr old => exact keeps.sane plans old
  | @write front back plans waiting =>
      refine ⟨written_cases keeps.sound fun after done => keeps.sound.persistMany (keeps.sane plans ?_) done,
        fun others inside => keeps.sane others ?_⟩
      · rw [waiting]
        exact List.mem_append_right _ List.mem_cons_self
      · rw [waiting]
        cases List.mem_append.mp inside with
        | inl before => exact List.mem_append_left _ before
        | inr behind => exact List.mem_append_right _ (List.mem_cons_of_mem _ behind)
  | @aggregate plans snapshots =>
      refine ⟨written_cases keeps.sound fun after done => keeps.sound.persistMany (fun plan inside => ?_) done,
        keeps.sane⟩
      have snapshot := snapshots plan inside
      refine ⟨?_, fun row => absurd snapshot row⟩
      unfold isSnapshot AnalyticalRecord.semanticType at snapshot
      unfold Bound
      cases payload : plan.record.payload with
      | policy bound =>
          rw [payload] at snapshot
          exact absurd snapshot (by decide : ¬(policyType = accuracyType ∨ policyType = calibrationType))
      | publication native id =>
          rw [payload] at snapshot
          exact absurd snapshot (by decide : ¬(publicationType = accuracyType ∨ publicationType = calibrationType))
      | evaluation lifecycle =>
          rw [payload] at snapshot
          exact absurd snapshot (by decide : ¬(evaluationType = accuracyType ∨ evaluationType = calibrationType))
      | snapshot kind id aggregate => trivial

theorem keeps_run {events : List Event} {state : State} (run : Run (Step correctness) .initial events state) :
    Keeps state :=
  run.preserves _ (fun _ _ _ keeps step => keeps_step keeps step)
    ⟨⟨List.nodup_nil, fun _ inside => absurd inside List.not_mem_nil,
      fun _ inside => absurd inside List.not_mem_nil⟩,
      fun _ inside => absurd inside List.not_mem_nil⟩

/-- The current record of a target is named by no other record of it. -/
theorem current_unnamed {semanticType target : String} (found : stored.current semanticType target = some record) :
    ∀ other ∈ stored, other.semanticType = semanticType → other.targetIdentity = target →
      other.supersedesId ≠ some record.id := by
  intro other there type same names
  have inside := List.mem_mergeSort.mp (List.mem_of_mem_head? (Option.mem_def.mpr found))
  have unnamed := of_decide_eq_true (List.mem_filter.mp inside).2
  refine unnamed (List.mem_filterMap.mpr ⟨other, ?_, names⟩)
  exact List.mem_filter.mpr ⟨there, decide_eq_true ⟨type, same⟩⟩

/-- A published prediction that waits for its outcome. -/
structure Awaits (stored : Store) (predictionId : String) (publication policyRecord current : AnalyticalRecord)
    (native : PredictionPublication) (policy : EvaluationPolicy) : Prop where
  bundle : currentBundle stored predictionId = .ok (publication, policyRecord, current)
  native : publication.native = .ok native
  policy : policyRecord.policy = .ok policy
  state : ∃ state ∈ [LifecycleState.due, .awaitingData], current.state? = some state

/-- The outcome is one that the policy admits. -/
structure Admissible (native : PredictionPublication) (policy : EvaluationPolicy) (outcome : OutcomeObservation) :
    Prop where
  same : outcome.targetId = native.targetId ∧ outcome.entityType = native.entityType ∧
    outcome.sourceType = policy.outcomeSourceType ∧ outcome.sourceVersion = policy.outcomeSourceVersion ∧
    outcome.measurementUnit = policy.measurementUnit
  window : withinWindow native.dueAt policy.observationWindowSeconds outcome.effectiveAt = .ok true
  benchmark : policy.comparisonMode = .benchmarkRelative →
    outcome.benchmarkId = native.benchmarkId ∧ outcome.benchmarkValue ≠ none

section

variable {native : PredictionPublication} {policy : EvaluationPolicy} {outcome : OutcomeObservation}
  {context : EvaluationContext} {deadline : Moment}

theorem outcomeEligibility_evaluable {reason : String}
    (done : outcomeEligibility native policy (some outcome) context deadline = .ok (.evaluable, reason)) :
    Observed outcome context ∧ Admissible native policy outcome := by
  unfold outcomeEligibility at done
  dsimp only at done
  split at done
  · cases done
  rename_i same
  simp only [not_or, not_not] at same
  cases knownAt : outcome.knownAt with
  | none =>
      rw [knownAt] at done
      cases done
  | some known =>
      rw [knownAt] at done
      dsimp only at done
      split at done
      · split at done
        · cases done
        · cases done
      rename_i seen
      obtain ⟨inside, window, done⟩ := bind_ok.mp done
      split at done
      · cases done
      rename_i within
      split at done
      · cases done
      rename_i compatible
      obtain ⟨recorded, early⟩ := not_or.mp seen
      refine ⟨⟨not_lt.mp recorded, known, knownAt, not_lt.mp early⟩, same, ?_, fun relative => ?_⟩
      · rw [window, (Bool.not_eq_false _).mp within]
      · have both := not_and.mp compatible relative
        exact ⟨not_not.mp (not_or.mp both).1, (not_or.mp both).2⟩

theorem outcomeEligibility_admissible (observed : Observed outcome context)
    (admissible : Admissible native policy outcome) :
    outcomeEligibility native policy (some outcome) context deadline =
      .ok (.evaluable, "compatible strict-known outcome selected") := by
  obtain ⟨known, knownAt, -⟩ := observed.2
  obtain ⟨target, entity, source, version, unit⟩ := admissible.same
  unfold outcomeEligibility
  dsimp only
  rw [if_neg (by simp [target, entity, source, version, unit]), Option.mem_def.mp knownAt]
  dsimp only
  rw [if_neg (observed.unavoided knownAt), admissible.window, ok_bind, if_neg (by decide), if_neg]
  · rfl
  · rintro ⟨relative, other | none⟩
    · exact other (admissible.benchmark relative).1
    · exact (admissible.benchmark relative).2 none

theorem outcomeEligibility_targets {target : LifecycleState} {reason : String}
    (done : outcomeEligibility native policy (some outcome) context deadline = .ok (target, reason)) :
    target ∈ [LifecycleState.awaitingData, .unevaluable, .invalidated, .evaluable] := by
  unfold outcomeEligibility at done
  dsimp only at done
  split at done
  · cases done
    decide
  split at done
  · cases done
    decide
  split at done
  · split at done
    · cases done
      decide
    · cases done
      decide
  obtain ⟨inside, -, done⟩ := bind_ok.mp done
  split at done
  · cases done
    decide
  split at done
  · cases done
    decide
  · cases done
    decide

end

section

variable {predictionId : String} {publication policyRecord current : AnalyticalRecord}
  {native : PredictionPublication} {policy : EvaluationPolicy} {outcome : OutcomeObservation}
  {context : EvaluationContext} {decision : Decision}

theorem Awaits.target (awaits : Awaits stored predictionId publication policyRecord current native policy) :
    current ∈ stored ∧ IsEvaluation current ∧ publication.targetIdentity = predictionId ∧
      current.targetIdentity = predictionId ∧
      ∀ other ∈ stored, IsEvaluation other → other.targetIdentity = predictionId →
        other.supersedesId ≠ some current.id := by
  have bundle := awaits.bundle
  unfold currentBundle at bundle
  cases published : stored.current publicationType predictionId with
  | none =>
      rw [published] at bundle
      cases bundle
  | some found =>
      cases head : stored.current evaluationType predictionId with
      | none =>
          rw [published, head] at bundle
          cases bundle
      | some other =>
          simp only [published, head, bind_ok, pure_eq_ok, Except.ok.injEq, Prod.mk.injEq] at bundle
          obtain ⟨_, -, _, -, rfl, -, rfl⟩ := bundle
          obtain ⟨there, evaluation, same⟩ := current_some head
          exact ⟨there, evaluation, (current_some published).2.2, same, current_unnamed head⟩

/-- The record of the selected outcome and the verdict that `correctness` gives. -/
structure Verdicts (correctness : Correctness) (publication policyRecord current : AnalyticalRecord)
    (native : PredictionPublication) (policy : EvaluationPolicy) (outcome : OutcomeObservation)
    (context : EvaluationContext) (first second : AuthorizedAnalyticalWrite) : Prop where
  selects : Evaluates publication policyRecord .evaluable context (some current) (some outcome) first.record
  decides : ∃ correct calculation, correctness native policy outcome = .ok (correct, calculation) ∧
    Evaluates publication policyRecord (if correct then .evaluatedCorrect else .evaluatedIncorrect) context
      (some first.record) (some outcome) second.record
  evidence : ∀ text ∈ outcome.evidenceReferences, blank text = false
  deadline : ∃ deadline, later native.dueAt policy.outcomeDataDeadlineSeconds = .ok deadline
  eligible : Observed outcome context ∧ Admissible native policy outcome

theorem evaluationRecord_evidence {state : LifecycleState} {predecessor : Option AnalyticalRecord} {reason : String}
    {correct : Option Bool} {correctionReason : Option String} {made : AnalyticalRecord}
    (done : evaluationRecord publication policyRecord state context predecessor reason (some outcome) correct
      correctionReason = .ok made) : ∀ text ∈ outcome.evidenceReferences, blank text = false := by
  obtain ⟨native, -, recorded⟩ := bind_ok.mp done
  simp only [PredictionEvaluation.record, AnalyticalRecord.check, bind_ok, exists_unit, require_ok] at recorded
  obtain ⟨⟨-, -, -, -, -, evidence, -⟩, -⟩ := recorded
  exact evidence

/-- The current record is answered with, or followed by one that is no verdict, or the outcome is
selected and the verdict recorded. -/
inductive DecidedOn (correctness : Correctness) (publication policyRecord current : AnalyticalRecord)
    (native : PredictionPublication) (policy : EvaluationPolicy) (outcome : OutcomeObservation)
    (context : EvaluationContext) : Decision → Prop where
  | answered :
      DecidedOn correctness publication policyRecord current native policy outcome context (.answered current)
  | advanced {write : AuthorizedAnalyticalWrite} {target : LifecycleState}
      (other : target ∈ [LifecycleState.awaitingData, .unevaluable, .invalidated])
      (evaluates : Evaluates publication policyRecord target context (some current) (some outcome) write.record) :
      DecidedOn correctness publication policyRecord current native policy outcome context (.planned [write])
  | decided {first second : AuthorizedAnalyticalWrite}
      (verdicts : Verdicts correctness publication policyRecord current native policy outcome context first second) :
      DecidedOn correctness publication policyRecord current native policy outcome context (.planned [first, second])

theorem evaluate_decided (awaits : Awaits stored predictionId publication policyRecord current native policy)
    (done : evaluate correctness stored predictionId (some outcome) context = .ok decision) :
    DecidedOn correctness publication policyRecord current native policy outcome context decision := by
  obtain ⟨state, waiting, read⟩ := awaits.state
  simp only [evaluate, bind_ok, Prod.exists] at done
  obtain ⟨publication', policyRecord', current', bundle, state', read', done⟩ := done
  cases awaits.bundle.symm.trans bundle
  cases read.symm.trans (state_ok read')
  split at done
  · cases done
    exact .answered
  simp only [bind_ok, exists_unit, Prod.exists] at done
  obtain ⟨-, policy', ruled, native', published, deadline, late, target, reason, eligibility, done⟩ := done
  cases awaits.policy.symm.trans ruled
  cases awaits.native.symm.trans published
  split at done
  · rename_i other
    split at done
    · cases done
      exact .answered
    · simp only [advance, bind_ok, exists_unit, pure_eq_ok, Except.ok.injEq] at done
      obtain ⟨-, successor, made, write, authorized, rfl⟩ := done
      refine @DecidedOn.advanced correctness publication policyRecord current native policy outcome context write
        target ?_ ?_
      · have targets := outcomeEligibility_targets eligibility
        revert other targets
        cases target <;> decide
      · rw [authorize_ok authorized]
        exact evaluationRecord_ok made
  · rename_i chosen
    cases not_not.mp chosen
    simp only [bind_ok, Prod.exists, pure_eq_ok, Except.ok.injEq] at done
    obtain ⟨evaluable, terminal, made, first, one, second, two, rfl⟩ := done
    simp only [verdictRecords, bind_ok, pure_eq_ok, Except.ok.injEq, Prod.mk.injEq, Prod.exists] at made
    obtain ⟨native', published', policy', ruled', _, selected, correct, calculation, answer, _, decided, rfl, rfl⟩ :=
      made
    cases awaits.policy.symm.trans ruled'
    cases awaits.native.symm.trans published'
    cases authorize_ok one
    cases authorize_ok two
    exact .decided ⟨evaluationRecord_ok selected, ⟨correct, calculation, answer, evaluationRecord_ok decided⟩,
      evaluationRecord_evidence selected, ⟨deadline, late⟩, outcomeEligibility_evaluable eligibility⟩

theorem Awaits.new (awaits : Awaits stored predictionId publication policyRecord current native policy)
    {state : LifecycleState} {made : AnalyticalRecord}
    (evaluates : Evaluates publication policyRecord state context (some current) (some outcome) made) :
    made ∉ stored := by
  obtain ⟨-, -, published, -, unnamed⟩ := awaits.target
  exact fun there => unnamed made there evaluates.isEvaluation (evaluates.target.trans published)
    evaluates.supersedes

theorem evaluate_new (sound : Sound stored)
    (awaits : Awaits stored predictionId publication policyRecord current native policy)
    (done : evaluate correctness stored predictionId (some outcome) context = .ok (.planned plans)) :
    NewIn stored plans := by
  cases evaluate_decided awaits done with
  | advanced other evaluates => exact ⟨awaits.new evaluates, fun _ => trivial⟩
  | @decided first second verdicts =>
      obtain ⟨correct, _, -, decides⟩ := verdicts.decides
      have names : second.record.supersedesId = some first.record.id := decides.supersedes
      refine ⟨awaits.new verdicts.selects, fun fresh => ⟨fun there => ?_, fun _ => trivial⟩⟩
      cases List.mem_append.mp there with
      | inl old => exact fresh (sound.anchored _ old (not_isSnapshot decides.isEvaluation) _ names)
      | inr last =>
          have same := List.mem_singleton.mp last
          exact decides.proper _ names (congrArg AnalyticalRecord.id same).symm

/-- Two evaluations that find the outcome recorded and known come to the same. -/
theorem evaluated_alike (sound : Sound stored)
    (awaits : Awaits stored predictionId publication policyRecord current native policy)
    {first second : EvaluationContext} (one : Observed outcome first) (two : Observed outcome second) :
    (evaluated correctness stored predictionId (some outcome) second).map result =
      (evaluated correctness stored predictionId (some outcome) first).map result := by
  have retimed := @evaluate_retimed correctness stored predictionId outcome first second one two
  unfold evaluated
  cases done : evaluate correctness stored predictionId (some outcome) first with
  | error exn =>
      rw [done] at retimed
      rw [retimed]
      rfl
  | ok decision =>
      rw [done] at retimed
      rw [retimed]
      refine conclude_retimed (fun plans same => ?_) fun plans same => ?_
      · exact evaluate_new sound awaits (retimed.trans (congrArg Except.ok same))
      · exact evaluate_new sound awaits (done.trans (congrArg Except.ok same))

end

/-- The outcome was recorded and known by the deadline. -/
def Punctual (native : PredictionPublication) (policy : EvaluationPolicy) (outcome : OutcomeObservation) : Prop :=
  ∃ deadline, later native.dueAt policy.outcomeDataDeadlineSeconds = .ok deadline ∧
    outcome.recordedAt ≤ deadline ∧ ∃ known ∈ outcome.knownAt, known ≤ deadline

def IsVerdict (reached : Option (LifecycleState × Option Bool)) : Prop :=
  ∃ state correct, reached = some (state, correct) ∧
    state ∈ [LifecycleState.evaluatedCorrect, .evaluatedIncorrect]

/-- What evaluating an outcome promises: the result does not depend on when it is computed, and
is a verdict only where the outcome was punctual. -/
structure DeadlineBinds (correctness : Correctness) (stored : Store) (predictionId : String)
    (native : PredictionPublication) (policy : EvaluationPolicy) (outcome : OutcomeObservation) : Prop where
  alike : ∀ first second, Observed outcome first → Observed outcome second →
    (evaluated correctness stored predictionId (some outcome) second).map result =
      (evaluated correctness stored predictionId (some outcome) first).map result
  punctual : ∀ context returned, evaluated correctness stored predictionId (some outcome) context = .ok returned →
    IsVerdict (result returned) → Punctual native policy outcome

/-- The identity of the record that the outcome was selected. -/
def selectedId (predictionId : String) (current : AnalyticalRecord) : String :=
  recordId evaluationType [("prediction_id", .str predictionId), ("state", .str "evaluable"),
    ("predecessor", .str current.id)]

/-- The identity of the verdict. -/
def decidedId (predictionId : String) (current : AnalyticalRecord) (correct : Bool) : String :=
  recordId evaluationType [("prediction_id", .str predictionId),
    ("state", .str (if correct then LifecycleState.evaluatedCorrect else .evaluatedIncorrect).text),
    ("predecessor", .str (selectedId predictionId current))]

/-- No record has the identity of the selected outcome or of the verdict on it. -/
structure Free (stored : Store) (predictionId : String) (current : AnalyticalRecord) (correct : Bool) : Prop where
  selected : selectedId predictionId current ∉ stored.map AnalyticalRecord.id
  decided : decidedId predictionId current correct ∉ stored.map AnalyticalRecord.id
  apart : decidedId predictionId current correct ≠ selectedId predictionId current

/-- A verdict on the outcome can be recorded. -/
structure Recordable (stored : Store) (predictionId : String) (current : AnalyticalRecord)
    (native : PredictionPublication) (policy : EvaluationPolicy) (outcome : OutcomeObservation)
    (correct : Bool) : Prop where
  admissible : Admissible native policy outcome
  known : outcome.knownAt ≠ none
  evidence : ∀ text ∈ outcome.evidenceReferences, blank text = false
  deadline : ∃ deadline, later native.dueAt policy.outcomeDataDeadlineSeconds = .ok deadline
  free : Free stored predictionId current correct

section

variable {predictionId : String} {publication policyRecord current : AnalyticalRecord}
  {native : PredictionPublication} {policy : EvaluationPolicy} {outcome : OutcomeObservation}
  {context : EvaluationContext} {returned : Option AnalyticalRecord × Store}

theorem Evaluates.reached {state : LifecycleState} {predecessor : Option AnalyticalRecord}
    {outcome : Option OutcomeObservation} {made : AnalyticalRecord}
    (evaluates : Evaluates publication policyRecord state context predecessor outcome made) :
    ∃ correct, PredictionEvaluation.reached made = some (state, correct) := by
  obtain ⟨lifecycle, payload, -⟩ := evaluates.binds
  have read := evaluates.state?
  unfold AnalyticalRecord.state? at read
  unfold PredictionEvaluation.reached
  rw [payload] at read ⊢
  exact ⟨lifecycle.correctness, by rw [← Option.some.inj read]⟩

theorem not_isVerdict {state : LifecycleState} {correct : Option Bool}
    (other : state ∉ [LifecycleState.evaluatedCorrect, .evaluatedIncorrect]) :
    ¬IsVerdict (some (state, correct)) := by
  rintro ⟨_, _, same, verdict⟩
  cases same
  exact other verdict

theorem Awaits.not_isVerdict
    (awaits : Awaits stored predictionId publication policyRecord current native policy) :
    ¬IsVerdict (reached current) := by
  obtain ⟨state, waiting, read⟩ := awaits.state
  rintro ⟨_, _, same, verdict⟩
  unfold AnalyticalRecord.state? at read
  unfold reached at same
  cases payload : current.payload with
  | evaluation lifecycle =>
      rw [payload] at read same
      cases same
      cases read
      revert waiting verdict
      cases lifecycle.state <;> decide
  | policy bound =>
      rw [payload] at same
      cases same
  | publication native id =>
      rw [payload] at same
      cases same
  | snapshot kind id aggregate =>
      rw [payload] at same
      cases same

theorem persist_fresh (absent : plan.record ∉ stored) (done : stored.persist plan = .ok after) :
    plan.record.id ∉ stored.map AnalyticalRecord.id ∧ after = stored ++ [plan.record] :=
  (persist_ok done).resolve_left fun old => absent old.1

/-- A verdict is recorded of an outcome only where it can be. -/
theorem recordable_of_verdict (sound : Sound stored)
    (awaits : Awaits stored predictionId publication policyRecord current native policy)
    (done : evaluated correctness stored predictionId (some outcome) context = .ok returned)
    (verdict : IsVerdict (result returned)) :
    ∃ correct calculation, correctness native policy outcome = .ok (correct, calculation) ∧
      Recordable stored predictionId current native policy outcome correct := by
  obtain ⟨decision, decided, concluded⟩ := bind_ok.mp done
  have on := evaluate_decided awaits decided
  cases on with
  | answered =>
      cases concluded
      exact absurd verdict awaits.not_isVerdict
  | @advanced write target other evaluates =>
      obtain ⟨_, -, same⟩ := bind_ok.mp concluded
      cases same
      obtain ⟨value, reached⟩ := evaluates.reached
      have last : result (some write.record, ‹Store›) = some (target, value) := reached
      refine absurd (last ▸ verdict) (not_isVerdict ?_)
      revert other
      cases target <;> decide
  | @decided first second verdicts =>
      obtain ⟨after, written, -⟩ := bind_ok.mp concluded
      obtain ⟨between, one, rest⟩ := persistMany_cons written
      obtain ⟨_, two, last⟩ := persistMany_cons rest
      cases last
      obtain ⟨correct, calculation, answer, decides⟩ := verdicts.decides
      obtain ⟨-, -, published, -⟩ := awaits.target
      have new := evaluate_new sound awaits decided
      obtain ⟨first_fresh, rfl⟩ := persist_fresh new.1 one
      obtain ⟨second_fresh, -⟩ := persist_fresh (new.2 first_fresh).1 two
      have selected : first.record.id = selectedId predictionId current := by
        rw [verdicts.selects.identity, published]
        rfl
      have terminal : second.record.id = decidedId predictionId current correct := by
        rw [decides.identity, published, decidedId, ← selected]
        rfl
      rw [List.map_append, List.mem_append, not_or] at second_fresh
      obtain ⟨known, there, -⟩ := verdicts.eligible.1.2
      refine ⟨correct, calculation, answer, verdicts.eligible.2, ?_, verdicts.evidence, verdicts.deadline,
        ?_, ?_, ?_⟩
      · rw [Option.mem_def.mp there]
        nofun
      · rw [← selected]
        exact first_fresh
      · rw [← terminal]
        exact second_fresh.1
      · rw [← terminal, ← selected]
        exact fun same => second_fresh.2 (List.mem_singleton.mpr same)

theorem native_ok (read : publication.native = .ok native) : ∃ id, publication.payload = .publication native id := by
  unfold AnalyticalRecord.native at read
  split at read
  · rename_i found id payload
    cases read
    exact ⟨id, payload⟩
  · cases read

theorem policy_ok (read : policyRecord.policy = .ok policy) : policyRecord.payload = .policy policy := by
  unfold AnalyticalRecord.policy at read
  split at read
  · rename_i found payload
    cases read
    exact payload
  · cases read

/-- An evaluation of a stored publication is made, unless its identity is the predecessor's. -/
theorem evaluationRecord_makes (sound : Sound stored)
    (awaits : Awaits stored predictionId publication policyRecord current native policy)
    (evidence : ∀ text ∈ outcome.evidenceReferences, blank text = false) {state : LifecycleState}
    {head : AnalyticalRecord} {reason correctionReason : String} {correct : Option Bool}
    (given : correctionReason ≠ "")
    (apart : head.id ≠ recordId evaluationType [("prediction_id", .str predictionId), ("state", .str state.text),
      ("predecessor", .str head.id)]) :
    ∃ made, evaluationRecord publication policyRecord state context (some head) reason (some outcome) correct
      (some correctionReason) = .ok made := by
  obtain ⟨publication_in, policy_in, -, -, -⟩ := currentBundle_ok awaits.bundle
  obtain ⟨-, -, published, -, -⟩ := awaits.target
  obtain ⟨id, payload⟩ := native_ok awaits.native
  have bound := sound.bound publication publication_in
  rw [Bound, payload] at bound
  have ruled := sound.bound policyRecord policy_in
  rw [Bound, policy_ok awaits.policy] at ruled
  refine ⟨_, bind_ok.mpr ⟨native, awaits.native, bind_ok.mpr ⟨(), ?_, rfl⟩⟩⟩
  simp only [AnalyticalRecord.check, bind_ok, exists_unit, require_ok]
  refine ⟨?_, ?_, rfl, ?_, ?_, evidence, require_bind_ok.mpr ⟨?_, require_ok.mpr ⟨by rintro ⟨⟩, ?_⟩⟩⟩
  · intro text there
    rw [bound.2.1] at there
    exact Option.some.inj there ▸ native.texts _ (by simp)
  · intro text there
    rw [bound.2.2] at there
    exact Option.some.inj there ▸ native.texts _ (by simp)
  · intro text there
    simp only [Option.map_some, Option.toList_some, List.cons_append, List.nil_append, List.mem_cons,
      List.not_mem_nil, or_false] at there
    rcases there with rfl | rfl | rfl
    · exact bound.1
    · exact ruled
    · exact outcome.texts _ (by simp)
  · intro text there
    simp only [Option.map_some, Option.toList_some, List.cons_append, List.nil_append, List.mem_cons,
      List.not_mem_nil, or_false] at there
    rcases there with rfl | rfl | rfl
    · decide
    · decide
    · exact outcome.texts _ (by simp)
  · rw [published]
    exact apart
  · exact fun empty => given (Option.some.inj empty)

theorem checkOperation_named {head : AnalyticalRecord} (distinct : (stored.map AnalyticalRecord.id).Nodup)
    (there : head ∈ stored) (names : plan.record.supersedesId = some head.id)
    (same : head.logicalIdentity = plan.record.logicalIdentity) : stored.checkOperation plan = .ok () := by
  unfold Store.checkOperation
  cases plan.operation with
  | create => rfl
  | correct =>
      simp only [names, Option.getD_some, load_of_mem distinct there]
      exact require_of same

theorem logicalIdentity_of {record : AnalyticalRecord} (evaluation : IsEvaluation record) :
    record.logicalIdentity = evaluationType ++ ":" ++ record.targetIdentity :=
  congrArg (fun type => type ++ ":" ++ record.targetIdentity) evaluation

/-- Where a verdict can be recorded it is, once the outcome is recorded and known. -/
theorem verdict_of_recordable {correct : Bool} {calculation : String}
    (answer : correctness native policy outcome = .ok (correct, calculation)) (sound : Sound stored)
    (awaits : Awaits stored predictionId publication policyRecord current native policy)
    (observed : Observed outcome context)
    (recordable : Recordable stored predictionId current native policy outcome correct) :
    ∃ returned, evaluated correctness stored predictionId (some outcome) context = .ok returned ∧
      IsVerdict (result returned) := by
  obtain ⟨current_in, evaluation, published, target, -⟩ := awaits.target
  have free := recordable.free
  let verdict : LifecycleState := if correct then .evaluatedCorrect else .evaluatedIncorrect
  -- the two records
  obtain ⟨evaluable, selected⟩ := @evaluationRecord_makes stored predictionId publication policyRecord current native
    policy outcome context sound awaits recordable.evidence .evaluable current
    "compatible strict-known outcome selected" "authorized outcome selection" none (by decide) fun same =>
      free.selected (by
        rw [show selectedId predictionId current = current.id from same.symm]
        exact List.mem_map_of_mem current_in)
  have selects := evaluationRecord_ok selected
  have selectedIdentity : evaluable.id = selectedId predictionId current := by
    rw [selects.identity, published]
    rfl
  obtain ⟨terminal, decided⟩ := @evaluationRecord_makes stored predictionId publication policyRecord current native
    policy outcome context sound awaits recordable.evidence verdict evaluable calculation
    "deterministic policy evaluation" (some correct) (by decide) fun same =>
      free.apart (by rw [decidedId, ← selectedIdentity]; exact same.symm)
  have decides := evaluationRecord_ok decided
  have decidedIdentity : terminal.id = decidedId predictionId current correct := by
    rw [decides.identity, published, decidedId, ← selectedIdentity]
    rfl
  -- the decision
  obtain ⟨deadline, late⟩ := recordable.deadline
  obtain ⟨state, waiting, read⟩ := awaits.state
  have plan : evaluate correctness stored predictionId (some outcome) context =
      .ok (.planned [⟨evaluable, .correct⟩, ⟨terminal, .correct⟩]) := by
    have readable : current.state = .ok state := by
      unfold AnalyticalRecord.state
      rw [read]
    have undecided : state ∉ [LifecycleState.evaluatedCorrect, .evaluatedIncorrect] := by
      revert waiting
      cases state <;> decide
    have made : verdictRecords correctness publication policyRecord context current (some outcome) =
        .ok (evaluable, terminal) := by
      refine bind_ok.mpr ⟨native, awaits.native, bind_ok.mpr ⟨policy, awaits.policy, bind_ok.mpr
        ⟨evaluable, selected, bind_ok.mpr ⟨(correct, calculation), answer, bind_ok.mpr ⟨terminal, decided, rfl⟩⟩⟩⟩⟩
    have first : authorize evaluable .correct = .ok ⟨evaluable, .correct⟩ := by
      refine require_bind_ok.mpr ⟨nofun, require_bind_ok.mpr ⟨fun _ => ?_, rfl⟩⟩
      rw [selects.supersedes]
      nofun
    have second : authorize terminal .correct = .ok ⟨terminal, .correct⟩ := by
      refine require_bind_ok.mpr ⟨nofun, require_bind_ok.mpr ⟨fun _ => ?_, rfl⟩⟩
      rw [decides.supersedes]
      nofun
    refine bind_ok.mpr ⟨_, awaits.bundle, bind_ok.mpr ⟨state, readable, ?_⟩⟩
    rw [if_neg undecided]
    refine bind_ok.mpr ⟨(), require_of waiting, bind_ok.mpr ⟨policy, awaits.policy, bind_ok.mpr
      ⟨native, awaits.native, bind_ok.mpr ⟨deadline, late, bind_ok.mpr
        ⟨_, outcomeEligibility_admissible observed recordable.admissible,
        bind_ok.mpr ⟨_, made, bind_ok.mpr ⟨_, first, bind_ok.mpr ⟨_, second, rfl⟩⟩⟩⟩⟩⟩⟩⟩
  -- its writes
  have sameTarget : current.logicalIdentity = evaluable.logicalIdentity := by
    rw [logicalIdentity_of evaluation, logicalIdentity_of selects.isEvaluation, target, selects.target, published]
  have one : stored.persist ⟨evaluable, .correct⟩ = .ok (stored ++ [evaluable]) := by
    rw [persist_new (awaits.new selects),
      checkOperation_named sound.distinct current_in selects.supersedes sameTarget,
      ok_bind, if_neg (selectedIdentity ▸ free.selected)]
  have sound' : Sound (stored ++ [evaluable]) :=
    sound.persist ⟨bound_of_made selected, fun _ create => by cases create⟩ one
  have fresh : terminal.id ∉ (stored ++ [evaluable]).map AnalyticalRecord.id := by
    rw [List.map_append, List.mem_append, not_or, decidedIdentity]
    refine ⟨free.decided, fun last => free.apart ?_⟩
    rw [← selectedIdentity]
    exact List.mem_singleton.mp last
  have two : (stored ++ [evaluable]).persist ⟨terminal, .correct⟩ = .ok (stored ++ [evaluable] ++ [terminal]) := by
    rw [persist_new fun there => fresh (List.mem_map_of_mem there),
      checkOperation_named sound'.distinct (List.mem_append_right _ (List.mem_singleton_self _)) decides.supersedes
        (by rw [logicalIdentity_of selects.isEvaluation, logicalIdentity_of decides.isEvaluation, selects.target,
          decides.target]), ok_bind, if_neg fresh]
  obtain ⟨value, reached⟩ := decides.reached
  refine ⟨(some terminal, stored ++ [evaluable] ++ [terminal]), ?_, verdict, value, reached, ?_⟩
  · refine bind_ok.mpr ⟨_, plan, bind_ok.mpr ⟨stored ++ [evaluable] ++ [terminal], ?_, rfl⟩⟩
    exact bind_ok.mpr ⟨_, one, bind_ok.mpr ⟨_, two, rfl⟩⟩
  · cases correct <;> decide

variable {F : Type} {floats : Floats F}

/-- The verdict on an outcome that can be compared. -/
def verdictOn (floats : Floats F) (native : PredictionPublication) (policy : EvaluationPolicy)
    (outcome : OutcomeObservation) : Bool :=
  match comparison floats native policy outcome with
  | .ok (correct, _) => correct
  | .error _ => false

theorem comparison_ok (admissible : Admissible native policy outcome) :
    ∃ calculation, comparison floats native policy outcome =
      .ok (verdictOn floats native policy outcome, calculation) := by
  have compared : ∃ value, measured floats native policy outcome = .ok value := by
    unfold measured
    cases mode : policy.comparisonMode with
    | absoluteThreshold => exact ⟨_, rfl⟩
    | changeFromBaseline => exact ⟨_, rfl⟩
    | benchmarkRelative =>
        have given := (admissible.benchmark mode).2
        cases benchmark : outcome.benchmarkValue with
        | none => exact absurd benchmark given
        | some value => exact ⟨_, rfl⟩
  obtain ⟨value, compared⟩ := compared
  have answer : ∃ correct calculation, comparison floats native policy outcome = .ok (correct, calculation) :=
    ⟨_, _, bind_ok.mpr ⟨value, compared, rfl⟩⟩
  obtain ⟨correct, calculation, answer⟩ := answer
  refine ⟨calculation, ?_⟩
  unfold verdictOn
  rw [answer]

/-- In every state of every run, for every prediction that waits and every outcome. -/
theorem deadlineBinds_iff {events : List Event} {state : State}
    (run : Run (Step (comparison floats)) .initial events state)
    (awaits : Awaits state.stored predictionId publication policyRecord current native policy)
    (outcome : OutcomeObservation) :
    DeadlineBinds (comparison floats) state.stored predictionId native policy outcome ↔
      Punctual native policy outcome ∨ ¬Recordable state.stored predictionId current native policy outcome
        (verdictOn floats native policy outcome) := by
  have sound := (keeps_run run).sound
  constructor
  · intro binds
    rw [or_iff_not_imp_right, not_not]
    intro recordable
    obtain ⟨calculation, answer⟩ := @comparison_ok _ _ _ F floats recordable.admissible
    obtain ⟨known, there⟩ := Option.ne_none_iff_exists'.mp recordable.known
    -- at the very time it was recorded
    have observed : Observed outcome ⟨outcome.recordedAt, outcome.recordedAt, le_refl _⟩ :=
      ⟨le_refl _, known, there, outcome.known known there⟩
    obtain ⟨returned, done, verdict⟩ := verdict_of_recordable answer sound awaits observed recordable
    exact binds.punctual _ returned done verdict
  · intro condition
    refine ⟨fun first second one two => evaluated_alike sound awaits one two,
      fun context returned done verdict => ?_⟩
    obtain ⟨correct, calculation, answer, recordable⟩ := recordable_of_verdict sound awaits done verdict
    have same : verdictOn floats native policy outcome = correct := by
      unfold verdictOn
      rw [answer]
    exact condition.resolve_right fun unrecordable => unrecordable (same ▸ recordable)

end

/-- Exact arithmetic, which is that of the floating-point numbers on small integers. -/
def sampleFloats : Floats ℚ where
  float := Decimal.value
  add x y := x + y
  sub x y := x - y
  abs x := |x|
  round x _ := x
  lt x y := x < y
  le x y := x ≤ y
  text x := toString x.num ++ ".0"

/-- An outcome that took effect when the prediction was due. -/
def sampleOutcome (recordedAt : Moment) : OutcomeObservation :=
  { observationId := "outcome", targetId := "token", entityType := "token", sourceType := "exchange"
    sourceVersion := "1", value := ⟨false, 3, 0⟩, measurementUnit := "usd", effectiveAt := instant 9
    recordedAt, knownAt := some recordedAt, evidenceReferences := ["evidence"], benchmarkId := none
    benchmarkValue := none, supersedesId := none, texts := by decide
    known := fun _ there => le_of_eq (Option.some.inj there).symm, provenance := by decide }

theorem late_lt_end : 10 < 3652059 * Calendar.microsPerDay := by decide

def lateMoment : Moment := ⟨10, late_lt_end⟩

def waiting : Store := opened ++ [sampleDue]

theorem waiting_run (correctness : Correctness) :
    ∃ events, Run (Step correctness) .initial events ⟨waiting, []⟩ := by
  have ruled : Call.decide correctness [] (.persistPolicy samplePolicy (contextAt 1)) =
      .ok (.planned [⟨samplePolicyRow, .create⟩]) := sample_policy
  have published : Call.decide correctness [samplePolicyRow]
      (.publish (samplePublication 2) (contextAt 2) none none) =
        .ok (.planned [⟨firstPublication, .create⟩, ⟨firstPending, .create⟩]) := sample_publish
  have opening : Run (TimelyStep correctness) .initial openingEvents ⟨opened, []⟩ :=
    timely_call (timely_call Run.nil ruled sample_timely.1 sample_writes.1) published sample_timely.2.1
      sample_writes.2.1
  have due : Call.decide correctness opened (.transition "prediction" .due (contextAt 9) "due") =
      .ok (.planned [⟨sampleDue, .correct⟩]) := sample_due
  exact ⟨_, ((opening.imp fun _ _ _ step => step.1).snoc (read_planned due)).snoc
    (write_first sample_writes.2.2.2.1)⟩

theorem waiting_awaits : Awaits waiting "prediction" firstPublication samplePolicyRow sampleDue
    (samplePublication 2) samplePolicy where
  bundle := by decide +kernel
  native := rfl
  policy := rfl
  state := ⟨.due, by decide, rfl⟩

theorem deadlineBinds_sample : DeadlineBinds (comparison sampleFloats) waiting "prediction" (samplePublication 2)
    samplePolicy (sampleOutcome (instant 9)) := by
  obtain ⟨events, run⟩ := waiting_run (comparison sampleFloats)
  refine (deadlineBinds_iff run waiting_awaits _).mpr (Or.inl ⟨instant 9, ?_, le_refl _, _, rfl, le_refl _⟩)
  decide

theorem late_selectedId : selectedId "prediction" sampleDue =
    sampleId "bba299f1e1f22f96aabf53004ae89946d7910ecd71b7a289fc823aeae223df58" := by
  rw [selectedId, recordId, stableIdentifier, Json.asciiDumps, sha256_ofList]
  decide +kernel

theorem late_decidedId : decidedId "prediction" sampleDue true =
    sampleId "0f2fd19835fe141995f22c58b347e95084254990892d22f91df29b18d59fe9df" := by
  rw [decidedId, late_selectedId, recordId, stableIdentifier, Json.asciiDumps, sha256_ofList]
  decide +kernel

theorem late_recordable : Recordable waiting "prediction" sampleDue (samplePublication 2) samplePolicy
    (sampleOutcome lateMoment) true where
  admissible := ⟨by decide, by decide, by decide⟩
  known := nofun
  evidence := by decide
  deadline := ⟨instant 9, by decide⟩
  free := by
    refine ⟨?_, ?_, ?_⟩
    · rw [late_selectedId]
      decide
    · rw [late_decidedId]
      decide
    · rw [late_decidedId, late_selectedId]
      decide

/-- An outcome that was recorded after the deadline is evaluated as correct. -/
theorem deadlineBinds_fails : ∃ events, Run (Step (comparison sampleFloats)) .initial events ⟨waiting, []⟩ ∧
    Awaits waiting "prediction" firstPublication samplePolicyRow sampleDue (samplePublication 2) samplePolicy ∧
      ¬DeadlineBinds (comparison sampleFloats) waiting "prediction" (samplePublication 2) samplePolicy
        (sampleOutcome lateMoment) := by
  obtain ⟨events, run⟩ := waiting_run (comparison sampleFloats)
  refine ⟨events, run, waiting_awaits, fun binds => ?_⟩
  obtain ⟨calculation, answer⟩ := @comparison_ok _ _ _ ℚ sampleFloats late_recordable.admissible
  have correct : verdictOn sampleFloats (samplePublication 2) samplePolicy (sampleOutcome lateMoment) = true := by
    decide +kernel
  rw [correct] at answer
  have observed : Observed (sampleOutcome lateMoment) ⟨lateMoment, lateMoment, le_refl _⟩ :=
    ⟨le_refl _, lateMoment, rfl, le_refl _⟩
  obtain ⟨returned, done, verdict⟩ := verdict_of_recordable answer (keeps_run run).sound waiting_awaits observed
    late_recordable
  obtain ⟨deadline, found, recorded, -⟩ := binds.punctual _ returned done verdict
  have early : later (samplePublication 2).dueAt samplePolicy.outcomeDataDeadlineSeconds = .ok (instant 9) := by
    decide
  cases early.symm.trans found
  exact absurd recorded (by decide)

end Hunter.PredictionEvaluation
