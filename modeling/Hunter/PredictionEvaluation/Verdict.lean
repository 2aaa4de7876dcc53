import Hunter.PredictionEvaluation.Lifecycle

/-!
A prediction has one verdict. Calls that read one head may each plan a record that follows it,
and a corrected publication starts again after whatever the head is. Where a write finds its head
without another successor, and no correction starts again after a settled head, the evaluations
of every prediction stay one line that starts at `pending`.
-/

namespace Hunter.PredictionEvaluation

open Calendar Fallible Supersession Lineage
open LifecycleState (Before Settled)
open MarketValidation (sha256_ofList)

variable {correctness : Correctness} {stored after : Store} {plans : List AuthorizedAnalyticalWrite}

/-- What the planned rows are, given the rows that were there. -/
inductive Planned (correctness : Correctness) (stored : Store) : List AuthorizedAnalyticalWrite → Prop where
  | policy {write : AuthorizedAnalyticalWrite} (other : ¬IsEvaluation write.record) :
      Planned correctness stored [write]
  | created {first second : AuthorizedAnalyticalWrite} (other : ¬IsEvaluation first.record)
      (root : Root second.record) : Planned correctness stored [first, second]
  | corrected {first second : AuthorizedAnalyticalWrite} {head : AnalyticalRecord}
      (publication : first.record.semanticType = publicationType)
      (corrects : first.record.supersedesId ≠ none) (start : second.record.state? = some .pending)
      (binds : publicationRecordId? second.record = some first.record.id) (there : head ∈ stored)
      (follows : Follows head second.record) : Planned correctness stored [first, second]
  | advanced {write : AuthorizedAnalyticalWrite} {head : AnalyticalRecord} {s t : LifecycleState}
      (there : head ∈ stored) (follows : Follows head write.record) (head_state : head.state? = some s)
      (state : write.record.state? = some t) (allowed : t ∈ s.allowedTransitions) (other : t ≠ .evaluable) :
      Planned correctness stored [write]
  | evaluated {first second : AuthorizedAnalyticalWrite} {publication policyRecord head : AnalyticalRecord}
      {s : LifecycleState} {context : EvaluationContext} {outcome : Option OutcomeObservation}
      (publication_in : publication ∈ stored) (policy_in : policyRecord ∈ stored) (there : head ∈ stored)
      (follows : Follows head first.record) (head_state : head.state? = some s)
      (allowed : .evaluable ∈ s.allowedTransitions)
      (made : verdictRecords correctness publication policyRecord context head outcome =
        .ok (first.record, second.record)) : Planned correctness stored [first, second]

theorem Planned.mono (planned : Planned correctness stored plans) (grows : stored ⊆ after) :
    Planned correctness after plans := by
  cases planned with
  | policy other => exact .policy other
  | created other root => exact .created other root
  | corrected publication corrects start binds there follows =>
      exact .corrected publication corrects start binds (grows there) follows
  | advanced there follows head_state state allowed other =>
      exact .advanced (grows there) follows head_state state allowed other
  | evaluated publication_in policy_in there follows head_state allowed made =>
      exact .evaluated (grows publication_in) (grows policy_in) (grows there) follows head_state allowed made

theorem current_some {semanticType target : String} {record : AnalyticalRecord}
    (found : stored.current semanticType target = some record) :
    record ∈ stored ∧ record.semanticType = semanticType ∧ record.targetIdentity = target := by
  have inside := List.mem_mergeSort.mp (List.mem_of_mem_head? (Option.mem_def.mpr found))
  have listed := List.mem_of_mem_filter inside
  obtain ⟨there, here⟩ := List.mem_filter.mp listed
  exact ⟨there, of_decide_eq_true here⟩

theorem loadPolicy_ok {policyId version : String} {record : AnalyticalRecord}
    (done : loadPolicy stored policyId version = .ok record) : record ∈ stored := by
  unfold loadPolicy at done
  cases found : stored.current policyType (policyTarget policyId version) with
  | none =>
      rw [found] at done
      cases done
  | some policy =>
      rw [found] at done
      cases done
      exact (current_some found).1

theorem currentBundle_ok {predictionId : String} {publication policy current : AnalyticalRecord}
    (done : currentBundle stored predictionId = .ok (publication, policy, current)) :
    publication ∈ stored ∧ policy ∈ stored ∧ current ∈ stored ∧ IsEvaluation current ∧
      current.targetIdentity = publication.targetIdentity := by
  unfold currentBundle at done
  cases published : stored.current publicationType predictionId with
  | none =>
      rw [published] at done
      cases done
  | some found =>
      cases evaluated : stored.current evaluationType predictionId with
      | none =>
          rw [published, evaluated] at done
          cases done
      | some head =>
          simp only [published, evaluated, bind_ok, pure_eq_ok, Except.ok.injEq, Prod.mk.injEq] at done
          obtain ⟨native, -, policy, loaded, rfl, rfl, rfl⟩ := done
          have first := current_some published
          have second := current_some evaluated
          exact ⟨first.1, loadPolicy_ok loaded, second.1, second.2.1, second.2.2.trans first.2.2.symm⟩

theorem state_ok {record : AnalyticalRecord} {state : LifecycleState} (done : record.state = .ok state) :
    record.state? = some state := by
  unfold AnalyticalRecord.state at done
  cases read : record.state? with
  | none =>
      rw [read] at done
      cases done
  | some found =>
      rw [read] at done
      cases done
      rfl

theorem authorize_ok {record : AnalyticalRecord} {operation : Operation} {write : AuthorizedAnalyticalWrite}
    (done : authorize record operation = .ok write) : write.record = record := by
  simp only [authorize, require_bind_ok, pure_eq_ok, Except.ok.injEq] at done
  obtain ⟨-, -, rfl⟩ := done
  rfl

theorem requireTransition_ok {current : AnalyticalRecord} {target : LifecycleState}
    (done : requireTransition current target = .ok ()) :
    ∃ s, current.state? = some s ∧ target ∈ s.allowedTransitions := by
  simp only [requireTransition, bind_ok, require_ok] at done
  obtain ⟨s, read, allowed⟩ := done
  exact ⟨s, state_ok read, allowed⟩

section

variable {publication policy current : AnalyticalRecord} {target : LifecycleState}
  {context : EvaluationContext} {reason correctionReason : String} {outcome : Option OutcomeObservation}

theorem advance_planned (there : current ∈ stored) (evaluation : IsEvaluation current)
    (same : current.targetIdentity = publication.targetIdentity) (other : target ≠ .evaluable)
    (required : requireTransition current target = .ok ())
    (done : advance publication policy current target context reason outcome correctionReason =
      .ok (.planned plans)) : Planned correctness stored plans := by
  simp only [advance, bind_ok, pure_eq_ok, Except.ok.injEq, Decision.planned.injEq] at done
  obtain ⟨successor, made, write, authorized, rfl⟩ := done
  obtain ⟨s, head_state, allowed⟩ := requireTransition_ok required
  cases authorize_ok authorized
  have evaluates := evaluationRecord_ok made
  exact .advanced there (evaluates.follows rfl evaluation same) head_state evaluates.state? allowed other

end

theorem publish_planned {publication : PredictionPublication} {context : EvaluationContext}
    {predecessor : Option AnalyticalRecord} {correctionReason : Option String}
    (done : publish stored publication context predecessor correctionReason = .ok (.planned plans)) :
    Planned correctness stored plans := by
  simp only [publish, bind_ok, exists_unit, pure_eq_ok, Except.ok.injEq, Decision.planned.injEq] at done
  obtain ⟨-, policyRecord, -, policy, -, -, -, -, corrected, published, initial, evaluated, first, one, second,
    two, rfl⟩ := done
  obtain ⟨-, -, -, supersedes, payload, -⟩ := record_ok published
  have type : corrected.semanticType = publicationType := by
    rw [AnalyticalRecord.semanticType, payload]
    rfl
  have evaluates := evaluationRecord_ok evaluated
  cases authorize_ok one
  cases authorize_ok two
  have other : ¬IsEvaluation first.record := by
    rw [IsEvaluation, type]
    decide
  cases predecessor with
  | none => exact .created other (evaluates.root rfl rfl)
  | some earlier =>
      cases found : stored.current evaluationType publication.predictionId with
      | none => exact .created other (evaluates.root rfl found)
      | some head =>
          obtain ⟨there, evaluation, target⟩ := current_some found
          have same : first.record.targetIdentity = publication.predictionId := by
            rw [AnalyticalRecord.targetIdentity, payload]
            rfl
          refine .corrected type ?_ evaluates.state? evaluates.publicationRecordId? there
            (evaluates.follows found evaluation (target.trans same.symm))
          rw [supersedes]
          rintro ⟨⟩

theorem transition_planned {predictionId reason : String} {target : LifecycleState}
    {context : EvaluationContext}
    (done : transition stored predictionId target context reason = .ok (.planned plans)) :
    Planned correctness stored plans := by
  simp only [transition, bind_ok, exists_unit, require_ok, Prod.exists] at done
  obtain ⟨outside, publication, policy, current, bundle, done⟩ := done
  obtain ⟨-, -, there, evaluation, same⟩ := currentBundle_ok bundle
  split at done
  · cases done
  · simp only [bind_ok, exists_unit] at done
    obtain ⟨required, -, state, -, advanced⟩ := done
    refine advance_planned there evaluation same ?_ required advanced
    rintro rfl
    exact outside (by decide)

theorem evaluate_planned {predictionId : String} {outcome : Option OutcomeObservation}
    {context : EvaluationContext}
    (done : evaluate correctness stored predictionId outcome context = .ok (.planned plans)) :
    Planned correctness stored plans := by
  simp only [evaluate, bind_ok, Prod.exists] at done
  obtain ⟨publication, policyRecord, current, bundle, state, read, done⟩ := done
  obtain ⟨publication_in, policy_in, there, evaluation, same⟩ := currentBundle_ok bundle
  split at done
  · cases done
  simp only [bind_ok, exists_unit, require_ok, Prod.exists] at done
  obtain ⟨ready, policy, -, native, -, deadline, -, target, reason, -, done⟩ := done
  split at done
  · rename_i other
    split at done
    · cases done
    · obtain ⟨_, required, advanced⟩ := bind_ok.mp done
      exact advance_planned there evaluation same other required advanced
  · simp only [bind_ok, Prod.exists, pure_eq_ok, Except.ok.injEq, Decision.planned.injEq] at done
    obtain ⟨evaluable, terminal, made, first, one, second, two, rfl⟩ := done
    cases authorize_ok one
    cases authorize_ok two
    refine .evaluated publication_in policy_in there ?_ (state_ok read) ?_ made
    · exact (verdictRecords_ok made).1.follows rfl evaluation same
    · revert ready
      cases state <;> decide

theorem decide_planned {call : Call} (done : call.decide correctness stored = .ok (.planned plans)) :
    Planned correctness stored plans := by
  cases call with
  | persistPolicy policy context =>
      simp only [Call.decide, persistPolicy, bind_ok, pure_eq_ok, Except.ok.injEq, Decision.planned.injEq] at done
      obtain ⟨made, recorded, write, authorized, rfl⟩ := done
      obtain ⟨-, -, -, -, payload, -⟩ := record_ok recorded
      cases authorize_ok authorized
      refine .policy ?_
      rw [IsEvaluation, AnalyticalRecord.semanticType, payload]
      exact (by decide : policyType ≠ evaluationType)
  | publish publication context predecessor reason => exact publish_planned done
  | transition predictionId target context reason => exact transition_planned done
  | evaluate predictionId outcome context => exact evaluate_planned done

/-- When it is written, no other record follows the head of the planned evaluation, and it does
not start again after a settled one. -/
def Timely (stored : Store) (plans : List AuthorizedAnalyticalWrite) : Prop :=
  ∀ record ∈ (plans.map AuthorizedAnalyticalWrite.record).find? fun record => IsEvaluation record,
    ∀ head ∈ stored, record.supersedesId = some head.id →
      (∀ other ∈ stored, other.supersedesId = some head.id → other.id = record.id) ∧
        (record.state? = some .pending → ∀ state ∈ head.state?, ¬state.Settled)

/-- The verdict on every selected outcome is stored with it. -/
def Selected (correctness : Correctness) (stored : Store) : Prop :=
  ∀ record ∈ stored, record.state? = some .evaluable →
    ∃ publication ∈ stored, ∃ policyRecord ∈ stored, ∃ head ∈ stored, ∃ context outcome terminal,
      terminal ∈ stored ∧
        verdictRecords correctness publication policyRecord context head outcome = .ok (record, terminal)

theorem Selected.persisted {plan : AuthorizedAnalyticalWrite} (selected : Selected correctness stored)
    (other : plan.record.state? ≠ some .evaluable) (done : stored.persist plan = .ok after) :
    Selected correctness after := by
  intro record inside state
  have old : record ∈ stored := by
    cases persist_ok done with
    | inl same => exact same.2 ▸ inside
    | inr new =>
        rw [new.2] at inside
        cases List.mem_append.mp inside with
        | inl there => exact there
        | inr last => exact absurd (List.mem_singleton.mp last ▸ state) other
  have grows := (persist_subset done).1
  obtain ⟨publication, published, policyRecord, ruled, head, there, context, outcome, terminal, kept, made⟩ :=
    selected record old state
  exact ⟨publication, grows published, policyRecord, grows ruled, head, grows there, context, outcome, terminal,
    grows kept, made⟩

theorem not_evaluable {record : AnalyticalRecord} (other : ¬IsEvaluation record) :
    record.state? ≠ some .evaluable := fun state => other (isEvaluation_iff.mpr ⟨_, state⟩)

/-- The evaluation that names a head which nothing else names. -/
theorem Chained.followed {plan : AuthorizedAnalyticalWrite} {head : AnalyticalRecord} (chained : Chained stored)
    (there : head ∈ stored) (follows : Follows head plan.record)
    (sole : ∀ other ∈ evaluations stored, other.supersedesId = some head.id → other.id = plan.record.id)
    (moves : Moves after head plan.record) (precedes : Precedes head plan.record)
    (done : stored.persist plan = .ok after) : Chained after := by
  cases persist_ok done with
  | inl old => exact old.2 ▸ chained
  | inr new =>
      obtain ⟨fresh, rfl⟩ := new
      refine chained.next fresh there follows (fun other inside names => fresh ?_) moves precedes
      exact sole other inside names ▸ List.mem_map_of_mem (mem_evaluations.mp inside).1

/-- A record that is not stored has no successor. -/
theorem Chained.unnamed {identity : String} (chained : Chained stored)
    (absent : identity ∉ stored.map AnalyticalRecord.id) :
    ∀ other ∈ evaluations stored, other.supersedesId ≠ some identity := by
  intro other inside names
  cases chained.grounded other inside with
  | inl root => cases root.parentless.symm.trans names
  | inr later =>
      obtain ⟨head, there, follows, -⟩ := later
      have same : head.id = identity := Option.some.inj (follows.names.symm.trans names)
      exact absent (same ▸ List.mem_map_of_mem there)

theorem precedes_of_allowed {a b : AnalyticalRecord} {s t : LifecycleState} (a_state : a.state? = some s)
    (b_state : b.state? = some t) (allowed : t ∈ s.allowedTransitions) : Precedes a b :=
  ⟨s, t, a_state, b_state, LifecycleState.before_of_allowed allowed⟩

/-- The selected outcome and the verdict on it, which come together. -/
theorem evaluated_written {first second : AuthorizedAnalyticalWrite}
    {publication policyRecord head : AnalyticalRecord} {s : LifecycleState} {context : EvaluationContext}
    {outcome : Option OutcomeObservation} (chained : Chained stored) (selected : Selected correctness stored)
    (publication_in : publication ∈ stored) (policy_in : policyRecord ∈ stored) (there : head ∈ stored)
    (follows : Follows head first.record) (head_state : head.state? = some s)
    (allowed : .evaluable ∈ s.allowedTransitions)
    (made : verdictRecords correctness publication policyRecord context head outcome =
      .ok (first.record, second.record))
    (sole : ∀ other ∈ evaluations stored, other.supersedesId = some head.id → other.id = first.record.id)
    (done : stored.persistMany [first, second] = .ok after) : Chained after ∧ Selected correctness after := by
  obtain ⟨between, one, rest⟩ := persistMany_cons done
  obtain ⟨_, two, last⟩ := persistMany_cons rest
  cases last
  obtain ⟨selects, correct, decides⟩ := verdictRecords_ok made
  cases persist_ok one with
  | inl old =>
      -- the verdict that was stored with the outcome is made from the same records
      obtain ⟨there', rfl⟩ := old
      obtain ⟨publication', published, policyRecord', ruled, head', earlier, context', outcome', terminal,
        kept, made'⟩ := selected first.record there' selects.state?
      have same := selects.unique chained.distinct (verdictRecords_ok made').1 rfl ⟨publication_in, published⟩
        ⟨policy_in, ruled⟩ ⟨there, earlier⟩
      obtain ⟨rfl, rfl, rfl, rfl, rfl⟩ := same
      cases made.symm.trans made'
      cases persist_ok two with
      | inl old => exact old.2 ▸ ⟨chained, selected⟩
      | inr new => exact absurd (List.mem_map_of_mem kept) new.1
  | inr new =>
      obtain ⟨fresh, rfl⟩ := new
      have chained' := chained.followed there follows sole
        ⟨s, .evaluable, head_state, selects.state?, Or.inl allowed⟩
        (precedes_of_allowed head_state selects.state? allowed) one
      have member : first.record ∈ stored ++ [first.record] :=
        List.mem_append_right _ (List.mem_singleton_self _)
      have second_follows : Follows first.record second.record :=
        decides.follows rfl selects.isEvaluation selects.target
      have decided : (if correct then LifecycleState.evaluatedCorrect else .evaluatedIncorrect) ∈
          LifecycleState.evaluable.allowedTransitions := by
        cases correct <;> decide
      have alone : ∀ other ∈ evaluations (stored ++ [first.record]),
          other.supersedesId = some first.record.id → other.id = second.record.id := by
        intro other inside names
        rw [evaluations_snoc selects.isEvaluation] at inside
        cases List.mem_append.mp inside with
        | inl before => exact absurd names (chained.unnamed fresh other before)
        | inr last =>
            rw [List.mem_singleton.mp last] at names
            exact absurd rfl (selects.proper _ names)
      have chained'' := chained'.followed member second_follows alone
        ⟨_, _, selects.state?, decides.state?, Or.inl decided⟩
        (precedes_of_allowed selects.state? decides.state? decided) two
      refine ⟨chained'', ?_⟩
      have grows : stored ⊆ after :=
        List.Subset.trans (List.subset_append_left _ _) (persist_subset two).1
      intro record inside state
      by_cases own : record = first.record
      · subst own
        exact ⟨publication, grows publication_in, policyRecord, grows policy_in, head, grows there, context,
          outcome, second.record, (persist_subset two).2, made⟩
      · have old : record ∈ stored := by
          cases persist_ok two with
          | inl same =>
              rw [same.2] at inside
              exact (List.mem_append.mp inside).resolve_right fun last => own (List.mem_singleton.mp last)
          | inr new =>
              rw [new.2] at inside
              cases List.mem_append.mp inside with
              | inl before =>
                  exact (List.mem_append.mp before).resolve_right fun last => own (List.mem_singleton.mp last)
              | inr last =>
                  rw [List.mem_singleton.mp last, decides.state?] at state
                  cases correct <;> cases state
        obtain ⟨publication', published, policyRecord', ruled, head', earlier, context', outcome', terminal,
          kept, made'⟩ := selected record old state
        exact ⟨publication', grows published, policyRecord', grows ruled, head', grows earlier, context',
          outcome', terminal, grows kept, made'⟩

theorem Planned.written (planned : Planned correctness stored plans) (chained : Chained stored)
    (selected : Selected correctness stored) (timely : Timely stored plans)
    (done : stored.persistMany plans = .ok after) : Chained after ∧ Selected correctness after := by
  cases planned with
  | policy other =>
      obtain ⟨_, one, last⟩ := persistMany_cons done
      cases last
      exact ⟨(persist_other chained other one).1, selected.persisted (not_evaluable other) one⟩
  | created other root =>
      obtain ⟨between, one, rest⟩ := persistMany_cons done
      obtain ⟨_, two, last⟩ := persistMany_cons rest
      cases last
      have chained' := (persist_other chained other one).1
      have selected' := selected.persisted (not_evaluable other) one
      refine ⟨?_, selected'.persisted (by rw [root.pending]; nofun) two⟩
      cases persist_ok two with
      | inl old => exact old.2 ▸ chained'
      | inr new =>
          rw [new.2]
          exact chained'.root new.1 root
  | @corrected first second head publication corrects start binds there follows =>
      obtain ⟨between, one, rest⟩ := persistMany_cons done
      obtain ⟨_, two, last⟩ := persistMany_cons rest
      cases last
      have other : ¬IsEvaluation first.record := by
        rw [IsEvaluation, publication]
        decide
      obtain ⟨chained', same⟩ := persist_other chained other one
      have selected' := selected.persisted (not_evaluable other) one
      have found : ([first, second].map AuthorizedAnalyticalWrite.record).find? (fun record => IsEvaluation record) =
          some second.record := by
        rw [List.map_cons, List.find?_cons_of_neg (by simpa using other), List.map_cons,
          List.find?_cons_of_pos (by simpa using follows.evaluation)]
      obtain ⟨sole, unsettled⟩ := timely _ found head there follows.names
      obtain ⟨s, head_state⟩ := isEvaluation_iff.mp follows.head_evaluation
      refine ⟨?_, selected'.persisted (by rw [start]; nofun) two⟩
      refine chained'.followed ((persist_subset one).1 there) follows ?_ ?_ ?_ two
      · rw [same]
        exact fun other inside => sole other (mem_evaluations.mp inside).1
      · refine ⟨s, .pending, head_state, start, Or.inr ⟨rfl, first.record, ?_, publication, corrects, binds⟩⟩
        exact (persist_subset two).1 (persist_subset one).2
      · exact ⟨s, .pending, head_state, start, LifecycleState.before_of_open (unsettled start s head_state)⟩
  | @advanced write head s t there follows head_state state allowed other =>
      obtain ⟨_, one, last⟩ := persistMany_cons done
      cases last
      have found : ([write].map AuthorizedAnalyticalWrite.record).find? (fun record => IsEvaluation record) =
          some write.record := List.find?_cons_of_pos (by simpa using follows.evaluation)
      obtain ⟨sole, -⟩ := timely _ found head there follows.names
      refine ⟨?_, selected.persisted (by rw [state]; exact fun same => other (Option.some.inj same)) one⟩
      exact chained.followed there follows (fun other inside => sole other (mem_evaluations.mp inside).1)
        ⟨s, t, head_state, state, Or.inl allowed⟩ (precedes_of_allowed head_state state allowed) one
  | @evaluated first second _ _ head _ _ _ publication_in policy_in there follows head_state allowed made =>
      have found : ([first, second].map AuthorizedAnalyticalWrite.record).find? (fun record => IsEvaluation record) =
          some first.record := List.find?_cons_of_pos (by simpa using follows.evaluation)
      obtain ⟨sole, -⟩ := timely _ found head there follows.names
      exact evaluated_written chained selected publication_in policy_in there follows head_state allowed made
        (fun other inside => sole other (mem_evaluations.mp inside).1) done

theorem snapshots_written (chained : Chained stored) (selected : Selected correctness stored)
    (snapshots : ∀ plan ∈ plans, isSnapshot plan.record) (done : stored.persistMany plans = .ok after) :
    Chained after ∧ Selected correctness after := by
  induction plans generalizing stored with
  | nil =>
      cases done
      exact ⟨chained, selected⟩
  | cons plan plans ih =>
      obtain ⟨between, one, rest⟩ := persistMany_cons done
      have other : ¬IsEvaluation plan.record := by
        unfold IsEvaluation
        cases snapshots plan List.mem_cons_self with
        | inl accuracy => exact accuracy ▸ (by decide : accuracyType ≠ evaluationType)
        | inr calibration => exact calibration ▸ (by decide : calibrationType ≠ evaluationType)
      exact ih (persist_other chained other one).1 (selected.persisted (not_evaluable other) one)
        (fun later inside => snapshots later (List.mem_cons_of_mem plan inside)) rest

structure Invariant (correctness : Correctness) (state : State) : Prop where
  chained : Chained state.stored
  selected : Selected correctness state.stored
  planned : ∀ plans ∈ state.pending, Planned correctness state.stored plans

/-- A step whose write, if it is one, is timely. -/
def TimelyStep (correctness : Correctness) (state : State) (event : Event) (after : State) : Prop :=
  Step correctness state event after ∧ ∀ plans, event = .write plans → Timely state.stored plans

theorem written_subset : stored ⊆ written stored plans := by
  unfold written
  cases done : stored.persistMany plans with
  | error exn => exact List.Subset.refl _
  | ok after => exact persistMany_subset done

theorem invariant_initial : Invariant correctness .initial :=
  ⟨chained_nil, fun _ inside => absurd inside List.not_mem_nil, fun _ inside => absurd inside List.not_mem_nil⟩

/-- A transaction keeps what every accepted one keeps. -/
theorem written_cases {P : Store → Prop} (same : P stored)
    (accepted : ∀ after, stored.persistMany plans = .ok after → P after) : P (written stored plans) := by
  unfold written
  cases done : stored.persistMany plans with
  | error exn => exact same
  | ok after => exact accepted after done

theorem invariant_step {state after : State} {event : Event} (invariant : Invariant correctness state)
    (step : TimelyStep correctness state event after) : Invariant correctness after := by
  obtain ⟨step, timely⟩ := step
  cases step with
  | @read call =>
      refine ⟨invariant.chained, invariant.selected, fun plans inside => ?_⟩
      cases List.mem_append.mp inside with
      | inl new =>
          unfold plansOf at new
          split at new
          · rename_i found done
            exact List.mem_singleton.mp new ▸ decide_planned done
          · cases new
      | inr old => exact invariant.planned plans old
  | @write front back plans waiting =>
      have planned := invariant.planned plans (waiting ▸ List.mem_append_right _ List.mem_cons_self)
      have kept : Chained (written state.stored plans) ∧ Selected correctness (written state.stored plans) :=
        written_cases ⟨invariant.chained, invariant.selected⟩ fun after done =>
          planned.written invariant.chained invariant.selected (timely plans rfl) done
      refine ⟨kept.1, kept.2, fun others inside => ?_⟩
      refine (invariant.planned others ?_).mono written_subset
      rw [waiting]
      cases List.mem_append.mp inside with
      | inl before => exact List.mem_append_left _ before
      | inr behind => exact List.mem_append_right _ (List.mem_cons_of_mem _ behind)
  | @aggregate plans snapshots =>
      have kept : Chained (written state.stored plans) ∧ Selected correctness (written state.stored plans) :=
        written_cases ⟨invariant.chained, invariant.selected⟩ fun after done =>
          snapshots_written invariant.chained invariant.selected snapshots done
      exact ⟨kept.1, kept.2, fun others inside => (invariant.planned others inside).mono written_subset⟩

theorem invariant_run {events : List Event} {state : State}
    (run : Run (TimelyStep correctness) .initial events state) : Invariant correctness state :=
  run.preserves _ (fun _ _ _ invariant step => invariant_step invariant step) invariant_initial

/-- The record holds a verdict. -/
def isVerdict (record : AnalyticalRecord) : Bool :=
  record.state? = some .evaluatedCorrect ∨ record.state? = some .evaluatedIncorrect

/-- The prediction is not done: it may still come to a verdict. -/
def isOpen (record : AnalyticalRecord) : Prop :=
  record.state? ∈ [some .pending, some .due, some .awaitingData, some .evaluable]

/-- The evaluations of a prediction are one line from `pending` on, with one verdict at most and
nothing open after what is settled. -/
structure OneVerdict (stored : Store) (predictionId : String) : Prop where
  linked : Linked AnalyticalRecord.id AnalyticalRecord.supersedesId none
    (stored.targetHistory evaluationType predictionId)
  distinct : ((stored.targetHistory evaluationType predictionId).map AnalyticalRecord.id).Nodup
  starts : ∀ first ∈ (stored.targetHistory evaluationType predictionId).head?, first.state? = some .pending
  moves : ∀ a ∈ stored.targetHistory evaluationType predictionId,
    ∀ b ∈ stored.targetHistory evaluationType predictionId, b.supersedesId = some a.id → Moves stored a b
  verdicts : ((stored.targetHistory evaluationType predictionId).filter isVerdict).length ≤ 1
  settled : (stored.targetHistory evaluationType predictionId).Pairwise fun a b =>
    (∃ state ∈ a.state?, state.Settled) → ¬isOpen b

theorem targetHistory_evaluations (predictionId : String) :
    stored.targetHistory evaluationType predictionId =
      (evaluations stored).filter fun record => record.targetIdentity = predictionId := by
  rw [evaluations, List.filter_filter, Store.targetHistory]
  refine List.filter_congr fun record _ => ?_
  rw [Bool.eq_iff_iff]
  simp only [decide_eq_true_eq, Bool.and_eq_true]
  exact and_comm

theorem verdict_settled {record : AnalyticalRecord} {state : LifecycleState} (verdict : isVerdict record = true)
    (read : record.state? = some state) : state.Settled ∧ state ≠ .superseded := by
  rw [isVerdict, decide_eq_true_eq, read] at verdict
  cases verdict with
  | inl correct =>
      cases correct
      decide
  | inr incorrect =>
      cases incorrect
      decide

theorem Chained.oneVerdict (chained : Chained stored) (predictionId : String) :
    OneVerdict stored predictionId := by
  have rising := chained.lines.rising predictionId
  rw [← targetHistory_evaluations] at rising
  have evaluated : ∀ record ∈ stored.targetHistory evaluationType predictionId,
      record ∈ evaluations stored := by
    intro record inside
    rw [targetHistory_evaluations] at inside
    exact List.mem_of_mem_filter inside
  refine ⟨rising.linked, rising.distinct, ?_, ?_, ?_, ?_⟩
  · intro first head
    obtain ⟨rest, listed⟩ := List.head?_eq_some_iff.mp head
    have linked := rising.linked
    rw [listed] at linked
    cases chained.grounded first (evaluated first (listed ▸ List.mem_cons_self)) with
    | inl root => exact root.pending
    | inr later =>
        obtain ⟨_, -, follows, -⟩ := later
        cases linked.1.symm.trans follows.names
  · intro a a_in b b_in names
    cases chained.grounded b (evaluated b b_in) with
    | inl root => cases root.parentless.symm.trans names
    | inr later =>
        obtain ⟨head, there, follows, moves⟩ := later
        have same : head = a := List.inj_on_of_nodup_map chained.distinct there
          (mem_evaluations.mp (evaluated a a_in)).1 (Option.some.inj (follows.names.symm.trans names))
        exact same ▸ moves
  · have apart : ((stored.targetHistory evaluationType predictionId).filter isVerdict).Pairwise Precedes :=
      rising.ordered.sublist List.filter_sublist
    cases listed : (stored.targetHistory evaluationType predictionId).filter isVerdict with
    | nil => exact Nat.zero_le 1
    | cons a rest =>
        cases rest with
        | nil => exact Nat.le_refl 1
        | cons b rest =>
            rw [listed] at apart
            obtain ⟨s, t, a_state, b_state, -, closes⟩ := (List.pairwise_cons.mp apart).1 b List.mem_cons_self
            have verdicts : ∀ record ∈ a :: b :: rest, isVerdict record = true := by
              intro record inside
              rw [← listed] at inside
              exact (List.mem_filter.mp inside).2
            have first := verdict_settled (verdicts a List.mem_cons_self) a_state
            have second := verdict_settled (verdicts b (List.mem_cons_of_mem _ List.mem_cons_self)) b_state
            exact absurd (closes first.1) second.2
  · refine rising.ordered.imp fun {a b} precedes settled opened => ?_
    obtain ⟨s, t, a_state, b_state, -, closes⟩ := precedes
    obtain ⟨state, read, closed⟩ := settled
    cases a_state.symm.trans read
    rw [isOpen, b_state, closes closed] at opened
    revert opened
    decide

/-- Whatever calls read and write, and in whatever order, where every write is timely. -/
theorem oneVerdict_timely {events : List Event} {state : State}
    (run : Run (TimelyStep correctness) .initial events state) (predictionId : String) :
    OneVerdict state.stored predictionId :=
  (invariant_run run).chained.oneVerdict predictionId

def instant (n : Fin 10) : Moment := ⟨n.val, Nat.lt_trans n.isLt (by decide)⟩

def contextAt (n : Fin 10) : EvaluationContext := ⟨instant n, instant n, Nat.le_refl _⟩

def samplePolicy : EvaluationPolicy :=
  { policyId := "policy", policyVersion := "1", claimType := "price", entityType := "token"
    comparisonMode := .absoluteThreshold, allowedOperator := .gte, measurementUnit := "usd"
    baselineRule := "none", requiredPrecision := 2, horizonRule := "fixed"
    observationWindowSeconds := 0, outcomeDataDeadlineSeconds := 0, outcomeSourceType := "exchange"
    outcomeSourceVersion := "1", benchmarkRule := none, tolerance := ⟨false, 0, 0⟩
    missingDataRule := "unevaluable", ambiguousDataRule := "invalidated", strictKnownRule := "strict"
    minimumSampleSize := 1, minimumCalibrationBinSize := 1, correctionPolicy := "explicit"
    methodologyVersion := "1", texts := by decide, precise := by decide, sampled := by decide
    tolerant := by decide +kernel, benchmarked := nofun }

def sampleForecast : Decimal := ⟨false, 75, -2⟩

theorem sampleForecast_probability : 0 ≤ sampleForecast.value ∧ sampleForecast.value ≤ 1 := by
  decide +kernel

/-- Published at the given instant, and due at the last one. -/
def samplePublication (n : Fin 10) : PredictionPublication :=
  { predictionId := "prediction", targetId := "token", entityType := "token", claimType := "price"
    claim := "above", operator := .gte, threshold := ⟨false, 2, 0⟩, condition := "close"
    measurementUnit := "usd", baselineValue := ⟨false, 1, 0⟩, baselineObservationId := "observation"
    baselineSourceVersion := "1", baselineEvidenceReferences := ["evidence"], benchmarkId := none
    effectiveAt := instant n, publishedAt := instant n, dueAt := instant 9, recordedAt := instant n
    knownAt := instant n, policyId := "policy", policyVersion := "1", modelVersion := "1"
    methodologyVersion := "1", configurationVersion := "1", sourceRecordIds := ["source"]
    sourceVersions := ["1"], evidenceReferences := ["evidence"], forecastProbability := some sampleForecast
    texts := by decide, known := Nat.le_refl _
    ahead := ⟨Nat.le_of_lt_succ n.isLt, Nat.le_of_lt_succ n.isLt⟩, versions := rfl
    provenance := by decide
    probability := fun _ there => Option.some.inj there ▸ sampleForecast_probability }

def sampleId (digest : String) : String := "prediction-evaluation:canonical-prediction-evaluation-v1:" ++ digest

def samplePolicyId : String := sampleId "e6fde7fdada6eb8b6127887efd94796cf7f8cd6e8953c08011d052a6b2eba89c"

def samplePublicationId : String := sampleId "7f301e2b4caf0a15c85f65d69010a3d2cd043b7abd3230358342ff61ce99557d"

def samplePendingId : String := sampleId "9b62502215dc6e60b776a7f5645491ba556f0b1d38d2cca7987d1496537d435a"

def sampleInvalidatedId : String := sampleId "e5d67da01f8fd53adf16b340b619c621802a2e47690ce85cf68d2397d8d8eddc"

def samplePolicyRow : AnalyticalRecord :=
  { id := samplePolicyId, createdAt := instant 1, effectiveAt := instant 1, knownAt := instant 1
    modelVersion := none, methodologyFingerprint := some "1", sourceRecordIds := [], sourceVersions := []
    evidenceReferences := [], supersedesId := none, correctionReason := none
    payload := .policy samplePolicy }

def samplePublicationRow (id : String) (n : Fin 10) (supersedesId correctionReason : Option String) :
    AnalyticalRecord :=
  { id, createdAt := instant n, effectiveAt := instant n, knownAt := instant n, modelVersion := some "1"
    methodologyFingerprint := some "1", sourceRecordIds := ["source", samplePolicyId]
    sourceVersions := ["1", schemaVersion], evidenceReferences := ["evidence"], supersedesId
    correctionReason, payload := .publication (samplePublication n) samplePolicyId }

/-- An evaluation of a publication, which took effect at the given instant. -/
def sampleEvaluationRow (id publicationId : String) (effective recorded : Fin 10) (state : LifecycleState)
    (reason : String) (supersedesId correctionReason : Option String) : AnalyticalRecord :=
  { id, createdAt := instant recorded, effectiveAt := instant effective, knownAt := instant recorded
    modelVersion := some "1", methodologyFingerprint := some "1"
    sourceRecordIds := [publicationId, samplePolicyId], sourceVersions := [schemaVersion, schemaVersion]
    evidenceReferences := ["evidence"], supersedesId, correctionReason
    payload := .evaluation
      { predictionId := "prediction", state, reason, correctness := none
        publicationRecordId := publicationId, policyRecordId := samplePolicyId, policyId := "policy"
        policyVersion := "1", modelVersion := some "1", methodologyVersion := "1"
        configurationVersion := "1", forecastProbability := some sampleForecast, outcome := none } }

def firstPublication : AnalyticalRecord := samplePublicationRow samplePublicationId 2 none none

def firstPending : AnalyticalRecord :=
  sampleEvaluationRow samplePendingId samplePublicationId 2 2 .pending "canonical publication accepted" none none

def sampleDue : AnalyticalRecord :=
  sampleEvaluationRow (sampleId "8ac174dc047db2e5c9d54a10da4ebbacfaeb0c9a472462a18b05410d9d85f801")
    samplePublicationId 2 9 .due "due" (some samplePendingId)
    (some "lifecycle transition: pending -> due")

def sampleInvalidated : AnalyticalRecord :=
  sampleEvaluationRow sampleInvalidatedId samplePublicationId 2 3 .invalidated "withdrawn"
    (some samplePendingId) (some "lifecycle transition: pending -> invalidated")

def secondPublicationId : String := sampleId "9f5d3d59d72041a08c647dc74b4b4755397c1e8b5b2e075cc32776d59d8a656b"

def secondPublication : AnalyticalRecord :=
  samplePublicationRow secondPublicationId 4 (some samplePublicationId) (some "again")

def secondPending : AnalyticalRecord :=
  sampleEvaluationRow (sampleId "8313f4c7782b13458175ea4c08dc471481cdef52f9ccd83aaf433c12c917903e")
    secondPublicationId 4 4 .pending "canonical publication accepted" (some sampleInvalidatedId) (some "again")

def sampleCorrectness : Correctness := fun _ _ _ => .ok (true, "")

/-- The row that an evaluation of a sample publication makes, under an identity that is known. -/
theorem sample_evaluation {identity publicationId reason : String} {n m : Fin 10}
    {supersedesId publicationReason correctionReason : Option String} {state : LifecycleState}
    {predecessor : Option AnalyticalRecord}
    (same : recordId evaluationType [("prediction_id", .str "prediction"), ("state", .str state.text),
      ("predecessor", identityOf predecessor)] = identity)
    (checked : (sampleEvaluationRow identity publicationId n m state reason
      (predecessor.map AnalyticalRecord.id) correctionReason).check = .ok ()) :
    evaluationRecord (samplePublicationRow publicationId n supersedesId publicationReason) samplePolicyRow state
        (contextAt m) predecessor reason none none correctionReason =
      .ok (sampleEvaluationRow identity publicationId n m state reason
        (predecessor.map AnalyticalRecord.id) correctionReason) := by
  have bound : (samplePublicationRow publicationId n supersedesId publicationReason).native =
      .ok (samplePublication n) := rfl
  rw [evaluationRecord, bound, Fallible.ok_bind]
  refine (record_identity _ _ (.evaluation _) _ _ _ _ _ _ _ same).trans ?_
  exact congrArg (Except.map fun _ => _) checked

/-- The identities of the sample rows are digests, each evaluated once. -/
theorem sample_identities :
    recordId policyType [("policy_id", .str "policy"), ("policy_version", .str "1")] = samplePolicyId ∧
    recordId publicationType [("prediction_id", .str "prediction"), ("predecessor", .null)] =
      samplePublicationId ∧
    recordId publicationType [("prediction_id", .str "prediction"),
      ("predecessor", .str samplePublicationId)] = secondPublicationId ∧
    recordId evaluationType [("prediction_id", .str "prediction"), ("state", .str "pending"),
      ("predecessor", .null)] = samplePendingId ∧
    recordId evaluationType [("prediction_id", .str "prediction"), ("state", .str "due"),
      ("predecessor", .str samplePendingId)] = sampleDue.id ∧
    recordId evaluationType [("prediction_id", .str "prediction"), ("state", .str "invalidated"),
      ("predecessor", .str samplePendingId)] = sampleInvalidatedId ∧
    recordId evaluationType [("prediction_id", .str "prediction"), ("state", .str "pending"),
      ("predecessor", .str sampleInvalidatedId)] = secondPending.id := by
  refine ⟨?policy, ?publication, ?second, ?pending, ?due, ?invalidated, ?again⟩
  case policy =>
    rw [recordId, stableIdentifier, Json.asciiDumps, sha256_ofList]
    decide
  case publication =>
    rw [recordId, stableIdentifier, Json.asciiDumps, sha256_ofList]
    decide
  case second =>
    rw [recordId, stableIdentifier, Json.asciiDumps, sha256_ofList]
    decide
  case pending =>
    rw [recordId, stableIdentifier, Json.asciiDumps, sha256_ofList]
    decide
  case due =>
    rw [recordId, stableIdentifier, Json.asciiDumps, sha256_ofList]
    decide
  case invalidated =>
    rw [recordId, stableIdentifier, Json.asciiDumps, sha256_ofList]
    decide
  case again =>
    rw [recordId, stableIdentifier, Json.asciiDumps, sha256_ofList]
    decide +kernel

def opened : Store := [samplePolicyRow, firstPublication, firstPending]

theorem sample_checked : ∀ row ∈ opened ++ [sampleDue, sampleInvalidated, secondPublication, secondPending],
    row.check = .ok () := by
  decide

theorem sample_evidence (n : Fin 10) : ((samplePublication n).evidenceReferences ++
    (samplePublication n).baselineEvidenceReferences).dedup.mergeSort (· ≤ ·) = ["evidence"] := by
  have once : ["evidence", "evidence"].dedup = ["evidence"] := by
    decide
  change (["evidence", "evidence"].dedup.mergeSort (· ≤ ·)) = _
  rw [once, List.mergeSort_singleton]

theorem sample_reads :
    loadPolicy [samplePolicyRow] "policy" "1" = .ok samplePolicyRow ∧
    currentBundle opened "prediction" = .ok (firstPublication, samplePolicyRow, firstPending) ∧
    loadPolicy (opened ++ [sampleInvalidated]) "policy" "1" = .ok samplePolicyRow ∧
    checkCorrection (opened ++ [sampleInvalidated]) (samplePublication 4) (contextAt 4)
      (some firstPublication) (some "again") = .ok () ∧
    Store.current (opened ++ [sampleInvalidated]) evaluationType "prediction" = some sampleInvalidated := by
  decide +kernel

example : Store.current opened evaluationType "prediction" = some firstPending := by
  decide +kernel

theorem sample_writes :
    written [] [⟨samplePolicyRow, .create⟩] = [samplePolicyRow] ∧
    written [samplePolicyRow] [⟨firstPublication, .create⟩, ⟨firstPending, .create⟩] = opened ∧
    written opened [⟨sampleInvalidated, .correct⟩] = opened ++ [sampleInvalidated] ∧
    written opened [⟨sampleDue, .correct⟩] = opened ++ [sampleDue] ∧
    written (opened ++ [sampleDue]) [⟨sampleInvalidated, .correct⟩] =
      opened ++ [sampleDue] ++ [sampleInvalidated] ∧
    written (opened ++ [sampleInvalidated]) [⟨secondPublication, .correct⟩, ⟨secondPending, .correct⟩] =
      opened ++ [sampleInvalidated] ++ [secondPublication, secondPending] := by
  decide +kernel

theorem sample_policy : Call.decide sampleCorrectness [] (.persistPolicy samplePolicy (contextAt 1)) =
    .ok (.planned [⟨samplePolicyRow, .create⟩]) := by
  have same : recordId (Payload.policy samplePolicy).semanticType
      [("policy_id", .str "policy"), ("policy_version", .str "1")] = samplePolicyId :=
    sample_identities.1
  have made : record [("policy_id", .str "policy"), ("policy_version", .str "1")] (instant 1) (contextAt 1)
      (.policy samplePolicy) none (some "1") [] [] [] none none = .ok samplePolicyRow := by
    rw [record_identity _ _ _ _ _ _ _ _ _ _ same]
    exact congrArg (Except.map fun _ => _) (sample_checked _ List.mem_cons_self)
  exact Fallible.bind_ok.mpr ⟨_, made, rfl⟩

theorem sample_publish : Call.decide sampleCorrectness [samplePolicyRow]
    (.publish (samplePublication 2) (contextAt 2) none none) =
      .ok (.planned [⟨firstPublication, .create⟩, ⟨firstPending, .create⟩]) := by
  have policy := sample_reads.1
  have valid : validatePublication (samplePublication 2) samplePolicy = .ok () := by
    decide
  have publication : publicationRecord (samplePublication 2) samplePolicyRow (contextAt 2) none none =
      .ok firstPublication := by
    refine (record_identity _ _ (.publication _ _) _ _ _ _ _ _ _ sample_identities.2.1).trans ?_
    rw [sample_evidence]
    exact congrArg (Except.map fun _ => firstPublication) (sample_checked _ (.tail _ (.head _)))
  have pending : evaluationRecord firstPublication samplePolicyRow .pending (contextAt 2) none
      "canonical publication accepted" none none none = .ok firstPending :=
    sample_evaluation sample_identities.2.2.2.1
      (sample_checked _ (.tail _ (.tail _ (.head _))))
  refine Fallible.bind_ok.mpr ⟨(), rfl, Fallible.bind_ok.mpr ⟨_, policy, Fallible.bind_ok.mpr ⟨_, rfl,
    Fallible.bind_ok.mpr ⟨(), by decide, Fallible.bind_ok.mpr ⟨(), valid, Fallible.bind_ok.mpr ⟨(), rfl, ?_⟩⟩⟩⟩⟩⟩
  exact Fallible.bind_ok.mpr ⟨_, publication, Fallible.bind_ok.mpr ⟨_, pending, rfl⟩⟩

theorem sample_due : Call.decide sampleCorrectness opened (.transition "prediction" .due (contextAt 9) "due") =
    .ok (.planned [⟨sampleDue, .correct⟩]) := by
  have made : evaluationRecord firstPublication samplePolicyRow .due (contextAt 9) (some firstPending) "due"
      none none (some "lifecycle transition: pending -> due") = .ok sampleDue :=
    sample_evaluation sample_identities.2.2.2.2.1
      (sample_checked _ (.tail _ (.tail _ (.tail _ (.head _)))))
  refine Fallible.bind_ok.mpr ⟨(), rfl, Fallible.bind_ok.mpr ⟨_, sample_reads.2.1, Fallible.bind_ok.mpr ⟨(), rfl,
    Fallible.bind_ok.mpr ⟨(), by decide, Fallible.bind_ok.mpr ⟨_, rfl, ?_⟩⟩⟩⟩⟩
  exact Fallible.bind_ok.mpr ⟨_, made, rfl⟩

theorem sample_invalidate : Call.decide sampleCorrectness opened
    (.transition "prediction" .invalidated (contextAt 3) "withdrawn") =
      .ok (.planned [⟨sampleInvalidated, .correct⟩]) := by
  have made : evaluationRecord firstPublication samplePolicyRow .invalidated (contextAt 3) (some firstPending)
      "withdrawn" none none (some "lifecycle transition: pending -> invalidated") = .ok sampleInvalidated :=
    sample_evaluation sample_identities.2.2.2.2.2.1
      (sample_checked _ (.tail _ (.tail _ (.tail _ (.tail _ (.head _))))))
  refine Fallible.bind_ok.mpr ⟨(), rfl, Fallible.bind_ok.mpr ⟨_, sample_reads.2.1, Fallible.bind_ok.mpr ⟨(), rfl,
    Fallible.bind_ok.mpr ⟨(), by decide, Fallible.bind_ok.mpr ⟨_, rfl, ?_⟩⟩⟩⟩⟩
  exact Fallible.bind_ok.mpr ⟨_, made, rfl⟩

theorem sample_correct : Call.decide sampleCorrectness (opened ++ [sampleInvalidated])
    (.publish (samplePublication 4) (contextAt 4) (some firstPublication) (some "again")) =
      .ok (.planned [⟨secondPublication, .correct⟩, ⟨secondPending, .correct⟩]) := by
  obtain ⟨-, -, policy, correction, head⟩ := sample_reads
  have valid : validatePublication (samplePublication 4) samplePolicy = .ok () := by
    decide
  have publication : publicationRecord (samplePublication 4) samplePolicyRow (contextAt 4)
      (some firstPublication) (some "again") = .ok secondPublication := by
    refine (record_identity _ _ (.publication _ _) _ _ _ _ _ _ _ sample_identities.2.2.1).trans ?_
    rw [sample_evidence]
    exact congrArg (Except.map fun _ => secondPublication)
      (sample_checked _ (.tail _ (.tail _ (.tail _ (.tail _ (.tail _ (.head _)))))))
  have pending : evaluationRecord secondPublication samplePolicyRow .pending (contextAt 4)
      (some sampleInvalidated) "canonical publication accepted" none none (some "again") =
        .ok secondPending :=
    sample_evaluation sample_identities.2.2.2.2.2.2
      (sample_checked _ (.tail _ (.tail _ (.tail _ (.tail _ (.tail _ (.tail _ (.head _))))))))
  refine Fallible.bind_ok.mpr ⟨(), rfl, Fallible.bind_ok.mpr ⟨_, policy, Fallible.bind_ok.mpr ⟨_, rfl,
    Fallible.bind_ok.mpr ⟨(), by decide, Fallible.bind_ok.mpr ⟨(), valid, Fallible.bind_ok.mpr ⟨(),
      correction, Fallible.bind_ok.mpr ⟨_, publication, ?_⟩⟩⟩⟩⟩⟩⟩
  have found : (if (some firstPublication).isSome then
      Store.current (opened ++ [sampleInvalidated]) evaluationType (samplePublication 4).predictionId
    else none) = some sampleInvalidated := head
  rw [found]
  exact Fallible.bind_ok.mpr ⟨_, pending, rfl⟩

theorem sample_timely : Timely [] [⟨samplePolicyRow, .create⟩] ∧
    Timely [samplePolicyRow] [⟨firstPublication, .create⟩, ⟨firstPending, .create⟩] ∧
    Timely opened [⟨sampleInvalidated, .correct⟩] := by
  unfold Timely
  refine ⟨?_, ?_, ?_⟩
  · decide
  · decide
  · decide

theorem read_planned {state : State} {call : Call} {plans : List AuthorizedAnalyticalWrite}
    (planned : call.decide correctness state.stored = .ok (.planned plans)) :
    Step correctness state (.read call) ⟨state.stored, plans :: state.pending⟩ := by
  have step := @Step.read correctness state call
  rwa [planned] at step

theorem write_first {plans : List AuthorizedAnalyticalWrite} {pending : List (List AuthorizedAnalyticalWrite)}
    (saved : written stored plans = after) :
    Step correctness ⟨stored, plans :: pending⟩ (.write plans) ⟨after, pending⟩ :=
  saved ▸ @Step.write correctness ⟨stored, plans :: pending⟩ [] pending plans rfl

/-- A call writes its rows as soon as it has read. -/
theorem timely_call {start : State} {events : List Event} {call : Call} {plans : List AuthorizedAnalyticalWrite}
    (run : Run (TimelyStep correctness) start events ⟨stored, []⟩)
    (planned : call.decide correctness stored = .ok (.planned plans)) (timely : Timely stored plans)
    (saved : written stored plans = after) :
    Run (TimelyStep correctness) start (events ++ [.read call] ++ [.write plans]) ⟨after, []⟩ :=
  (run.snoc ⟨read_planned planned, nofun⟩).snoc
    ⟨write_first saved, fun _ same => Event.write.inj same ▸ timely⟩

def openingEvents : List Event :=
  [.read (.persistPolicy samplePolicy (contextAt 1)), .write [⟨samplePolicyRow, .create⟩],
    .read (.publish (samplePublication 2) (contextAt 2) none none),
    .write [⟨firstPublication, .create⟩, ⟨firstPending, .create⟩]]

theorem sample_opening : Run (TimelyStep sampleCorrectness) .initial openingEvents ⟨opened, []⟩ :=
  timely_call (timely_call Run.nil sample_policy sample_timely.1 sample_writes.1)
    sample_publish sample_timely.2.1 sample_writes.2.1

def invalidatedEvents : List Event :=
  openingEvents ++ [.read (.transition "prediction" .invalidated (contextAt 3) "withdrawn")] ++
    [.write [⟨sampleInvalidated, .correct⟩]]

theorem sample_invalidated : Run (TimelyStep sampleCorrectness) .initial invalidatedEvents
    ⟨opened ++ [sampleInvalidated], []⟩ :=
  timely_call sample_opening sample_invalidate sample_timely.2.2 sample_writes.2.2.1

theorem oneVerdict_timely_sample : OneVerdict (opened ++ [sampleInvalidated]) "prediction" :=
  oneVerdict_timely sample_invalidated "prediction"

/-- Two calls that found the same head both follow it, and a correction that comes after the
prediction was invalidated makes it pending again. -/
theorem oneVerdict_fails :
    (∃ events, Run (Step sampleCorrectness) .initial events ⟨opened ++ [sampleDue] ++ [sampleInvalidated], []⟩ ∧
        ¬OneVerdict (opened ++ [sampleDue] ++ [sampleInvalidated]) "prediction") ∧
      ∃ events, Run (Step sampleCorrectness) .initial events
          ⟨opened ++ [sampleInvalidated] ++ [secondPublication, secondPending], []⟩ ∧
        ¬OneVerdict (opened ++ [sampleInvalidated] ++ [secondPublication, secondPending]) "prediction" := by
  have opening := sample_opening.imp fun _ _ _ step => step.1
  have first := sample_invalidated.imp fun _ _ _ step => step.1
  constructor
  · refine ⟨_, (((opening.snoc (read_planned sample_invalidate)).snoc (read_planned sample_due)).snoc
      (write_first sample_writes.2.2.2.1)).snoc (write_first sample_writes.2.2.2.2.1), fun one => ?_⟩
    -- both name the pending record
    have listed : Store.targetHistory (opened ++ [sampleDue] ++ [sampleInvalidated]) evaluationType "prediction" =
        [firstPending, sampleDue, sampleInvalidated] := by
      decide
    have linked := one.linked
    rw [listed] at linked
    exact absurd linked.2.2.1 (by decide)
  · refine ⟨_, (first.snoc (read_planned sample_correct)).snoc (write_first sample_writes.2.2.2.2.2), fun one => ?_⟩
    have listed : Store.targetHistory (opened ++ [sampleInvalidated] ++ [secondPublication, secondPending])
        evaluationType "prediction" = [firstPending, sampleInvalidated, secondPending] := by
      decide
    have settled := one.settled
    rw [listed] at settled
    have later := (List.pairwise_cons.mp (List.pairwise_cons.mp settled).2).1 secondPending
      (List.mem_singleton_self _) ⟨.invalidated, rfl, by decide⟩
    exact later (by unfold isOpen; decide)

end Hunter.PredictionEvaluation
