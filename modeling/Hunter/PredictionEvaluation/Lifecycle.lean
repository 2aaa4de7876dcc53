import Hunter.Data.Supersession
import Hunter.PredictionEvaluation.Service

/-!
What a call plans, and what a write of it adds. A plan has one evaluation that names the
evaluation the call found current, or one that starts a prediction, or two of which the second
names the first. Evaluations stay in one line for each prediction as long as nothing else
follows the record that a new one names.
-/

namespace Hunter.PredictionEvaluation

open Calendar Fallible Supersession

variable {correctness : Correctness} {stored after : Store} {plans : List AuthorizedAnalyticalWrite}

namespace LifecycleState

/-- Nothing but `superseded` may come after it. -/
def Settled (state : LifecycleState) : Prop :=
  state ∈ [evaluatedCorrect, evaluatedIncorrect, unevaluable, invalidated, superseded]

instance (state : LifecycleState) : Decidable state.Settled := inferInstanceAs (Decidable (_ ∈ _))

/-- No state comes after `superseded`, and no other one after a settled state. -/
def Before (s t : LifecycleState) : Prop := s ≠ superseded ∧ (s.Settled → t = superseded)

theorem Before.trans {s t u : LifecycleState} (st : Before s t) (tu : Before t u) : Before s u :=
  ⟨st.1, fun settled => absurd (st.2 settled) tu.1⟩

theorem before_of_allowed {s t : LifecycleState} (allowed : t ∈ s.allowedTransitions) : Before s t := by
  cases s <;> cases t <;> revert allowed <;> unfold Before Settled <;> decide

theorem before_of_open {s t : LifecycleState} (unsettled : ¬s.Settled) : Before s t := by
  refine ⟨?_, fun settled => absurd settled unsettled⟩
  rintro rfl
  exact unsettled (by decide)

end LifecycleState

open LifecycleState (Before Settled)

def IsEvaluation (record : AnalyticalRecord) : Prop := record.semanticType = evaluationType

instance (record : AnalyticalRecord) : Decidable (IsEvaluation record) := inferInstanceAs (Decidable (_ = _))

theorem isEvaluation_iff {record : AnalyticalRecord} :
    IsEvaluation record ↔ ∃ state, record.state? = some state := by
  unfold IsEvaluation AnalyticalRecord.semanticType AnalyticalRecord.state?
  cases record.payload with
  | evaluation lifecycle => exact iff_of_true rfl ⟨_, rfl⟩
  | policy bound => exact iff_of_false (by decide : policyType ≠ evaluationType) nofun
  | publication native policyRecordId =>
      exact iff_of_false (by decide : publicationType ≠ evaluationType) nofun
  | snapshot snapshotType aggregateId aggregate =>
      cases snapshotType with
      | accuracy => exact iff_of_false (by decide : accuracyType ≠ evaluationType) nofun
      | calibration => exact iff_of_false (by decide : calibrationType ≠ evaluationType) nofun

def evaluations (stored : Store) : List AnalyticalRecord :=
  stored.filter fun record => IsEvaluation record

theorem mem_evaluations {record : AnalyticalRecord} :
    record ∈ evaluations stored ↔ record ∈ stored ∧ IsEvaluation record := by
  rw [evaluations, List.mem_filter, decide_eq_true_eq]

theorem evaluations_snoc {record : AnalyticalRecord} (evaluation : IsEvaluation record) :
    evaluations (stored ++ [record]) = evaluations stored ++ [record] := by
  rw [evaluations, List.filter_append, List.filter_cons_of_pos (by simpa using evaluation), List.filter_nil,
    evaluations]

theorem evaluations_snoc_other {record : AnalyticalRecord} (other : ¬IsEvaluation record) :
    evaluations (stored ++ [record]) = evaluations stored := by
  rw [evaluations, List.filter_append, List.filter_cons_of_neg (by simpa using other), List.filter_nil,
    List.append_nil, evaluations]

/-- The later evaluation may come after the earlier one. -/
def Precedes (a b : AnalyticalRecord) : Prop :=
  ∃ s t, a.state? = some s ∧ b.state? = some t ∧ Before s t

theorem Precedes.trans {a b c : AnalyticalRecord} (ab : Precedes a b) (bc : Precedes b c) : Precedes a c := by
  obtain ⟨s, t, a_state, b_state, st⟩ := ab
  obtain ⟨t', u, b_state', c_state, tu⟩ := bc
  cases b_state.symm.trans b_state'
  exact ⟨s, u, a_state, c_state, st.trans tu⟩

/-- `payload.get("publication_record_id")`. -/
def publicationRecordId? (record : AnalyticalRecord) : Option String :=
  match record.payload with
  | .evaluation lifecycle => some lifecycle.publicationRecordId
  | _ => none

/-- The evaluation is of a publication that corrects another one. -/
def Corrected (stored : Store) (record : AnalyticalRecord) : Prop :=
  ∃ publication ∈ stored, publication.semanticType = publicationType ∧ publication.supersedesId ≠ none ∧
    publicationRecordId? record = some publication.id

/-- The step from one evaluation to the next is allowed, or a correction that starts again. -/
def Moves (stored : Store) (a b : AnalyticalRecord) : Prop :=
  ∃ s t, a.state? = some s ∧ b.state? = some t ∧
    (t ∈ s.allowedTransitions ∨ t = .pending ∧ Corrected stored b)

theorem Moves.mono {a b : AnalyticalRecord} (moves : Moves stored a b) (grows : stored ⊆ after) :
    Moves after a b := by
  obtain ⟨s, t, a_state, b_state, how⟩ := moves
  refine ⟨s, t, a_state, b_state, how.imp id fun ⟨start, corrected⟩ => ⟨start, ?_⟩⟩
  obtain ⟨publication, inside, rest⟩ := corrected
  exact ⟨publication, grows inside, rest⟩

def rootId (predictionId : String) : String :=
  recordId evaluationType
    [("prediction_id", .str predictionId), ("state", .str "pending"), ("predecessor", .null)]

/-- The first evaluation of a prediction. -/
structure Root (record : AnalyticalRecord) : Prop where
  parentless : record.supersedesId = none
  pending : record.state? = some .pending
  identity : record.id = rootId record.targetIdentity

/-- The evaluation names another one of its prediction. -/
structure Follows (head record : AnalyticalRecord) : Prop where
  head_evaluation : IsEvaluation head
  evaluation : IsEvaluation record
  names : record.supersedesId = some head.id
  target : head.targetIdentity = record.targetIdentity
  proper : head.id ≠ record.id

/-- The evaluation starts its prediction, or follows a stored one. -/
def Grounded (stored : Store) (record : AnalyticalRecord) : Prop :=
  Root record ∨ ∃ head ∈ stored, Follows head record ∧ Moves stored head record

theorem Grounded.mono {record : AnalyticalRecord} (grounded : Grounded stored record)
    (grows : stored ⊆ after) : Grounded after record := by
  refine grounded.imp id ?_
  rintro ⟨head, there, follows, moves⟩
  exact ⟨head, grows there, follows, moves.mono grows⟩

/-- The evaluations of every prediction are a line, and each is grounded. -/
structure Chained (stored : Store) : Prop where
  distinct : (stored.map AnalyticalRecord.id).Nodup
  lines : Lines AnalyticalRecord.id AnalyticalRecord.supersedesId AnalyticalRecord.targetIdentity Precedes
    (evaluations stored)
  grounded : ∀ record ∈ evaluations stored, Grounded stored record

theorem chained_nil : Chained [] :=
  ⟨List.nodup_nil, Lines.nil, fun _ inside => absurd inside List.not_mem_nil⟩

theorem nodup_snoc {record : AnalyticalRecord} (distinct : (stored.map AnalyticalRecord.id).Nodup)
    (fresh : record.id ∉ stored.map AnalyticalRecord.id) :
    ((stored ++ [record]).map AnalyticalRecord.id).Nodup := by
  rw [List.map_append]
  refine List.nodup_append.mpr ⟨distinct, List.nodup_singleton _, ?_⟩
  intro k old other single same
  rw [List.mem_singleton.mp single] at same
  exact fresh (same ▸ old)

section

variable {record : AnalyticalRecord} (chained : Chained stored)
  (fresh : record.id ∉ stored.map AnalyticalRecord.id)
include chained fresh

theorem Chained.other (other : ¬IsEvaluation record) : Chained (stored ++ [record]) := by
  refine ⟨nodup_snoc chained.distinct fresh, ?_, ?_⟩
  · rw [evaluations_snoc_other other]
    exact chained.lines
  · rw [evaluations_snoc_other other]
    exact fun old inside => (chained.grounded old inside).mono (List.subset_append_left _ _)

/-- A new end of a line. -/
theorem Chained.snoc (evaluation : IsEvaluation record) (grounded : Grounded (stored ++ [record]) record)
    (lines : Lines AnalyticalRecord.id AnalyticalRecord.supersedesId AnalyticalRecord.targetIdentity Precedes
      (evaluations stored ++ [record])) : Chained (stored ++ [record]) := by
  refine ⟨nodup_snoc chained.distinct fresh, ?_, ?_⟩
  · rwa [evaluations_snoc evaluation]
  · rw [evaluations_snoc evaluation]
    intro old inside
    cases List.mem_append.mp inside with
    | inl before => exact (chained.grounded old before).mono (List.subset_append_left _ _)
    | inr last => exact List.mem_singleton.mp last ▸ grounded

omit chained in
theorem fresh_evaluation : record.id ∉ (evaluations stored).map AnalyticalRecord.id :=
  fun inside => fresh ((List.filter_sublist.map _).subset inside)

/-- The first record of a prediction has the identity that every first record of it has. -/
theorem Chained.root (root : Root record) : Chained (stored ++ [record]) := by
  have alone : ∀ other ∈ evaluations stored, other.targetIdentity ≠ record.targetIdentity := by
    intro other inside same
    have own : other ∈ (evaluations stored).filter fun b => b.targetIdentity = record.targetIdentity :=
      List.mem_filter.mpr ⟨inside, decide_eq_true same⟩
    have linked := (chained.lines.rising record.targetIdentity).linked
    cases listed : (evaluations stored).filter fun b => b.targetIdentity = record.targetIdentity with
    | nil =>
        rw [listed] at own
        exact absurd own List.not_mem_nil
    | cons first rest =>
        rw [listed] at linked
        have member : first ∈ (evaluations stored).filter fun b => b.targetIdentity = record.targetIdentity :=
          listed ▸ List.mem_cons_self
        have here := List.mem_of_mem_filter member
        have line : first.targetIdentity = record.targetIdentity := by simpa using (List.mem_filter.mp member).2
        cases chained.grounded first here with
        | inl earlier =>
            refine fresh ?_
            rw [root.identity, ← line, ← earlier.identity]
            exact List.mem_map_of_mem (mem_evaluations.mp here).1
        | inr later =>
            obtain ⟨head, -, follows, -⟩ := later
            cases linked.1.symm.trans follows.names
  refine chained.snoc fresh (isEvaluation_iff.mpr ⟨_, root.pending⟩) (Or.inl root) ?_
  exact chained.lines.root (fresh_evaluation fresh) root.parentless alone

/-- A record that names the end of its line is the new end of it. -/
theorem Chained.next {head : AnalyticalRecord} (there : head ∈ stored) (follows : Follows head record)
    (childless : ∀ b ∈ evaluations stored, b.supersedesId ≠ some head.id)
    (moves : Moves (stored ++ [record]) head record) (precedes : Precedes head record) :
    Chained (stored ++ [record]) := by
  have inside : head ∈ evaluations stored := mem_evaluations.mpr ⟨there, follows.head_evaluation⟩
  refine chained.snoc fresh follows.evaluation
    (Or.inr ⟨head, List.mem_append_left _ there, follows, moves⟩) ?_
  exact chained.lines.successor Precedes.trans (fresh_evaluation fresh) inside follows.target follows.names
    childless precedes

end

theorem record_ok {identityKey : List (String × Json)} {effectiveAt : Moment} {context : EvaluationContext}
    {payload : Payload} {modelVersion methodology : Option String}
    {sourceIds sourceVersions evidence : List String} {predecessor : Option AnalyticalRecord}
    {correctionReason : Option String} {made : AnalyticalRecord}
    (done : record identityKey effectiveAt context payload modelVersion methodology sourceIds sourceVersions
      evidence predecessor correctionReason = .ok made) :
    made.id = recordId payload.semanticType identityKey ∧ made.createdAt = context.recordedAt ∧
      made.knownAt = context.knownBy ∧ made.supersedesId = predecessor.map AnalyticalRecord.id ∧
        made.payload = payload ∧ ∀ named ∈ made.supersedesId, named ≠ made.id := by
  simp only [record, bind_ok, exists_unit, pure_eq_ok, Except.ok.injEq] at done
  obtain ⟨checked, rfl⟩ := done
  refine ⟨rfl, rfl, rfl, rfl, rfl, fun named names => ?_⟩
  simp only [AnalyticalRecord.check, bind_ok, exists_unit] at checked
  obtain ⟨-, -, -, -, -, -, proper⟩ := checked
  cases predecessor with
  | none => cases names
  | some head =>
      cases names
      exact (require_bind_ok.mp proper).1

/-- An evaluation of a publication under a policy. -/
structure Evaluates (publication policy : AnalyticalRecord) (state : LifecycleState)
    (context : EvaluationContext) (predecessor : Option AnalyticalRecord)
    (outcome : Option OutcomeObservation) (made : AnalyticalRecord) : Prop where
  state? : made.state? = some state
  target : made.targetIdentity = publication.targetIdentity
  identity : made.id = recordId evaluationType [("prediction_id", .str publication.targetIdentity),
    ("state", .str state.text), ("predecessor", identityOf predecessor)]
  supersedes : made.supersedesId = predecessor.map AnalyticalRecord.id
  proper : ∀ named ∈ made.supersedesId, named ≠ made.id
  recorded : made.createdAt = context.recordedAt
  known : made.knownAt = context.knownBy
  binds : ∃ lifecycle, made.payload = .evaluation lifecycle ∧ lifecycle.outcome = outcome ∧
    lifecycle.publicationRecordId = publication.id ∧ lifecycle.policyRecordId = policy.id

section

variable {publication policy made : AnalyticalRecord} {state : LifecycleState} {context : EvaluationContext}
  {predecessor : Option AnalyticalRecord} {reason : String} {outcome : Option OutcomeObservation}
  {correct : Option Bool} {correctionReason : Option String}

theorem evaluationRecord_ok (done : evaluationRecord publication policy state context predecessor reason outcome
      correct correctionReason = .ok made) :
    Evaluates publication policy state context predecessor outcome made := by
  obtain ⟨native, -, recorded⟩ := bind_ok.mp done
  obtain ⟨id, created, known, supersedes, payload, proper⟩ := record_ok recorded
  refine ⟨?_, ?_, id, supersedes, proper, created, known, _, payload, rfl, rfl, rfl⟩
  · rw [AnalyticalRecord.state?, payload]
  · rw [AnalyticalRecord.targetIdentity, payload]
    rfl

variable (evaluates : Evaluates publication policy state context predecessor outcome made)
include evaluates

theorem Evaluates.isEvaluation : IsEvaluation made := isEvaluation_iff.mpr ⟨_, evaluates.state?⟩

theorem Evaluates.publicationRecordId? : publicationRecordId? made = some publication.id := by
  obtain ⟨lifecycle, payload, -, bound, -⟩ := evaluates.binds
  rw [PredictionEvaluation.publicationRecordId?, payload]
  exact congrArg some bound

/-- A record that starts a prediction. -/
theorem Evaluates.root (start : state = .pending) (first : predecessor = none) : Root made := by
  subst start first
  refine ⟨evaluates.supersedes, evaluates.state?, ?_⟩
  rw [evaluates.identity, evaluates.target]
  rfl

/-- A record that follows the one it was made from. -/
theorem Evaluates.follows {head : AnalyticalRecord} (from_head : predecessor = some head)
    (head_evaluation : IsEvaluation head) (target : head.targetIdentity = publication.targetIdentity) :
    Follows head made := by
  subst from_head
  exact ⟨head_evaluation, evaluates.isEvaluation, evaluates.supersedes, target.trans evaluates.target.symm,
    evaluates.proper _ evaluates.supersedes⟩

/-- The record says what it was made from. -/
theorem Evaluates.unique {publication' policy' head head' : AnalyticalRecord} {context' : EvaluationContext}
    {outcome' : Option OutcomeObservation} (distinct : (stored.map AnalyticalRecord.id).Nodup)
    (other : Evaluates publication' policy' state context' (some head') outcome' made)
    (from_head : predecessor = some head) (publications : publication ∈ stored ∧ publication' ∈ stored)
    (policies : policy ∈ stored ∧ policy' ∈ stored) (heads : head ∈ stored ∧ head' ∈ stored) :
    publication = publication' ∧ policy = policy' ∧ context = context' ∧ head = head' ∧ outcome = outcome' := by
  obtain ⟨lifecycle, payload, found, bound, ruled⟩ := evaluates.binds
  obtain ⟨lifecycle', payload', found', bound', ruled'⟩ := other.binds
  cases payload.symm.trans payload'
  have named : some head.id = some head'.id := by
    rw [← Option.map_some, ← Option.map_some, ← from_head, ← evaluates.supersedes, ← other.supersedes]
  refine ⟨?_, ?_, ?_, ?_, found.symm.trans found'⟩
  · exact List.inj_on_of_nodup_map distinct publications.1 publications.2 (bound.symm.trans bound')
  · exact List.inj_on_of_nodup_map distinct policies.1 policies.2 (ruled.symm.trans ruled')
  · have recorded := evaluates.recorded.symm.trans other.recorded
    have known := evaluates.known.symm.trans other.known
    cases context
    cases context'
    cases recorded
    cases known
    rfl
  · exact List.inj_on_of_nodup_map distinct heads.1 heads.2 (Option.some.inj named)

end

theorem verdictRecords_ok {publication policyRecord head evaluable terminal : AnalyticalRecord}
    {context : EvaluationContext} {outcome : Option OutcomeObservation}
    (done : verdictRecords correctness publication policyRecord context head outcome =
      .ok (evaluable, terminal)) :
    Evaluates publication policyRecord .evaluable context (some head) outcome evaluable ∧
      ∃ correct : Bool, Evaluates publication policyRecord
        (if correct then .evaluatedCorrect else .evaluatedIncorrect) context (some evaluable) outcome terminal := by
  simp only [verdictRecords, bind_ok, pure_eq_ok, Except.ok.injEq, Prod.mk.injEq, Prod.exists] at done
  obtain ⟨native, -, policy, -, first, selected, correct, calculation, -, second, decided, rfl, rfl⟩ := done
  exact ⟨evaluationRecord_ok selected, correct, evaluationRecord_ok decided⟩

theorem load_none {identity : String} (none : stored.load identity = none) :
    identity ∉ stored.map AnalyticalRecord.id := by
  intro member
  obtain ⟨record, inside, same⟩ := List.mem_map.mp member
  exact absurd (decide_eq_true same) (List.find?_eq_none.mp none record inside)

/-- A write finds its record there, or adds it. -/
theorem persist_ok {plan : AuthorizedAnalyticalWrite} (done : stored.persist plan = .ok after) :
    plan.record ∈ stored ∧ after = stored ∨
      plan.record.id ∉ stored.map AnalyticalRecord.id ∧ after = stored ++ [plan.record] := by
  obtain ⟨-, saved⟩ := check_ok.mp done
  unfold Store.save at saved
  cases found : stored.load plan.record.id with
  | none =>
      rw [found] at saved
      cases saved
      exact Or.inr ⟨load_none found, rfl⟩
  | some existing =>
      simp only [found, require_bind_ok, pure_eq_ok, Except.ok.injEq] at saved
      obtain ⟨rfl, rfl⟩ := saved
      exact Or.inl ⟨List.mem_of_find?_eq_some found, rfl⟩

theorem persist_subset {plan : AuthorizedAnalyticalWrite} (done : stored.persist plan = .ok after) :
    stored ⊆ after ∧ plan.record ∈ after := by
  cases persist_ok done with
  | inl old =>
      rw [old.2]
      exact ⟨List.Subset.refl _, old.1⟩
  | inr new =>
      rw [new.2]
      exact ⟨List.subset_append_left _ _, List.mem_append_right _ (List.mem_singleton_self _)⟩

theorem persistMany_cons {plan : AuthorizedAnalyticalWrite}
    (done : stored.persistMany (plan :: plans) = .ok after) :
    ∃ between, stored.persist plan = .ok between ∧ between.persistMany plans = .ok after := by
  rw [Store.persistMany, List.foldlM_cons] at done
  exact bind_ok.mp done

theorem persistMany_subset (done : stored.persistMany plans = .ok after) : stored ⊆ after := by
  induction plans generalizing stored with
  | nil =>
      cases done
      exact List.Subset.refl _
  | cons plan plans ih =>
      obtain ⟨between, first, rest⟩ := persistMany_cons done
      exact List.Subset.trans (persist_subset first).1 (ih rest)

theorem persist_other {plan : AuthorizedAnalyticalWrite} (chained : Chained stored)
    (other : ¬IsEvaluation plan.record) (done : stored.persist plan = .ok after) :
    Chained after ∧ evaluations after = evaluations stored := by
  cases persist_ok done with
  | inl old =>
      rw [old.2]
      exact ⟨chained, rfl⟩
  | inr new =>
      rw [new.2]
      exact ⟨chained.other new.1 other, evaluations_snoc_other other⟩

end Hunter.PredictionEvaluation
