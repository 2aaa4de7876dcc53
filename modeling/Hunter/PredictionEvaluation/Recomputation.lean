import Mathlib
import Hunter.PredictionEvaluation.Aggregates

/-!
Aggregates that are requested again. The records of a pair of snapshots are identified by the
aggregate and the evaluations, so a later request of the same aggregate over the same
evaluations finds its identities taken, unless the current pair holds its payloads. These are
the requests that cannot be recomputed, and the only ones besides those without a policy.
-/

namespace Hunter.PredictionEvaluation

open Calendar Fallible
open MarketValidation (blank sha256_ofList)

variable {correctness : Correctness} {numerics : Numerics} {stored after : Store} {request : AggregateRequest}
  {context : EvaluationContext} {record : AnalyticalRecord}

section

variable {semanticType target : String}

/-- The records of the target that none of them names. -/
def heads (stored : Store) (semanticType target : String) : List AnalyticalRecord :=
  (stored.targetHistory semanticType target).filter fun record =>
    record.id ∉ (stored.targetHistory semanticType target).filterMap AnalyticalRecord.supersedesId

/-- The target has no record, or one that no record of it names. -/
def Headed (stored : Store) (semanticType target : String) : Prop :=
  stored.targetHistory semanticType target = [] ∨ ∃ head, heads stored semanticType target = [head]

theorem current_of_heads {head : AnalyticalRecord} (single : heads stored semanticType target = [head]) :
    stored.current semanticType target = some head := by
  show ((heads stored semanticType target).mergeSort _).head? = some head
  rw [single, List.mergeSort_singleton]
  rfl

theorem current_mem {head : AnalyticalRecord} (found : stored.current semanticType target = some head) :
    head ∈ stored ∧ head.semanticType = semanticType ∧ head.targetIdentity = target := by
  have inside := List.mem_mergeSort.mp (List.mem_of_mem_head? (Option.mem_def.mpr found))
  obtain ⟨there, own⟩ := List.mem_filter.mp (List.mem_of_mem_filter inside)
  exact ⟨there, of_decide_eq_true own⟩

theorem history_snoc_other (other : ¬(record.semanticType = semanticType ∧ record.targetIdentity = target)) :
    (stored ++ [record]).targetHistory semanticType target = stored.targetHistory semanticType target := by
  unfold Store.targetHistory
  rw [List.filter_append, List.filter_cons_of_neg (by simpa using other), List.filter_nil, List.append_nil]

theorem current_snoc_other (other : ¬(record.semanticType = semanticType ∧ record.targetIdentity = target)) :
    (stored ++ [record]).current semanticType target = stored.current semanticType target := by
  unfold Store.current
  rw [history_snoc_other other]

theorem headed_snoc_other (headed : Headed stored semanticType target)
    (other : ¬(record.semanticType = semanticType ∧ record.targetIdentity = target)) :
    Headed (stored ++ [record]) semanticType target := by
  unfold Headed heads
  rw [history_snoc_other other]
  exact headed

/-- A record that names the current one of its target takes its place. -/
theorem heads_snoc (headed : Headed stored semanticType target)
    (own : record.semanticType = semanticType ∧ record.targetIdentity = target)
    (fresh : record.id ∉ stored.map AnalyticalRecord.id)
    (anchored : ∀ other ∈ stored, ∀ named ∈ other.supersedesId, named ∈ stored.map AnalyticalRecord.id)
    (names : record.supersedesId = (stored.current semanticType target).map AnalyticalRecord.id) :
    heads (stored ++ [record]) semanticType target = [record] := by
  have history : (stored ++ [record]).targetHistory semanticType target =
      stored.targetHistory semanticType target ++ [record] := by
    unfold Store.targetHistory
    rw [List.filter_append, List.filter_cons_of_pos (by simpa using own), List.filter_nil]
  have unnamed : record.id ∉ (stored.targetHistory semanticType target ++ [record]).filterMap
      AnalyticalRecord.supersedesId := by
    intro named
    obtain ⟨other, inside, names_it⟩ := List.mem_filterMap.mp named
    cases List.mem_append.mp inside with
    | inl before => exact fresh (anchored other (List.mem_of_mem_filter before) _ names_it)
    | inr last =>
        rw [List.mem_singleton.mp last, names] at names_it
        obtain ⟨head, found, same⟩ := Option.map_eq_some_iff.mp names_it
        exact fresh (same ▸ List.mem_map_of_mem (current_mem found).1)
  unfold heads
  rw [history, List.filter_append, List.filter_cons_of_pos (by simpa using unnamed), List.filter_nil]
  suffices gone : (stored.targetHistory semanticType target).filter (fun other =>
      other.id ∉
        (stored.targetHistory semanticType target ++ [record]).filterMap AnalyticalRecord.supersedesId) = [] by
    rw [gone]
    rfl
  refine List.filter_eq_nil_iff.mpr fun other inside kept => ?_
  have unnamed_other := of_decide_eq_true kept
  rw [List.filterMap_append, List.mem_append, not_or] at unnamed_other
  cases headed with
  | inl empty =>
      rw [empty] at inside
      exact absurd inside List.not_mem_nil
  | inr single =>
      obtain ⟨head, single⟩ := single
      have member : other ∈ heads stored semanticType target :=
        List.mem_filter.mpr ⟨inside, decide_eq_true unnamed_other.1⟩
      rw [single] at member
      refine unnamed_other.2 (List.mem_filterMap.mpr ⟨record, List.mem_singleton_self record, ?_⟩)
      rw [names, current_of_heads single, List.mem_singleton.mp member]
      rfl

/-- A record that names the current one of its target, or nothing where there is none, is new. -/
theorem new_of_names (headed : Headed stored semanticType target)
    (own : record.semanticType = semanticType ∧ record.targetIdentity = target)
    (names : record.supersedesId = (stored.current semanticType target).map AnalyticalRecord.id) :
    record ∉ stored := by
  intro there
  cases headed with
  | inl empty =>
      have inside : record ∈ stored.targetHistory semanticType target :=
        List.mem_filter.mpr ⟨there, decide_eq_true own⟩
      rw [empty] at inside
      exact absurd inside List.not_mem_nil
  | inr single =>
      obtain ⟨head, single⟩ := single
      have found := current_of_heads single
      rw [found] at names
      exact current_unnamed found record there own.1 own.2 names

end

theorem load_snoc {identity : String} (found : stored.load identity = some record) (other : AnalyticalRecord) :
    Store.load (stored ++ [other]) identity = some record := by
  show List.find? (fun kept => kept.id = identity) (stored ++ [other]) = some record
  rw [List.find?_append, show stored.find? (fun kept => kept.id = identity) = some record from found]
  rfl

theorem load_id {identity : String} (found : stored.load identity = some record) : record.id = identity := by
  have kept := List.find?_some (show stored.find? (fun row => row.id = identity) = some record from found)
  exact of_decide_eq_true kept

/-- Every row names a stored record, and a new snapshot of an aggregate names the one before it. -/
structure Kept (stored : Store) : Prop where
  sound : Sound stored
  anchored : ∀ record ∈ stored, ∀ named ∈ record.supersedesId, named ∈ stored.map AnalyticalRecord.id
  headed : ∀ semanticType ∈ [accuracyType, calibrationType], ∀ target, Headed stored semanticType target

theorem kept_nil : Kept [] :=
  ⟨⟨List.nodup_nil, fun _ inside => absurd inside List.not_mem_nil, fun _ inside => absurd inside List.not_mem_nil⟩,
    fun _ inside => absurd inside List.not_mem_nil, fun _ _ _ => Or.inl rfl⟩

theorem Kept.issued {plan : AuthorizedAnalyticalWrite} (kept : Kept stored) (issued : Issued plan)
    (done : stored.persist plan = .ok after) : Kept after := by
  have sound := kept.sound.persist issued.sane done
  cases persist_ok done with
  | inl old => exact old.2 ▸ kept
  | inr new =>
      obtain ⟨-, rfl⟩ := new
      refine ⟨sound, fun record inside named names => ?_, fun semanticType snapshot target => ?_⟩
      · cases List.mem_append.mp inside with
        | inl before =>
            rw [List.map_append]
            exact List.mem_append_left _ (kept.anchored record before named names)
        | inr last =>
            refine sound.anchored record inside ?_ named names
            rw [List.mem_singleton.mp last]
            exact issued.row
      · refine headed_snoc_other (kept.headed semanticType snapshot target) fun own => issued.row ?_
        simp only [List.mem_cons, List.not_mem_nil, or_false] at snapshot
        unfold isSnapshot
        rw [own.1]
        exact snapshot

theorem Kept.issuedMany {plans : List AuthorizedAnalyticalWrite} (kept : Kept stored)
    (issued : ∀ plan ∈ plans, Issued plan) (done : stored.persistMany plans = .ok after) : Kept after := by
  induction plans generalizing stored with
  | nil =>
      cases done
      exact kept
  | cons plan plans ih =>
      obtain ⟨first, others⟩ := List.forall_mem_cons.mp issued
      obtain ⟨between, one, rest⟩ := persistMany_cons done
      exact ih (kept.issued first one) others rest

/-- A new snapshot that names the one before it. -/
theorem Kept.snapshot {snapshotType : SnapshotType} {aggregateId : String} {aggregate : Json} (kept : Kept stored)
    (payload : record.payload = .snapshot snapshotType aggregateId aggregate)
    (fresh : record.id ∉ stored.map AnalyticalRecord.id)
    (names : record.supersedesId = (stored.current record.semanticType aggregateId).map AnalyticalRecord.id) :
    Kept (stored ++ [record]) := by
  have target : record.targetIdentity = aggregateId := by
    rw [AnalyticalRecord.targetIdentity, payload]
    rfl
  have named : ∀ named ∈ record.supersedesId, named ∈ stored.map AnalyticalRecord.id := by
    intro named there
    rw [names] at there
    obtain ⟨head, found, same⟩ := Option.map_eq_some_iff.mp there
    exact same ▸ List.mem_map_of_mem (current_mem found).1
  have anchored : ∀ other ∈ stored ++ [record], ∀ named ∈ other.supersedesId,
      named ∈ (stored ++ [record]).map AnalyticalRecord.id := by
    intro other inside name there
    rw [List.map_append]
    refine List.mem_append_left _ ?_
    cases List.mem_append.mp inside with
    | inl before => exact kept.anchored other before name there
    | inr last =>
        rw [List.mem_singleton.mp last] at there
        exact named name there
  refine ⟨⟨nodup_snoc kept.sound.distinct fresh, fun other inside _ => anchored other inside,
    fun other inside => ?_⟩, anchored, fun semanticType snapshot other => ?_⟩
  · cases List.mem_append.mp inside with
    | inl before => exact kept.sound.bound other before
    | inr last =>
        rw [List.mem_singleton.mp last, Bound, payload]
        trivial
  · by_cases own : record.semanticType = semanticType ∧ record.targetIdentity = other
    · refine Or.inr ⟨record, heads_snoc (kept.headed semanticType snapshot other) own fresh kept.anchored ?_⟩
      rw [names, ← own.1, ← own.2, target]
    · exact headed_snoc_other (kept.headed semanticType snapshot other) own

theorem states_length {listed : List AnalyticalRecord} (evaluated : ∀ record ∈ listed, IsEvaluation record) :
    (states listed).length = listed.length := by
  induction listed with
  | nil => rfl
  | cons record listed ih =>
      obtain ⟨first, others⟩ := List.forall_mem_cons.mp evaluated
      obtain ⟨state, read⟩ := isEvaluation_iff.mp first
      rw [states, List.filterMap_cons_some read, List.length_cons, List.length_cons]
      exact congrArg (· + 1) (ih others)

def judged (state : LifecycleState) : Bool := state ∈ [LifecycleState.evaluatedCorrect, .evaluatedIncorrect]

theorem judged_text (state : LifecycleState) : "evaluated-".toList <+: state.text.toList ↔ judged state = true := by
  cases state <;> decide

theorem denominator_eq (listed : List AnalyticalRecord) : denominator listed = (states listed).countP judged := by
  rw [denominator, included, states, List.countP_filterMap, ← List.countP_eq_length_filter]
  refine List.countP_congr fun record _ => ?_
  rw [decide_eq_true_eq, Judged]
  generalize record.state? = state
  revert state
  rintro (_ | state)
  · decide
  · cases state <;> decide

theorem numerator_le (listed : List AnalyticalRecord) : numerator listed ≤ denominator listed :=
  List.length_filter_le _ _

theorem exclusions_sum (listed : List AnalyticalRecord) :
    ((exclusions listed).map Prod.snd).sum = (states listed).countP fun state => !judged state := by
  rw [exclusions, ((List.mergeSort_perm _ _).map Prod.snd).sum_eq, List.map_map,
    ← List.sum_map_count_dedup_filter_eq_countP]
  have same : ((states listed).dedup.filter fun state => decide ¬"evaluated-".toList <+: state.text.toList) =
      (states listed).dedup.filter fun state => !judged state := by
    refine List.filter_congr fun state _ => ?_
    simp only [judged_text, decide_not, Bool.decide_eq_true]
  rw [same]
  rfl

theorem counts_add_up {listed : List AnalyticalRecord} (evaluated : ∀ record ∈ listed, IsEvaluation record) :
    denominator listed + ((exclusions listed).map Prod.snd).sum = listed.length := by
  rw [denominator_eq, exclusions_sum, ← states_length evaluated, List.length_eq_countP_add_countP judged]
  refine congrArg _ (List.countP_congr fun state _ => ?_)
  simp

theorem tenths_rise : ∀ index ≤ 9, (tenth index).1 ≤ (tenth (index + 1)).1 := by decide +kernel

theorem tenths_ends : (tenth 0).1 = 0 ∧ (tenth 10).1 = 1 := by decide

theorem binMembers_perm {forecasts : List (Decimal × Bool)}
    (bounded : ∀ forecast ∈ forecasts, 0 ≤ forecast.1.value ∧ forecast.1.value ≤ 1) :
    ((List.range 10).flatMap (binMembers forecasts)).Perm forecasts := by
  refine @Bins.bins_perm ℚ _ _ (fun index => (tenth index).1) 9 forecasts (fun forecast => forecast.1.value) 0 1
    tenths_ends.1 tenths_ends.2 tenths_rise bounded

theorem binMembers_bounds {forecasts : List (Decimal × Bool)} {index : Nat} {forecast : Decimal × Bool}
    (member : forecast ∈ binMembers forecasts index) :
    (tenth index).1 ≤ forecast.1.value ∧ forecast.1.value ≤ (tenth (index + 1)).1 := by
  obtain ⟨lower, upper⟩ := Bins.inBin_true.mp (List.mem_filter.mp member).2
  exact ⟨lower, upper.elim le_of_lt And.right⟩

def listedOf (stored : Store) (request : AggregateRequest) : List AnalyticalRecord :=
  request.evaluationIds.filterMap stored.load

section

variable (distinct : (stored.map AnalyticalRecord.id).Nodup) (complete : Complete stored request)
include distinct complete

theorem Complete.load {identity : String} (listed : identity ∈ request.evaluationIds) :
    ∃ record ∈ stored, stored.load identity = some record ∧ IsEvaluation record ∧
      Eligible stored request record := by
  obtain ⟨record, eligible, rfl⟩ := List.mem_map.mp (complete.2 identity listed)
  obtain ⟨inside, eligible⟩ := List.mem_filter.mp eligible
  obtain ⟨there, evaluation⟩ := mem_evaluations.mp inside
  exact ⟨record, there, load_of_mem distinct there, evaluation, of_decide_eq_true eligible⟩

theorem Complete.mem {record : AnalyticalRecord} (listed : record ∈ listedOf stored request) :
    record ∈ stored ∧ IsEvaluation record ∧ Eligible stored request record := by
  obtain ⟨identity, inside, found⟩ := List.mem_filterMap.mp listed
  obtain ⟨other, there, found', evaluation, eligible⟩ := Complete.load distinct complete inside
  cases found.symm.trans found'
  exact ⟨there, evaluation, eligible⟩

theorem Complete.ids : (listedOf stored request).map AnalyticalRecord.id = request.evaluationIds := by
  rw [listedOf, List.map_filterMap]
  refine (List.filterMap_congr fun identity listed => ?_).trans List.filterMap_some
  obtain ⟨record, -, found, -⟩ := Complete.load distinct complete listed
  rw [found, Option.map_some, load_id found]

theorem Complete.listed :
    request.evaluationIds.mapM (loadCurrentEvaluation stored) = .ok (listedOf stored request) := by
  refine mapM_ok_of_filterMap fun identity listed => ?_
  obtain ⟨record, -, found, evaluation, eligible⟩ := Complete.load distinct complete listed
  refine ⟨record, found, ?_⟩
  unfold loadCurrentEvaluation
  rw [found]
  exact require_bind_ok.mpr ⟨evaluation, require_bind_ok.mpr ⟨eligible.1, rfl⟩⟩

end

theorem accuracyPayload_is (policy : EvaluationPolicy) (listed : List AnalyticalRecord) :
    ∃ aggregate, accuracyPayload numerics request policy listed =
      .snapshot .accuracy request.aggregateId aggregate := ⟨_, rfl⟩

theorem calibrationPayload_is (policy : EvaluationPolicy) (listed : List AnalyticalRecord) :
    ∃ aggregate, calibrationPayload numerics request policy listed =
      .snapshot .calibration request.aggregateId aggregate := by
  unfold calibrationPayload
  split
  · exact ⟨_, rfl⟩
  · exact ⟨_, rfl⟩

/-- A new snapshot of the aggregate, after the current one. -/
structure Snapshot (stored : Store) (request : AggregateRequest) (listed : List AnalyticalRecord)
    (semanticType : String) (payload : Payload) (record : AnalyticalRecord) : Prop where
  identity : record.id = recordId semanticType (aggregateKey request.aggregateId (listed.map AnalyticalRecord.id))
  payload : record.payload = payload
  names : record.supersedesId = (stored.current semanticType request.aggregateId).map AnalyticalRecord.id

theorem snapshotRecord_ok {listed : List AnalyticalRecord} {payload : Payload}
    (done : snapshotRecord request context listed payload (stored.current payload.semanticType request.aggregateId) =
      .ok record) : Snapshot stored request listed payload.semanticType payload record := by
  obtain ⟨identity, -, -, names, payload, -⟩ := record_ok done
  exact ⟨identity, payload, names⟩

/-- A snapshot is made of evaluations, unless its identity is the predecessor's. -/
theorem snapshotRecord_makes {listed : List AnalyticalRecord} {payload : Payload}
    {predecessor : Option AnalyticalRecord} (bound : ∀ record ∈ listed, blank record.id = false)
    (apart : ∀ head ∈ predecessor, head.id ≠
      recordId payload.semanticType (aggregateKey request.aggregateId (listed.map AnalyticalRecord.id))) :
    ∃ made, snapshotRecord request context listed payload predecessor = .ok made := by
  refine ⟨_, bind_ok.mpr ⟨(), ?_, rfl⟩⟩
  simp only [AnalyticalRecord.check, bind_ok, exists_unit, require_ok]
  refine ⟨?_, ?_, ?_, ?_, ?_, fun _ none => absurd none List.not_mem_nil, ?_⟩
  · exact fun text there => Option.some.inj there ▸ request.texts _ (by simp)
  · exact fun text there => Option.some.inj there ▸ request.texts _ (by simp)
  · rw [List.length_map, List.length_map]
  · intro text there
    obtain ⟨record, inside, rfl⟩ := List.mem_map.mp there
    exact bound record inside
  · intro text there
    obtain ⟨record, -, rfl⟩ := List.mem_map.mp there
    decide
  · cases predecessor with
    | none => exact require_of rfl
    | some head =>
        refine require_bind_ok.mpr ⟨apart head rfl, require_ok.mpr ⟨by rintro ⟨⟩, fun empty => ?_⟩⟩
        exact absurd (Option.some.inj empty) (by decide)

theorem authorize_after {predecessor : Option AnalyticalRecord}
    (names : record.supersedesId = predecessor.map AnalyticalRecord.id) :
    authorize record (operationAfter predecessor) = .ok ⟨record, operationAfter predecessor⟩ := by
  unfold authorize
  rw [names]
  cases predecessor with
  | none => rfl
  | some head => rfl

/-- A new record is written after one of the same target, or after none. -/
theorem persist_after {predecessor : Option AnalyticalRecord} (distinct : (stored.map AnalyticalRecord.id).Nodup)
    (names : record.supersedesId = predecessor.map AnalyticalRecord.id)
    (same : ∀ head ∈ predecessor, head ∈ stored ∧ head.logicalIdentity = record.logicalIdentity)
    (fresh : record.id ∉ stored.map AnalyticalRecord.id) :
    stored.persist ⟨record, operationAfter predecessor⟩ = .ok (stored ++ [record]) := by
  rw [persist_new fun there => fresh (List.mem_map_of_mem there), if_neg fresh]
  cases predecessor with
  | none => rfl
  | some head =>
      obtain ⟨there, identity⟩ := same head rfl
      rw [checkOperation_named distinct there names identity]
      rfl

/-- The two new rows of an aggregate. -/
structure SnapshotPair (stored : Store) (request : AggregateRequest) (listed : List AnalyticalRecord)
    (accuracy calibration : Payload) (pair : AnalyticalRecord × AnalyticalRecord) (after : Store) : Prop where
  accuracy : Snapshot stored request listed accuracyType accuracy pair.1
  calibration : Snapshot stored request listed calibrationType calibration pair.2
  fresh : pair.1.id ∉ stored.map AnalyticalRecord.id
  apart : pair.2.id ∉ (stored ++ [pair.1]).map AnalyticalRecord.id
  rows : after = stored ++ [pair.1] ++ [pair.2]

section

variable {listed : List AnalyticalRecord} {accuracy calibration : Payload}
  {pair : AnalyticalRecord × AnalyticalRecord}

theorem Snapshot.own {snapshotType : SnapshotType} {semanticType : String} {payload : Payload} {aggregate : Json}
    (snapshot : Snapshot stored request listed semanticType payload record)
    (shape : payload = .snapshot snapshotType request.aggregateId aggregate) :
    record.semanticType = payload.semanticType ∧ record.targetIdentity = request.aggregateId := by
  rw [AnalyticalRecord.semanticType, AnalyticalRecord.targetIdentity, snapshot.payload, shape]
  exact ⟨rfl, rfl⟩

theorem types_apart : accuracyType ≠ calibrationType ∧ accuracyType ≠ policyType ∧ calibrationType ≠ policyType ∧
    accuracyType ≠ evaluationType ∧ calibrationType ≠ evaluationType := by
  decide

section

variable {a c : Json} (first : accuracy = .snapshot .accuracy request.aggregateId a)
  (second : calibration = .snapshot .calibration request.aggregateId c) (kept : Kept stored)
include first second kept

theorem recordSnapshots_ok
    (done : recordSnapshots stored request context listed accuracy calibration = .ok (pair, after)) :
    SnapshotPair stored request listed accuracy calibration pair after := by
  simp only [recordSnapshots, bind_ok, pure_eq_ok, Except.ok.injEq, Prod.mk.injEq] at done
  obtain ⟨accuracyRecord, made, calibrationRecord, made', write, one, write', two, _, written, rfl, rfl⟩ := done
  have accuracyType_is : accuracy.semanticType = accuracyType := first ▸ rfl
  have calibrationType_is : calibration.semanticType = calibrationType := second ▸ rfl
  rw [← accuracyType_is] at made
  rw [← calibrationType_is] at made'
  have snapshot := snapshotRecord_ok made
  have snapshot' := snapshotRecord_ok made'
  have own := snapshot.own first
  have own' := snapshot'.own second
  rw [accuracyType_is] at snapshot own
  rw [calibrationType_is] at snapshot' own'
  obtain ⟨between, wrote, rest⟩ := persistMany_cons written
  obtain ⟨_, wrote', last⟩ := persistMany_cons rest
  cases last
  obtain ⟨same, -⟩ := authorize_linked one
  obtain ⟨same', -⟩ := authorize_linked two
  have absent : accuracyRecord ∉ stored :=
    new_of_names (kept.headed accuracyType (by decide) request.aggregateId) own snapshot.names
  have absent' : calibrationRecord ∉ stored :=
    new_of_names (kept.headed calibrationType (by decide) request.aggregateId) own' snapshot'.names
  obtain ⟨fresh, rfl⟩ := persist_fresh (same ▸ absent) wrote
  rw [same] at fresh wrote'
  have absent'' : calibrationRecord ∉ stored ++ [accuracyRecord] := by
    intro there
    cases List.mem_append.mp there with
    | inl before => exact absent' before
    | inr last =>
        rw [List.mem_singleton.mp last, own.1] at own'
        exact types_apart.1 own'.1
  obtain ⟨apart, rfl⟩ := persist_fresh (same' ▸ absent'') wrote'
  rw [same'] at apart ⊢
  exact ⟨snapshot, snapshot', fresh, apart, rfl⟩

/-- The pair is recorded where its identities are not taken. -/
theorem recordSnapshots_makes (bound : ∀ record ∈ listed, blank record.id = false)
    (fresh : recordId accuracyType (aggregateKey request.aggregateId (listed.map AnalyticalRecord.id)) ∉
      stored.map AnalyticalRecord.id)
    (fresh' : recordId calibrationType (aggregateKey request.aggregateId (listed.map AnalyticalRecord.id)) ∉
      stored.map AnalyticalRecord.id)
    (apart : recordId accuracyType (aggregateKey request.aggregateId (listed.map AnalyticalRecord.id)) ≠
      recordId calibrationType (aggregateKey request.aggregateId (listed.map AnalyticalRecord.id))) :
    ∃ pair after, recordSnapshots stored request context listed accuracy calibration = .ok (pair, after) := by
  have accuracyType_is : accuracy.semanticType = accuracyType := first ▸ rfl
  have calibrationType_is : calibration.semanticType = calibrationType := second ▸ rfl
  have stays : ∀ {semanticType : String}, ∀ head ∈ stored.current semanticType request.aggregateId,
      head.id ∈ stored.map AnalyticalRecord.id :=
    fun head found => List.mem_map_of_mem (current_mem found).1
  obtain ⟨accuracyRecord, made⟩ := @snapshotRecord_makes request context listed accuracy
    (stored.current accuracy.semanticType request.aggregateId) bound fun head found same => by
      rw [accuracyType_is] at same
      exact fresh (same ▸ stays head found)
  obtain ⟨calibrationRecord, made'⟩ := @snapshotRecord_makes request context listed calibration
    (stored.current calibration.semanticType request.aggregateId) bound fun head found same => by
      rw [calibrationType_is] at same
      exact fresh' (same ▸ stays head found)
  have snapshot := snapshotRecord_ok made
  have snapshot' := snapshotRecord_ok made'
  have own := snapshot.own first
  have own' := snapshot'.own second
  rw [accuracyType_is] at snapshot own made
  rw [calibrationType_is] at snapshot' own' made'
  have new : accuracyRecord.id ∉ stored.map AnalyticalRecord.id := snapshot.identity ▸ fresh
  have new' : calibrationRecord.id ∉ (stored ++ [accuracyRecord]).map AnalyticalRecord.id := by
    rw [List.map_append, List.mem_append, not_or]
    refine ⟨snapshot'.identity ▸ fresh', fun last => apart ?_⟩
    rw [← snapshot.identity, ← snapshot'.identity]
    exact (List.mem_singleton.mp last).symm
  have logical : ∀ {semanticType : String} {row : AnalyticalRecord}, row.semanticType = semanticType ∧
      row.targetIdentity = request.aggregateId → ∀ head ∈ stored.current semanticType request.aggregateId,
        head ∈ stored ∧ head.logicalIdentity = row.logicalIdentity := by
    intro semanticType row own head found
    obtain ⟨there, type, target⟩ := current_mem found
    refine ⟨there, ?_⟩
    unfold AnalyticalRecord.logicalIdentity
    rw [type, target, own.1, own.2]
  refine ⟨(accuracyRecord, calibrationRecord), stored ++ [accuracyRecord] ++ [calibrationRecord], ?_⟩
  refine bind_ok.mpr ⟨_, made, bind_ok.mpr ⟨_, made', bind_ok.mpr ⟨_, authorize_after snapshot.names,
    bind_ok.mpr ⟨_, authorize_after snapshot'.names, bind_ok.mpr ⟨_, ?_, rfl⟩⟩⟩⟩⟩
  refine bind_ok.mpr ⟨_, persist_after kept.sound.distinct snapshot.names (logical own) new,
    bind_ok.mpr ⟨_, persist_after (nodup_snoc kept.sound.distinct new) snapshot'.names ?_ new', rfl⟩⟩
  intro head found
  obtain ⟨there, identity⟩ := logical own' head found
  exact ⟨List.mem_append_left _ there, identity⟩

section

variable (snapshots : SnapshotPair stored request listed accuracy calibration pair after)
include snapshots

omit kept in
theorem SnapshotPair.types : pair.1.semanticType = accuracyType ∧ pair.2.semanticType = calibrationType :=
  ⟨(snapshots.accuracy.own first).1.trans (first ▸ rfl), (snapshots.calibration.own second).1.trans (second ▸ rfl)⟩

omit kept in
/-- The pair is current for no other kind of record. -/
theorem SnapshotPair.current_other {semanticType : String}
    (other : accuracyType ≠ semanticType ∧ calibrationType ≠ semanticType)
    (target : String) : after.current semanticType target = stored.current semanticType target := by
  obtain ⟨type, type'⟩ := snapshots.types first second
  rw [snapshots.rows, current_snoc_other, current_snoc_other]
  · exact fun own => other.1 (type ▸ own.1)
  · exact fun own => other.2 (type' ▸ own.1)

omit kept in
theorem SnapshotPair.evaluations : evaluations after = evaluations stored := by
  obtain ⟨type, type'⟩ := snapshots.types first second
  rw [snapshots.rows, evaluations_snoc_other, evaluations_snoc_other]
  · exact fun own => types_apart.2.2.2.1 (type ▸ own)
  · exact fun own => types_apart.2.2.2.2 (type' ▸ own)

omit kept in
theorem SnapshotPair.eligibleIds (request : AggregateRequest) :
    eligibleIds after request = eligibleIds stored request := by
  unfold PredictionEvaluation.eligibleIds
  rw [snapshots.evaluations first second]
  refine congrArg _ (List.filter_congr fun record _ => ?_)
  refine decide_eq_decide.mpr ?_
  unfold Eligible
  rw [snapshots.current_other first second types_apart.2.2.2]

theorem SnapshotPair.keeps : Kept after := by
  have own := snapshots.accuracy.own first
  have own' := snapshots.calibration.own second
  have one : Kept (stored ++ [pair.1]) := by
    refine kept.snapshot (snapshots.accuracy.payload.trans first) snapshots.fresh ?_
    rw [snapshots.accuracy.names, own.1, first]
    rfl
  rw [snapshots.rows]
  refine one.snapshot (snapshots.calibration.payload.trans second) snapshots.apart ?_
  rw [snapshots.calibration.names, own'.1, second, current_snoc_other]
  · rfl
  · rw [own.1, first]
    exact fun own => types_apart.1 own.1

/-- The pair is the current one after it. -/
theorem SnapshotPair.held : held after request.aggregateId accuracy calibration = some pair := by
  have own := snapshots.accuracy.own first
  have own' := snapshots.calibration.own second
  rw [show accuracy.semanticType = accuracyType from first ▸ rfl] at own
  rw [show calibration.semanticType = calibrationType from second ▸ rfl] at own'
  have one : (stored ++ [pair.1]).current accuracyType request.aggregateId = some pair.1 :=
    current_of_heads (heads_snoc (kept.headed accuracyType (by decide) _) own snapshots.fresh kept.anchored
      snapshots.accuracy.names)
  have between : Kept (stored ++ [pair.1]) := by
    refine kept.snapshot (snapshots.accuracy.payload.trans first) snapshots.fresh ?_
    rw [own.1]
    exact snapshots.accuracy.names
  have first_current : after.current accuracyType request.aggregateId = some pair.1 := by
    rw [snapshots.rows, current_snoc_other, one]
    rw [own'.1]
    exact fun own => types_apart.1 own.1.symm
  have second_current : after.current calibrationType request.aggregateId = some pair.2 := by
    rw [snapshots.rows]
    refine current_of_heads (heads_snoc (between.headed calibrationType (by decide) _) own' snapshots.apart
      between.anchored ?_)
    rw [snapshots.calibration.names, current_snoc_other]
    rw [own.1]
    exact fun own => types_apart.1 own.1
  unfold PredictionEvaluation.held
  rw [first_current, second_current]
  exact if_pos ⟨snapshots.accuracy.payload, snapshots.calibration.payload⟩

end

end

end

theorem aggregate_ok {pair : AnalyticalRecord × AnalyticalRecord}
    (done : aggregate numerics stored request context = .ok (pair, after)) :
    ∃ policyRecord policy listed, loadPolicy stored request.policyId request.policyVersion = .ok policyRecord ∧
      policyRecord.policy = .ok policy ∧
      request.evaluationIds.mapM (loadCurrentEvaluation stored) = .ok listed ∧
      (held stored request.aggregateId (accuracyPayload numerics request policy listed)
          (calibrationPayload numerics request policy listed) = some pair ∧ after = stored ∨
        recordSnapshots stored request context listed (accuracyPayload numerics request policy listed)
          (calibrationPayload numerics request policy listed) = .ok (pair, after)) := by
  simp only [aggregate, bind_ok, exists_unit] at done
  obtain ⟨policyRecord, loaded, policy, ruled, listed, mapped, -, -, done⟩ := done
  refine ⟨policyRecord, policy, listed, loaded, ruled, mapped, ?_⟩
  split at done
  · rename_i found
    cases done
    exact Or.inl ⟨found, rfl⟩
  · exact Or.inr done

/-- The answer to a request that lists its cohort. -/
theorem aggregate_complete {policyRecord : AnalyticalRecord} {policy : EvaluationPolicy}
    (distinct : (stored.map AnalyticalRecord.id).Nodup) (complete : Complete stored request)
    (loaded : loadPolicy stored request.policyId request.policyVersion = .ok policyRecord)
    (ruled : policyRecord.policy = .ok policy) :
    aggregate numerics stored request context =
      match held stored request.aggregateId (accuracyPayload numerics request policy (listedOf stored request))
        (calibrationPayload numerics request policy (listedOf stored request)) with
      | some pair => .ok (pair, stored)
      | none => recordSnapshots stored request context (listedOf stored request)
          (accuracyPayload numerics request policy (listedOf stored request))
          (calibrationPayload numerics request policy (listedOf stored request)) := by
  unfold aggregate
  rw [loaded, ok_bind, ruled, ok_bind, complete.listed distinct, ok_bind,
    require_of fun record inside => (complete.mem distinct inside).2.2.2.2, ok_bind]
  exact congrArg (· >>= fun _ => _) (require_of complete)

theorem Kept.turned (kept : Kept stored) (turn : Turn) : Kept (turned correctness numerics stored turn) := by
  cases turn with
  | call call =>
      unfold PredictionEvaluation.turned
      dsimp only
      split
      · rename_i plans decided
        unfold written
        split
        · rename_i after done
          exact kept.issuedMany (decide_issued decided) done
        · exact kept
      · exact kept
  | aggregate request context =>
      refine committed_cases kept fun pair after done => ?_
      obtain ⟨_, policy, listed, -, -, -, answer⟩ := aggregate_ok done
      cases answer with
      | inl old => exact old.2 ▸ kept
      | inr new =>
          obtain ⟨_, first⟩ := @accuracyPayload_is numerics request policy listed
          obtain ⟨_, second⟩ := @calibrationPayload_is numerics request policy listed
          exact SnapshotPair.keeps first second kept (recordSnapshots_ok first second kept new)

theorem kept_afterTurns (turns : List Turn) : Kept (afterTurns correctness numerics turns) := by
  suffices keeps : ∀ stored, Kept stored → Kept (turns.foldl (turned correctness numerics) stored) from
    keeps [] kept_nil
  induction turns with
  | nil => exact fun _ kept => kept
  | cons turn turns ih => exact fun stored kept => ih _ (kept.turned turn)

theorem afterTurns_call {turns : List Turn} {call : Call} {plans : List AuthorizedAnalyticalWrite}
    (reached : afterTurns correctness numerics turns = stored)
    (planned : call.decide correctness stored = .ok (.planned plans)) (saved : written stored plans = after) :
    afterTurns correctness numerics (turns ++ [.call call]) = after := by
  unfold afterTurns at reached ⊢
  rw [List.foldl_append, reached, List.foldl_cons, List.foldl_nil, turned, planned]
  exact saved

theorem afterTurns_aggregate {turns : List Turn} {pair : AnalyticalRecord × AnalyticalRecord}
    (reached : afterTurns correctness numerics turns = stored)
    (done : aggregate numerics stored request context = .ok (pair, after)) :
    afterTurns correctness numerics (turns ++ [.aggregate request context]) = after := by
  unfold afterTurns at reached ⊢
  rw [List.foldl_append, reached, List.foldl_cons, List.foldl_nil, turned, done]
  rfl

/-- `payload["aggregate"][name]`. -/
def AnalyticalRecord.aggregate? (record : AnalyticalRecord) (name : String) : Option Json :=
  match record.payload with
  | .snapshot _ _ aggregate => aggregate.get? name
  | _ => none

/-- The counts of a snapshot add up to the number of the listed evaluations. -/
def AddsUp (request : AggregateRequest) (snapshot : AnalyticalRecord) : Prop :=
  ∃ (numerator denominator : ℕ) (exclusions : List (String × ℕ)),
    snapshot.aggregate? "numerator" = some (.int numerator) ∧
    snapshot.aggregate? "denominator" = some (.int denominator) ∧
    snapshot.aggregate? "exclusions" = some (.obj (exclusions.map fun (state, count) => (state, .int count))) ∧
    numerator ≤ denominator ∧ denominator + (exclusions.map Prod.snd).sum = request.evaluationIds.length

/-- The bins of a snapshot, if it has bins, are those of groups of the included forecasts that
leave out none of them and hold none twice, each between its two edges. -/
def Partitioned (numerics : Numerics) (stored : Store) (request : AggregateRequest) (snapshot : AnalyticalRecord) :
    Prop :=
  snapshot.aggregate? "reliability_bins" = some (.arr []) ∨
    ∃ (included : List (Decimal × Bool)) (groups : ℕ → List (Decimal × Bool)) (minimum : ℕ),
      forecasts (listedOf stored request) = some included ∧
      snapshot.aggregate? "reliability_bins" =
        some (.arr ((List.range 10).map fun index => calibrationBin numerics minimum index (groups index))) ∧
      ((List.range 10).flatMap groups).Perm included ∧
      ∀ index, ∀ forecast ∈ groups index,
        (tenth index).1 ≤ forecast.1.value ∧ forecast.1.value ≤ (tenth (index + 1)).1

/-- The request is answered whatever the clocks are, its numbers are right, and asking again
returns the same pair and writes nothing. -/
def Recomputes (numerics : Numerics) (stored : Store) (request : AggregateRequest) : Prop :=
  ∀ context, ∃ pair after, aggregate numerics stored request context = .ok (pair, after) ∧
    AddsUp request pair.1 ∧ AddsUp request pair.2 ∧ Partitioned numerics stored request pair.2 ∧
    ∀ again, aggregate numerics after request again = .ok (pair, after)

def snapshotId (semanticType : String) (request : AggregateRequest) : String :=
  recordId semanticType (aggregateKey request.aggregateId request.evaluationIds)

/-- No row has the identities of the aggregate over the listed evaluations. -/
structure Unused (stored : Store) (request : AggregateRequest) : Prop where
  accuracy : snapshotId accuracyType request ∉ stored.map AnalyticalRecord.id
  calibration : snapshotId calibrationType request ∉ stored.map AnalyticalRecord.id
  apart : snapshotId accuracyType request ≠ snapshotId calibrationType request

/-- The current snapshots of the aggregate are those of the same request. -/
def Repeated (numerics : Numerics) (stored : Store) (request : AggregateRequest)
    (policy : EvaluationPolicy) : Prop :=
  ∃ pair, held stored request.aggregateId (accuracyPayload numerics request policy (listedOf stored request))
    (calibrationPayload numerics request policy (listedOf stored request)) = some pair

/-- The policy is stored, and the aggregate is over these evaluations for the first time or is
the current one. -/
def Answerable (numerics : Numerics) (stored : Store) (request : AggregateRequest) : Prop :=
  ∃ policyRecord policy, loadPolicy stored request.policyId request.policyVersion = .ok policyRecord ∧
    policyRecord.policy = .ok policy ∧ (Unused stored request ∨ Repeated numerics stored request policy)

section

variable {policy : EvaluationPolicy} {snapshot : AnalyticalRecord}

theorem counts_listed (distinct : (stored.map AnalyticalRecord.id).Nodup) (complete : Complete stored request) :
    denominator (listedOf stored request) + ((exclusions (listedOf stored request)).map Prod.snd).sum =
      request.evaluationIds.length := by
  rw [counts_add_up fun record inside => (complete.mem distinct inside).2.1, ← complete.ids distinct,
    List.length_map]

theorem addsUp_accuracy (distinct : (stored.map AnalyticalRecord.id).Nodup) (complete : Complete stored request)
    (payload : snapshot.payload = accuracyPayload numerics request policy (listedOf stored request)) :
    AddsUp request snapshot := by
  refine ⟨numerator (listedOf stored request), denominator (listedOf stored request),
    exclusions (listedOf stored request), ?_, ?_, ?_, numerator_le _, counts_listed distinct complete⟩
  · rw [AnalyticalRecord.aggregate?, payload]
    rfl
  · rw [AnalyticalRecord.aggregate?, payload]
    rfl
  · rw [AnalyticalRecord.aggregate?, payload]
    rfl

theorem addsUp_calibration (distinct : (stored.map AnalyticalRecord.id).Nodup) (complete : Complete stored request)
    (payload : snapshot.payload = calibrationPayload numerics request policy (listedOf stored request)) :
    AddsUp request snapshot := by
  unfold calibrationPayload at payload
  split at payload
  all_goals
    refine ⟨numerator (listedOf stored request), denominator (listedOf stored request),
      exclusions (listedOf stored request), ?_, ?_, ?_, numerator_le _, counts_listed distinct complete⟩
    all_goals
      rw [AnalyticalRecord.aggregate?, payload]
      rfl

/-- The included forecasts are probabilities. -/
theorem forecasts_bounded {listed : List AnalyticalRecord} {included : List (Decimal × Bool)}
    (bound : ∀ record ∈ listed, Bound record) (found : forecasts listed = some included) :
    ∀ forecast ∈ included, 0 ≤ forecast.1.value ∧ forecast.1.value ≤ 1 := by
  unfold forecasts at found
  split at found
  · intro forecast member
    rw [← Option.some.inj found] at member
    obtain ⟨record, inside, read⟩ := List.mem_filterMap.mp member
    obtain ⟨probability, given, rfl⟩ := Option.map_eq_some_iff.mp read
    have bounded := bound record (List.mem_of_mem_filter inside)
    unfold forecastProbability at given
    split at given
    · rename_i lifecycle payload
      rw [Bound, payload] at bounded
      exact bounded.2 probability given
    · cases given
  · cases found

theorem partitioned (sound : Sound stored) (complete : Complete stored request)
    (payload : snapshot.payload = calibrationPayload numerics request policy (listedOf stored request)) :
    Partitioned numerics stored request snapshot := by
  unfold calibrationPayload at payload
  split at payload
  · rename_i included _ found
    refine Or.inr ⟨included, binMembers included, policy.minimumCalibrationBinSize, found, ?_, ?_,
      fun index forecast => binMembers_bounds⟩
    · rw [AnalyticalRecord.aggregate?, payload]
      rfl
    · refine binMembers_perm (forecasts_bounded (fun record inside => ?_) found)
      exact sound.bound record (complete.mem sound.distinct inside).1
  · refine Or.inl ?_
    rw [AnalyticalRecord.aggregate?, payload]
    rfl

end

theorem held_payloads {accuracy calibration : Payload} {aggregateId : String}
    {pair : AnalyticalRecord × AnalyticalRecord} (found : held stored aggregateId accuracy calibration = some pair) :
    pair.1.payload = accuracy ∧ pair.2.payload = calibration := by
  unfold held at found
  split at found
  · split at found
    · rename_i same
      cases found
      exact same
    · cases found
  · cases found

section

variable {policyRecord : AnalyticalRecord} {policy : EvaluationPolicy} {pair : AnalyticalRecord × AnalyticalRecord}
  (complete : Complete stored request)
  (loaded : loadPolicy stored request.policyId request.policyVersion = .ok policyRecord)
  (ruled : policyRecord.policy = .ok policy)
include complete loaded ruled

/-- The current pair answers the request for ever. -/
theorem recomputes_of_held (sound : Sound stored) (repeated : Repeated numerics stored request policy) :
    Recomputes numerics stored request := by
  obtain ⟨pair, found⟩ := repeated
  have answers : ∀ context, aggregate numerics stored request context = .ok (pair, stored) := by
    intro context
    rw [aggregate_complete sound.distinct complete loaded ruled, found]
  obtain ⟨accuracy, calibration⟩ := held_payloads found
  exact fun context => ⟨pair, stored, answers context, addsUp_accuracy sound.distinct complete accuracy,
    addsUp_calibration sound.distinct complete calibration, partitioned sound complete calibration, answers⟩

/-- After the pair is recorded it answers the request. -/
theorem aggregate_again (kept : Kept stored)
    (snapshots : SnapshotPair stored request (listedOf stored request)
      (accuracyPayload numerics request policy (listedOf stored request))
      (calibrationPayload numerics request policy (listedOf stored request)) pair after) :
    aggregate numerics after request context = .ok (pair, after) := by
  obtain ⟨_, first⟩ := @accuracyPayload_is numerics request policy (listedOf stored request)
  obtain ⟨_, second⟩ := @calibrationPayload_is numerics request policy (listedOf stored request)
  have same : listedOf after request = listedOf stored request := by
    refine List.filterMap_congr fun identity listed => ?_
    obtain ⟨record, -, found, -⟩ := complete.load kept.sound.distinct listed
    rw [found, snapshots.rows, load_snoc (load_snoc found _) _]
  have complete' : Complete after request := by
    unfold Complete
    rw [snapshots.eligibleIds first second]
    exact complete
  have loaded' : loadPolicy after request.policyId request.policyVersion = .ok policyRecord := by
    unfold loadPolicy
    rw [snapshots.current_other first second ⟨types_apart.2.1, types_apart.2.2.1⟩]
    exact loaded
  rw [aggregate_complete (snapshots.keeps first second kept).sound.distinct complete' loaded' ruled, same,
    snapshots.held first second kept]

theorem recomputes_of_unused (kept : Kept stored) (unused : Unused stored request) :
    Recomputes numerics stored request := by
  by_cases repeated : Repeated numerics stored request policy
  · exact recomputes_of_held complete loaded ruled kept.sound repeated
  obtain ⟨_, first⟩ := @accuracyPayload_is numerics request policy (listedOf stored request)
  obtain ⟨_, second⟩ := @calibrationPayload_is numerics request policy (listedOf stored request)
  intro context
  have fresh := unused.accuracy
  have fresh' := unused.calibration
  have apart := unused.apart
  unfold snapshotId at fresh fresh' apart
  rw [← complete.ids kept.sound.distinct] at fresh fresh' apart
  have bound : ∀ record ∈ listedOf stored request, blank record.id = false := by
    intro record inside
    obtain ⟨there, evaluation, -⟩ := complete.mem kept.sound.distinct inside
    have bound := kept.sound.bound record there
    obtain ⟨state, read⟩ := isEvaluation_iff.mp evaluation
    unfold AnalyticalRecord.state? at read
    split at read
    · rename_i lifecycle payload
      rw [Bound, payload] at bound
      exact bound.1
    · cases read
  obtain ⟨pair, after, done⟩ := @recordSnapshots_makes stored request context (listedOf stored request)
    (accuracyPayload numerics request policy (listedOf stored request)) _ _ _ first second kept bound fresh
    fresh' apart
  have snapshots := recordSnapshots_ok first second kept done
  refine ⟨pair, after, ?_, addsUp_accuracy kept.sound.distinct complete snapshots.accuracy.payload,
    addsUp_calibration kept.sound.distinct complete snapshots.calibration.payload,
    partitioned kept.sound complete snapshots.calibration.payload,
    fun again => aggregate_again complete loaded ruled kept snapshots⟩
  rw [aggregate_complete kept.sound.distinct complete loaded ruled]
  cases found : held stored request.aggregateId (accuracyPayload numerics request policy (listedOf stored request))
      (calibrationPayload numerics request policy (listedOf stored request)) with
  | some pair => exact absurd ⟨pair, found⟩ repeated
  | none => exact done

end

/-- A request that is answered once is answerable. -/
theorem answerable_of_ok {pair : AnalyticalRecord × AnalyticalRecord} (kept : Kept stored)
    (complete : Complete stored request) (done : aggregate numerics stored request context = .ok (pair, after)) :
    Answerable numerics stored request := by
  obtain ⟨policyRecord, policy, listed, loaded, ruled, mapped, answer⟩ := aggregate_ok done
  cases mapped.symm.trans (complete.listed kept.sound.distinct)
  refine ⟨policyRecord, policy, loaded, ruled, ?_⟩
  cases answer with
  | inl old => exact Or.inr ⟨pair, old.1⟩
  | inr new =>
      obtain ⟨_, first⟩ := @accuracyPayload_is numerics request policy (listedOf stored request)
      obtain ⟨_, second⟩ := @calibrationPayload_is numerics request policy (listedOf stored request)
      have snapshots := recordSnapshots_ok first second kept new
      have ids := complete.ids kept.sound.distinct
      have one : pair.1.id = snapshotId accuracyType request := by
        rw [snapshots.accuracy.identity, ids]
        rfl
      have two : pair.2.id = snapshotId calibrationType request := by
        rw [snapshots.calibration.identity, ids]
        rfl
      have apart := snapshots.apart
      rw [List.map_append, List.mem_append, not_or] at apart
      refine Or.inl ⟨one ▸ snapshots.fresh, two ▸ apart.1, fun same => apart.2 (List.mem_singleton.mpr ?_)⟩
      rw [one, two, same]

/-- After every sequence of evaluations and requests, for every request that lists its cohort. -/
theorem recomputes_iff (turns : List Turn) (complete : Complete (afterTurns correctness numerics turns) request) :
    Recomputes numerics (afterTurns correctness numerics turns) request ↔
      Answerable numerics (afterTurns correctness numerics turns) request := by
  have kept := @kept_afterTurns correctness numerics turns
  constructor
  · intro recomputes
    let start : Moment := ⟨0, by decide⟩
    obtain ⟨pair, after, done, -⟩ := recomputes ⟨start, start, le_refl _⟩
    exact answerable_of_ok kept complete done
  · intro answerable
    obtain ⟨policyRecord, policy, loaded, ruled, how⟩ := answerable
    cases how with
    | inl unused => exact recomputes_of_unused complete loaded ruled kept unused
    | inr repeated => exact recomputes_of_held complete loaded ruled kept.sound repeated

/-- A request of the same aggregate over the same evaluations finds the identities taken. -/
theorem not_recomputes_of_other {listed : List AnalyticalRecord} {accuracy calibration : Payload}
    {pair : AnalyticalRecord × AnalyticalRecord} {a c : Json} {other : AggregateRequest} (kept : Kept stored)
    (first : accuracy = .snapshot .accuracy request.aggregateId a)
    (second : calibration = .snapshot .calibration request.aggregateId c)
    (snapshots : SnapshotPair stored request listed accuracy calibration pair after)
    (ids : listed.map AnalyticalRecord.id = other.evaluationIds) (same : other.aggregateId = request.aggregateId)
    (complete : Complete after other)
    (differs : ∀ policy, accuracy ≠ accuracyPayload numerics other policy (listedOf after other)) :
    ¬Recomputes numerics after other := by
  intro recomputes
  let start : Moment := ⟨0, by decide⟩
  obtain ⟨_, _, done, -⟩ := recomputes ⟨start, start, le_refl _⟩
  obtain ⟨_, policy, -, -, how⟩ := answerable_of_ok (snapshots.keeps first second kept) complete done
  cases how with
  | inl unused =>
      refine unused.accuracy ?_
      have taken : pair.1.id = snapshotId accuracyType other := by
        rw [snapshots.accuracy.identity, ids, ← same]
        rfl
      rw [← taken, snapshots.rows, List.map_append, List.map_append]
      exact List.mem_append_left _ (List.mem_append_right _ (List.mem_singleton_self _))
  | inr repeated =>
      obtain ⟨found, answers⟩ := repeated
      have current := snapshots.held first second kept
      rw [same] at answers
      unfold held at answers current
      cases one : after.current accuracyType request.aggregateId with
      | none =>
          rw [one] at current
          cases current
      | some head =>
          cases two : after.current calibrationType request.aggregateId with
          | none =>
              rw [one, two] at current
              cases current
          | some head' =>
              rw [one, two] at current answers
              dsimp only at current answers
              split at current
              · rename_i holds
                split at answers
                · rename_i holds'
                  exact differs policy (holds.1.symm.trans holds'.1)
                · cases answers
              · cases current

/-- What Python computes for one forecast of three quarters that came true. -/
theorem one_float : Json.floatText "1.0".toList = true := by decide

theorem lower_float : Json.floatText "0.2065493144".toList = true := by decide

theorem brier_float : Json.floatText "0.0625".toList = true := by decide

theorem mean_float : Json.floatText "0.75".toList = true := by decide

def sampleNumerics : Numerics where
  accuracy _ _ := .float ⟨"1.0".toList, one_float⟩
  wilson _ _ := .obj [("lower", .float ⟨"0.2065493144".toList, lower_float⟩),
    ("upper", .float ⟨"1.0".toList, one_float⟩)]
  brier _ := .float ⟨"0.0625".toList, brier_float⟩
  meanForecast _ := .float ⟨"0.75".toList, mean_float⟩
  observedRate _ := .float ⟨"1.0".toList, one_float⟩

def sampleRequest (filterDefinition : String) (given : blank filterDefinition = false) : AggregateRequest :=
  { aggregateId := "aggregate", cohort := "all", filterDefinition, targetIds := [], windowStart := instant 1
    windowEnd := instant 9, policyId := "policy", policyVersion := "1", modelVersion := "1"
    methodologyVersion := "1", configurationVersion := "1", evaluationIds := [samplePendingId]
    texts := by
      simp only [List.mem_cons, List.not_mem_nil, or_false, forall_eq_or_imp, forall_eq]
      exact ⟨by decide, by decide, given, by decide, by decide, by decide, by decide, by decide⟩
    window := by decide, distinct := by decide, targets := by decide }

def everyPrediction : AggregateRequest := sampleRequest "every prediction" (by decide)

def tokenPredictions : AggregateRequest := sampleRequest "predictions on the token" (by decide)

def sampleTurns : List Turn := [
  .call (.persistPolicy samplePolicy (contextAt 1)),
  .call (.publish (samplePublication 2) (contextAt 2) none none)]

theorem sample_afterTurns : afterTurns sampleCorrectness sampleNumerics sampleTurns = opened :=
  @afterTurns_call _ _ _ _ [_] _ _ (@afterTurns_call _ _ _ _ [] _ _ rfl sample_policy sample_writes.1)
    sample_publish sample_writes.2.1

theorem sample_complete : Complete opened everyPrediction ∧ Complete opened tokenPredictions := by
  decide +kernel

theorem sample_fingerprint : fingerprint [samplePendingId] =
    "20dd19772907edd3f27a4d697531cdaa97d56a3dfeb9f3de2b6efb73620c2869" := by
  rw [fingerprint, Json.asciiDumps, sha256_ofList]
  decide +kernel

theorem sample_snapshotIds :
    snapshotId accuracyType everyPrediction =
      sampleId "9a7d34db87c3229c64a07de9385727124df7c43a4582b0b6768a326ecfef0a5f" ∧
    snapshotId calibrationType everyPrediction =
      sampleId "b823535ba10ed7aab2f78365f35b2f8714ff9d2487d010542d9e5d4208c6411c" := by
  have key : aggregateKey everyPrediction.aggregateId everyPrediction.evaluationIds =
      [("aggregate_id", .str "aggregate"),
        ("fingerprint", .str "20dd19772907edd3f27a4d697531cdaa97d56a3dfeb9f3de2b6efb73620c2869")] :=
    congrArg (fun text => [("aggregate_id", Json.str "aggregate"), ("fingerprint", .str text)]) sample_fingerprint
  unfold snapshotId
  rw [key]
  constructor
  · rw [recordId, stableIdentifier, Json.asciiDumps, sha256_ofList]
    decide +kernel
  · rw [recordId, stableIdentifier, Json.asciiDumps, sha256_ofList]
    decide +kernel

theorem sample_unused : Unused opened everyPrediction := by
  obtain ⟨accuracy, calibration⟩ := sample_snapshotIds
  refine ⟨?_, ?_, ?_⟩
  · rw [accuracy]
    decide
  · rw [calibration]
    decide
  · rw [accuracy, calibration]
    decide

theorem sample_policies : loadPolicy opened "policy" "1" = .ok samplePolicyRow ∧
    samplePolicyRow.policy = .ok samplePolicy :=
  ⟨by decide +kernel, rfl⟩

/-- A row that refers to the outcome. -/
def sampleOutcomeRow (id : String) (state : LifecycleState) (reason : String) (correctness : Option Bool)
    (predecessorId correctionReason : String) : AnalyticalRecord :=
  { id, createdAt := instant 9, effectiveAt := instant 9, knownAt := instant 9, modelVersion := some "1"
    methodologyFingerprint := some "1", sourceRecordIds := [samplePublicationId, samplePolicyId, "outcome"]
    sourceVersions := [schemaVersion, schemaVersion, "1"], evidenceReferences := ["evidence"]
    supersedesId := some predecessorId, correctionReason := some correctionReason
    payload := .evaluation
      { predictionId := "prediction", state, reason, correctness
        publicationRecordId := samplePublicationId, policyRecordId := samplePolicyId, policyId := "policy"
        policyVersion := "1", modelVersion := some "1", methodologyVersion := "1"
        configurationVersion := "1", forecastProbability := some sampleForecast
        outcome := some (sampleOutcome (instant 9)) } }

def sampleSelected : AnalyticalRecord :=
  sampleOutcomeRow (sampleId "bba299f1e1f22f96aabf53004ae89946d7910ecd71b7a289fc823aeae223df58") .evaluable
    "compatible strict-known outcome selected" none sampleDue.id "authorized outcome selection"

def sampleJudged : AnalyticalRecord :=
  sampleOutcomeRow (sampleId "0f2fd19835fe141995f22c58b347e95084254990892d22f91df29b18d59fe9df") .evaluatedCorrect
    "" (some true) sampleSelected.id "deterministic policy evaluation"

theorem sample_outcomeRow {identity reason correctionReason : String} {state : LifecycleState}
    {correct : Option Bool} {predecessor : AnalyticalRecord}
    (same : recordId evaluationType [("prediction_id", .str "prediction"), ("state", .str state.text),
      ("predecessor", .str predecessor.id)] = identity)
    (checked : (sampleOutcomeRow identity state reason correct predecessor.id correctionReason).check = .ok ()) :
    evaluationRecord firstPublication samplePolicyRow state (contextAt 9) (some predecessor) reason
        (some (sampleOutcome (instant 9))) correct (some correctionReason) =
      .ok (sampleOutcomeRow identity state reason correct predecessor.id correctionReason) := by
  have bound : firstPublication.native = .ok (samplePublication 2) := rfl
  rw [evaluationRecord, bound, ok_bind]
  refine (record_identity _ _ (.evaluation _) _ _ _ _ _ _ _ same).trans ?_
  exact congrArg (Except.map fun _ => _) checked

theorem sample_evaluate : Call.decide sampleCorrectness waiting
    (.evaluate "prediction" (some (sampleOutcome (instant 9))) (contextAt 9)) =
      .ok (.planned [⟨sampleSelected, .correct⟩, ⟨sampleJudged, .correct⟩]) := by
  have selected : evaluationRecord firstPublication samplePolicyRow .evaluable (contextAt 9) (some sampleDue)
      "compatible strict-known outcome selected" (some (sampleOutcome (instant 9))) none
        (some "authorized outcome selection") = .ok sampleSelected :=
    sample_outcomeRow late_selectedId (by decide)
  have judgedId := late_decidedId
  rw [decidedId, late_selectedId] at judgedId
  have judged : evaluationRecord firstPublication samplePolicyRow .evaluatedCorrect (contextAt 9)
      (some sampleSelected) "" (some (sampleOutcome (instant 9))) (some true)
        (some "deterministic policy evaluation") = .ok sampleJudged :=
    sample_outcomeRow judgedId (by decide)
  have eligible : outcomeEligibility (samplePublication 2) samplePolicy (some (sampleOutcome (instant 9)))
      (contextAt 9) (instant 9) = .ok (.evaluable, "compatible strict-known outcome selected") := by
    decide
  have verdict : verdictRecords sampleCorrectness firstPublication samplePolicyRow (contextAt 9) sampleDue
      (some (sampleOutcome (instant 9))) = .ok (sampleSelected, sampleJudged) :=
    bind_ok.mpr ⟨_, rfl, bind_ok.mpr ⟨_, rfl, bind_ok.mpr ⟨_, selected, bind_ok.mpr ⟨_, rfl,
      bind_ok.mpr ⟨_, judged, rfl⟩⟩⟩⟩⟩
  refine bind_ok.mpr ⟨_, waiting_awaits.bundle, bind_ok.mpr ⟨_, rfl, bind_ok.mpr ⟨(), rfl, bind_ok.mpr ⟨_, rfl,
    bind_ok.mpr ⟨_, rfl, bind_ok.mpr ⟨instant 9, by decide, bind_ok.mpr ⟨_, eligible, ?_⟩⟩⟩⟩⟩⟩⟩
  exact bind_ok.mpr ⟨_, verdict, rfl⟩

def evaluatedStore : Store := waiting ++ [sampleSelected, sampleJudged]

/-- The prediction is due, and judged by its outcome. -/
def judgingTurns : List Turn := sampleTurns ++ [.call (.transition "prediction" .due (contextAt 9) "due")] ++
  [.call (.evaluate "prediction" (some (sampleOutcome (instant 9))) (contextAt 9))]

theorem judging_afterTurns : afterTurns sampleCorrectness sampleNumerics judgingTurns = evaluatedStore :=
  afterTurns_call (afterTurns_call sample_afterTurns sample_due sample_writes.2.2.2.1) sample_evaluate
    (by decide +kernel)

def judgedPredictions : AggregateRequest :=
  { everyPrediction with evaluationIds := [sampleJudged.id], distinct := by decide }

theorem judged_complete : Complete evaluatedStore judgedPredictions := by
  decide +kernel

theorem judged_fingerprint : fingerprint [sampleJudged.id] =
    "9565fb3f5eb5548b9296b020a5a754e13e92b571c05948f3f011d8093aa79996" := by
  rw [fingerprint, Json.asciiDumps, sha256_ofList]
  decide +kernel

theorem judged_snapshotIds :
    snapshotId accuracyType judgedPredictions =
      sampleId "9a646c8b24c021d53ad891222ce89c2996f5c2c14aacb8de527b64e4fa47c66d" ∧
    snapshotId calibrationType judgedPredictions =
      sampleId "c192386d61c4517edfe1c0babb8a4b44d8dca6a7e9d7a15f321e79fe1bfb901a" := by
  have key : aggregateKey judgedPredictions.aggregateId judgedPredictions.evaluationIds =
      [("aggregate_id", .str "aggregate"),
        ("fingerprint", .str "9565fb3f5eb5548b9296b020a5a754e13e92b571c05948f3f011d8093aa79996")] :=
    congrArg (fun text => [("aggregate_id", Json.str "aggregate"), ("fingerprint", .str text)]) judged_fingerprint
  unfold snapshotId
  rw [key]
  constructor
  · rw [recordId, stableIdentifier, Json.asciiDumps, sha256_ofList]
    decide +kernel
  · rw [recordId, stableIdentifier, Json.asciiDumps, sha256_ofList]
    decide +kernel

/-- The aggregate of a prediction that came true. -/
theorem recomputes_sample :
    afterTurns sampleCorrectness sampleNumerics judgingTurns = evaluatedStore ∧
      forecasts (listedOf evaluatedStore judgedPredictions) = some [(sampleForecast, true)] ∧
      Recomputes sampleNumerics (afterTurns sampleCorrectness sampleNumerics judgingTurns) judgedPredictions := by
  refine ⟨judging_afterTurns, by decide +kernel, ?_⟩
  apply (recomputes_iff judgingTurns (judging_afterTurns ▸ judged_complete)).mpr
  rw [judging_afterTurns]
  refine ⟨samplePolicyRow, samplePolicy, by decide +kernel, rfl, Or.inl ⟨?_, ?_, ?_⟩⟩
  · rw [judged_snapshotIds.1]
    decide
  · rw [judged_snapshotIds.2]
    decide
  · rw [judged_snapshotIds.1, judged_snapshotIds.2]
    decide

/-- The aggregate of a pending prediction, requested again with another description of its filter. -/
theorem recomputes_fails :
    let stored := afterTurns sampleCorrectness sampleNumerics
      (sampleTurns ++ [.aggregate everyPrediction (contextAt 3)])
    Complete stored tokenPredictions ∧ loadPolicy stored "policy" "1" = .ok samplePolicyRow ∧
      ¬Recomputes sampleNumerics stored tokenPredictions := by
  intro stored
  have kept : Kept opened := by
    rw [← sample_afterTurns]
    exact kept_afterTurns sampleTurns
  obtain ⟨complete, complete'⟩ := sample_complete
  obtain ⟨pair, after, done, -⟩ := recomputes_of_unused complete sample_policies.1 sample_policies.2 kept
    sample_unused (contextAt 3)
  have reached : stored = after := afterTurns_aggregate sample_afterTurns done
  obtain ⟨policyRecord, policy, listed, -, -, mapped, answer⟩ := aggregate_ok done
  cases mapped.symm.trans (complete.listed kept.sound.distinct)
  obtain ⟨_, first⟩ := @accuracyPayload_is sampleNumerics everyPrediction policy (listedOf opened everyPrediction)
  obtain ⟨_, second⟩ :=
    @calibrationPayload_is sampleNumerics everyPrediction policy (listedOf opened everyPrediction)
  cases answer with
  | inl old =>
      have first : opened.current accuracyType everyPrediction.aggregateId = none := by
        decide +kernel
      have found := old.1
      unfold held at found
      rw [first] at found
      cases found
  | inr new =>
      have snapshots := recordSnapshots_ok first second kept new
      have still : Complete after tokenPredictions := by
        unfold Complete
        rw [snapshots.eligibleIds first second]
        exact complete'
      rw [reached]
      refine ⟨still, ?_, not_recomputes_of_other kept first second snapshots (complete.ids kept.sound.distinct)
        rfl still fun other same => ?_⟩
      · unfold loadPolicy
        rw [snapshots.current_other first second ⟨types_apart.2.1, types_apart.2.2.1⟩]
        exact sample_policies.1
      · simp only [accuracyPayload, everyPrediction, sampleRequest, common, List.cons_append, List.nil_append,
          tokenPredictions, Payload.snapshot.injEq, Json.obj.injEq, List.cons.injEq, Prod.mk.injEq, Json.str.injEq,
          String.reduceEq, and_false, false_and] at same

end Hunter.PredictionEvaluation
