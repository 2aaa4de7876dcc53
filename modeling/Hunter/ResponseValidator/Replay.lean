import Hunter.ResponseValidator.Corrections

/-!
Correction chains over whole runs: the accepted corrections of an event extend its
base record generation by generation, and the replay at a cutoff returns the last of
them that was recorded by then.
-/

namespace Hunter.ResponseValidator

open Calendar Fallible

theorem correctionRecordFromRow_of (record : CorrectionRecord) :
    correctionRecordFromRow (.of record) = .ok record := by
  simp [correctionRecordFromRow, CorrectionRecordRow.of, require]

theorem correctionAllocationFromRow_of (allocation : CorrectionAllocation) :
    correctionAllocationFromRow (.of allocation) = .ok allocation := by
  simp [correctionAllocationFromRow, CorrectionAllocationRow.of, require]

/-- The accepted corrections of an event, in the order of their acceptance. -/
def correctionsOf (records : List CorrectionRecord) (event : String) : List CorrectionRecord :=
  records.filter fun record => record.validationEventId = event

/-- Corrections that extend a base record one generation at a time, their times never
going back. -/
structure CorrectionLine (base : BaseRecord) (chain : List CorrectionRecord) : Prop extends
    Lineage.Line CorrectionRecord.recordId (fun record => some record.predecessorRecordId)
      CorrectionRecord.generation (fun a b => a.correctionRecordedAt ≤ b.correctionRecordedAt)
      (some base.recordId) 1 chain where
  after_base : ∀ record ∈ chain, base.validationRecordedAt ≤ record.correctionRecordedAt

/-- What holds of reachable states. -/
structure Accepted (records : List CorrectionRecord) (state : CorrectionState) : Prop where
  rows : state.records = records.map CorrectionRecordRow.of
  allocated : ∃ allocations : List CorrectionAllocation,
    state.allocations = allocations.map CorrectionAllocationRow.of
  line : ∀ event base, state.baseRecord event = some base →
    CorrectionLine base (correctionsOf records event)
  based : ∀ event, state.baseRecord event = none → correctionsOf records event = []

theorem CorrectionLine.snoc {base : BaseRecord} {front : List CorrectionRecord}
    {last : CorrectionRecord} :
    CorrectionLine base (front ++ [last]) ↔ CorrectionLine base front ∧
      some last.predecessorRecordId =
        Lineage.tip CorrectionRecord.recordId (some base.recordId) front ∧
      last.generation = 1 + front.length ∧
      (∀ record ∈ front, record.correctionRecordedAt ≤ last.correctionRecordedAt) ∧
      base.validationRecordedAt ≤ last.correctionRecordedAt := by
  constructor
  · rintro ⟨line, after_base⟩
    obtain ⟨front_line, names, generation, later⟩ := Lineage.Line.snoc.mp line
    refine ⟨⟨front_line, ?_⟩, names, generation, later, ?_⟩
    · exact fun record member => after_base record (List.mem_append_left _ member)
    · exact after_base last (List.mem_append_right _ (List.mem_singleton_self last))
  · rintro ⟨⟨line, after_base⟩, names, generation, later, last_after⟩
    refine ⟨Lineage.Line.snoc.mpr ⟨line, names, generation, later⟩, ?_⟩
    intro record member
    rcases List.mem_append.mp member with inside | single
    · exact after_base record inside
    · rw [List.mem_singleton.mp single]
      exact last_after

theorem CorrectionLine.nil (base : BaseRecord) : CorrectionLine base [] :=
  ⟨Lineage.Line.nil, by simp⟩

theorem correctionsOf_append (records : List CorrectionRecord) (record : CorrectionRecord)
    (event : String) :
    correctionsOf (records ++ [record]) event =
      correctionsOf records event ++ if record.validationEventId = event then [record] else [] := by
  rw [correctionsOf, List.filter_append, List.filter_singleton]
  simp [correctionsOf]

theorem Accepted.rows_of {records : List CorrectionRecord} {state : CorrectionState}
    (h : Accepted records state) (event : String) :
    state.records.filter (fun row => row.validationEventId = event) =
      (correctionsOf records event).map CorrectionRecordRow.of := by
  rw [h.rows, List.filter_map]
  rfl

theorem latestRow_snoc {front : List CorrectionRecord} {last : CorrectionRecord}
    (later : ∀ record ∈ front, record.generation < last.generation) :
    latestRow ((front ++ [last]).map CorrectionRecordRow.of) = some (.of last) := by
  have inside : ∀ row ∈ latestRow (front.map CorrectionRecordRow.of),
      row ∈ front.map CorrectionRecordRow.of := by
    clear later
    induction front using List.reverseRecOn with
    | nil =>
        intro row found
        cases found
    | append_singleton front before ih =>
        intro row found
        rw [List.map_append, List.map_singleton, latestRow, List.foldl_append, ← latestRow,
          List.foldl_cons, List.foldl_nil] at found
        rw [List.map_append]
        cases latest : latestRow (front.map CorrectionRecordRow.of) with
        | none =>
            rw [latest] at found
            cases found
            exact List.mem_append_right _ (List.mem_singleton_self _)
        | some other =>
            simp only [latest] at found
            split at found
            · cases found
              exact List.mem_append_right _ (List.mem_singleton_self _)
            · cases found
              exact List.mem_append_left _ (ih _ latest)
  rw [List.map_append, List.map_singleton, latestRow, List.foldl_append, ← latestRow, List.foldl_cons,
    List.foldl_nil]
  cases latest : latestRow (front.map CorrectionRecordRow.of) with
  | none => rfl
  | some other =>
      obtain ⟨record, member, rfl⟩ := List.mem_map.mp (inside other latest)
      exact if_pos (later record member)

/-- The head of an event is the last correction of its chain, or its base. -/
theorem currentHead_ok {records : List CorrectionRecord} {state : CorrectionState}
    (h : Accepted records state) {event headId : String} {generation : Nat} {acceptedAt : Moment}
    (ok : currentHead state event = .ok (headId, generation, acceptedAt)) :
    ∃ base, state.baseRecord event = some base ∧
      Lineage.tip CorrectionRecord.recordId (some base.recordId) (correctionsOf records event) =
        some headId ∧
      generation = (correctionsOf records event).length ∧
      (∀ record ∈ correctionsOf records event, record.correctionRecordedAt ≤ acceptedAt) ∧
      base.validationRecordedAt ≤ acceptedAt := by
  rw [currentHead, h.rows_of] at ok
  rcases List.eq_nil_or_concat (correctionsOf records event) with empty | ⟨front, last, eq⟩
  · rw [empty] at ok ⊢
    cases found : state.baseRecord event with
    | none =>
        rw [List.map_nil, latestRow, List.foldl_nil, found] at ok
        cases ok
    | some base =>
        rw [List.map_nil, latestRow, List.foldl_nil, found] at ok
        cases ok
        exact ⟨base, rfl, rfl, rfl, by simp, Fin.le_refl _⟩
  · rw [List.concat_eq_append] at eq
    cases found : state.baseRecord event with
    | none =>
        have empty := h.based event found
        rw [eq] at empty
        exact absurd empty (by simp)
    | some base =>
        have line := h.line event base found
        rw [eq] at line ok ⊢
        have increasing := line.increasing
        obtain ⟨-, -, generation_eq, later, after_base⟩ := CorrectionLine.snoc.mp line
        have before_last : ∀ record ∈ front, record.generation < last.generation := by
          intro record member
          exact (List.pairwise_append.mp increasing).2.2 record member last
            (List.mem_singleton_self last)
        rw [latestRow_snoc before_last] at ok
        simp only [correctionRecordFromRow_of, ok_bind] at ok
        cases ok
        refine ⟨base, rfl, Lineage.tip_append_singleton .., ?_, ?_, after_base⟩
        · rw [generation_eq, List.length_append, List.length_singleton, Nat.add_comm]
        · intro record member
          rcases List.mem_append.mp member with inside | single
          · exact later record inside
          · rw [List.mem_singleton.mp single]

/-- A later state of the service. -/
structure Onward (records : List CorrectionRecord) (state : CorrectionState)
    (records' : List CorrectionRecord) (after : CorrectionState) : Prop where
  accepted : Accepted records' after
  recorded : records <+: records'
  allocations : state.allocations <+: after.allocations
  bases : ∀ event base, state.baseRecord event = some base → after.baseRecord event = some base

theorem Onward.refl {records : List CorrectionRecord} {state : CorrectionState}
    (h : Accepted records state) : Onward records state records state :=
  ⟨h, List.prefix_rfl, List.prefix_rfl, fun _ _ found => found⟩

theorem Onward.trans {records₁ records₂ records₃ : List CorrectionRecord}
    {state₁ state₂ state₃ : CorrectionState} (first : Onward records₁ state₁ records₂ state₂)
    (second : Onward records₂ state₂ records₃ state₃) : Onward records₁ state₁ records₃ state₃ :=
  ⟨second.accepted, first.recorded.trans second.recorded,
    first.allocations.trans second.allocations,
    fun event base found => second.bases event base (first.bases event base found)⟩

theorem allocateCorrection_ok {records : List CorrectionRecord} {state after : CorrectionState}
    (h : Accepted records state) {now : ClockReading} {request : CorrectionRequest}
    {allocation : CorrectionAllocation}
    (ok : allocateCorrection now state request = .ok (allocation, after)) :
    Onward records state records after ∧ after.records = state.records ∧
      after.baseRecord = state.baseRecord := by
  rw [allocateCorrection] at ok
  cases search : state.allocations.find? (fun row => row.requestId = request.requestId) with
  | some row =>
      rw [search] at ok
      obtain ⟨existing, -, ok⟩ := bind_ok.mp ok
      obtain ⟨-, done⟩ := require_bind_ok.mp ok
      cases done
      exact ⟨.refl h, rfl, rfl⟩
  | none =>
      rw [search] at ok
      obtain ⟨⟨headId, generation, lowerBound⟩, -, ok⟩ := bind_ok.mp ok
      obtain ⟨-, ok⟩ := require_bind_ok.mp ok
      obtain ⟨cutoff, -, ok⟩ := bind_ok.mp ok
      by_cases chronology : lowerBound ≤ cutoff
      · rw [dif_pos chronology] at ok
        obtain ⟨-, done⟩ := require_bind_ok.mp ok
        cases done
        obtain ⟨allocations, rows⟩ := h.allocated
        refine ⟨⟨⟨h.rows, ?_, h.line, h.based⟩, List.prefix_rfl, List.prefix_append _ _,
          fun _ _ found => found⟩, rfl, rfl⟩
        refine ⟨allocations ++
          [nextCorrection request headId generation lowerBound cutoff chronology], ?_⟩
        rw [List.map_append, ← rows]
        rfl
      · rw [dif_neg chronology] at ok
        cases ok

/-- An acceptance is that of the record which is already there, or it extends the chain
of its event by a record of its own time. -/
theorem persistCorrection_ok {records : List CorrectionRecord} {state after : CorrectionState}
    (h : Accepted records state) {now : ClockReading} {allocation : CorrectionAllocation}
    {decision : CorrectionDecision} {record : CorrectionRecord}
    (ok : persistCorrection now state allocation decision = .ok (record, after)) :
    (after = state ∨ ∃ recordedAt, now = some recordedAt ∧ record.correctionRecordedAt = recordedAt ∧
        after = { state with records := state.records ++ [.of record] } ∧
        Onward records state (records ++ [record]) after) ∧
      after.records.find? (fun row => row.correctionDecisionId = allocation.correctionDecisionId) =
        some (.of record) ∧
      record.Repeats decision ∧ decision.Binds allocation ∧
      allocationByDecision state allocation.correctionDecisionId = .ok (some allocation) := by
  rw [persistCorrection] at ok
  obtain ⟨binds, ok⟩ := require_bind_ok.mp ok
  obtain ⟨canonical, read, ok⟩ := bind_ok.mp ok
  replace ok := require_bind_ok.mp ok
  obtain ⟨rfl, ok⟩ := ok
  cases search : state.records.find? (fun row =>
      row.correctionDecisionId = allocation.correctionDecisionId) with
  | some row =>
      rw [search] at ok
      have listed := List.mem_of_find?_eq_some search
      rw [h.rows] at listed
      obtain ⟨existing, -, rfl⟩ := List.mem_map.mp listed
      simp only [correctionRecordFromRow_of, ok_bind, require_bind_ok] at ok
      obtain ⟨repeats, done⟩ := ok
      cases done
      exact ⟨Or.inl rfl, search, repeats, binds, read⟩
  | none =>
      rw [search] at ok
      obtain ⟨⟨headId, generation, acceptedAt⟩, head, ok⟩ := bind_ok.mp ok
      obtain ⟨⟨names, next⟩, ok⟩ := require_bind_ok.mp ok
      obtain ⟨-, ok⟩ := require_bind_ok.mp ok
      obtain ⟨accepted_le, ok⟩ := require_bind_ok.mp ok
      obtain ⟨recordedAt, clock, ok⟩ := bind_ok.mp ok
      by_cases chronology : allocation.correctionCutoff ≤ recordedAt
      · rw [dif_pos chronology] at ok
        obtain ⟨-, done⟩ := require_bind_ok.mp ok
        cases done
        have reading : now = some recordedAt := by
          cases now with
          | none => cases clock
          | some moment => rw [Except.ok.inj clock]
        have repeats : (acceptedRecord allocation decision recordedAt chronology).Repeats decision := by
          obtain ⟨event, gen, pred, dec, cut, req⟩ := binds
          exact ⟨event.symm, gen.symm, pred.symm, dec.symm, cut.symm, req.symm, rfl, rfl, rfl, rfl,
            rfl, rfl⟩
        obtain ⟨base, found, tip_eq, generation_eq, before, after_base⟩ := currentHead_ok h head
        have in_order : acceptedAt ≤ recordedAt := Fin.le_trans accepted_le chronology
        have line : CorrectionLine base (correctionsOf records allocation.validationEventId ++
            [acceptedRecord allocation decision recordedAt chronology]) := by
          refine CorrectionLine.snoc.mpr ⟨h.line _ base found, ?_, ?_, ?_, ?_⟩
          · rw [tip_eq, names]
            rfl
          · rw [← generation_eq, Nat.add_comm]
            exact next.symm
          · exact fun record member => Fin.le_trans (before record member) in_order
          · exact Fin.le_trans after_base in_order
        refine ⟨Or.inr ⟨recordedAt, reading, rfl, rfl, ⟨⟨?_, h.allocated, ?_, ?_⟩,
          List.prefix_append _ _, List.prefix_rfl, fun _ _ found => found⟩⟩, ?_, repeats, binds, read⟩
        · rw [List.map_append, h.rows]
          rfl
        · intro event other other_found
          rw [correctionsOf_append]
          by_cases own : (acceptedRecord allocation decision recordedAt chronology).validationEventId =
              event
          · rw [if_pos own]
            subst own
            cases found.symm.trans other_found
            exact line
          · rw [if_neg own, List.append_nil]
            exact h.line event other other_found
        · intro event missing
          rw [correctionsOf_append]
          have other : (acceptedRecord allocation decision recordedAt chronology).validationEventId ≠
              event := by
            rintro rfl
            cases found.symm.trans missing
          rw [if_neg other, List.append_nil]
          exact h.based event missing
        · rw [List.find?_append, search]
          have same : (CorrectionRecordRow.of (acceptedRecord allocation decision recordedAt
              chronology)).correctionDecisionId = allocation.correctionDecisionId := rfl
          simp [same]
      · rw [dif_neg chronology] at ok
        cases ok

/-- A call of the service, or the arrival of the base record of an event, which the
terminal store keeps from then on. -/
inductive CorrectionCall where
  | arrive (event : String) (base : BaseRecord)
  | allocate (now : ClockReading) (request : CorrectionRequest)
  | issueDecision (allocation : CorrectionAllocation) (outcome : String)
      (findings : List (String × String × String)) (refusalReasonCode : Option String)
      (executed : Option Bool) (reasonCode : String)
  | persist (now : ClockReading) (allocation : CorrectionAllocation)
      (decision : CorrectionDecision)

/-- A base record is stored once. -/
def CorrectionState.arrived (state : CorrectionState) (event : String) (base : BaseRecord) :
    CorrectionState :=
  match state.baseRecord event with
  | some _ => state
  | none => { state with
      baseRecord := fun other => if other = event then some base else state.baseRecord other }

def CorrectionCall.after (state : CorrectionState) : CorrectionCall → CorrectionState
  | .arrive event base => state.arrived event base
  | .allocate now request => committed state (allocateCorrection now state request)
  | .issueDecision _ _ _ _ _ _ => state
  | .persist now allocation decision =>
      committed state (persistCorrection now state allocation decision)

/-- The instant at which a call takes place. A decision is minted at no instant. -/
def CorrectionCall.time : CorrectionCall → Option Moment
  | .arrive _ base => some base.validationRecordedAt
  | .allocate now _ => now
  | .issueDecision _ _ _ _ _ _ => none
  | .persist now _ _ => now

def Corrects (state : CorrectionState) (call : CorrectionCall) (after : CorrectionState) : Prop :=
  after = call.after state

theorem Accepted.arrived {records : List CorrectionRecord} {state : CorrectionState}
    (h : Accepted records state) (event : String) (base : BaseRecord) :
    Onward records state records (state.arrived event base) := by
  rw [CorrectionState.arrived]
  cases found : state.baseRecord event with
  | some _ => exact .refl h
  | none =>
      refine ⟨⟨h.rows, h.allocated, ?_, ?_⟩, List.prefix_rfl, List.prefix_rfl, ?_⟩
      · intro other stored lookup
        dsimp only at lookup
        by_cases same : other = event
        · rw [same, h.based event found]
          exact CorrectionLine.nil stored
        · rw [if_neg same] at lookup
          exact h.line other stored lookup
      · intro other missing
        dsimp only at missing
        by_cases same : other = event
        · rw [if_pos same] at missing
          cases missing
        · rw [if_neg same] at missing
          exact h.based other missing
      · intro other stored lookup
        have apart : other ≠ event := by
          rintro rfl
          cases found.symm.trans lookup
        exact (if_neg apart).trans lookup

theorem Accepted.call {records : List CorrectionRecord} {state after : CorrectionState}
    {call : CorrectionCall} (h : Accepted records state) (step : Corrects state call after) :
    ∃ records', Onward records state records' after := by
  have same : ∃ records', Onward records state records' state := ⟨records, .refl h⟩
  rw [Corrects] at step
  subst step
  cases call with
  | arrive event base => exact ⟨records, h.arrived event base⟩
  | allocate now request =>
      refine committed_cases (P := fun after => ∃ new, Onward records state new after) same ?_
      exact fun allocation after ok => ⟨records, (allocateCorrection_ok h ok).1⟩
  | issueDecision _ _ _ _ _ _ => exact same
  | persist now allocation decision =>
      refine committed_cases (P := fun after => ∃ new, Onward records state new after) same ?_
      intro record after ok
      rcases (persistCorrection_ok h ok).1 with rfl | ⟨_, _, _, _, onward⟩
      · exact same
      · exact ⟨_, onward⟩

theorem Accepted.run {records : List CorrectionRecord} {state after : CorrectionState}
    {calls : List CorrectionCall} (h : Accepted records state)
    (run : Run Corrects state calls after) : ∃ records', Onward records state records' after := by
  induction run with
  | nil => exact ⟨records, .refl h⟩
  | snoc _ step ih =>
      obtain ⟨middle, before⟩ := ih
      obtain ⟨final, last⟩ := before.accepted.call step
      exact ⟨final, before.trans last⟩

/-- Contiguous corrections that were decided by the cutoff are replayed to the last. -/
theorem replayRows_line {cutoff : Moment} {chain : List CorrectionRecord} {current : Replayed}
    {start : Nat}
    (linked : Lineage.Linked CorrectionRecord.recordId
      (fun record => some record.predecessorRecordId) (some current.recordId) chain)
    (numbered : chain.map CorrectionRecord.generation = List.range' start chain.length)
    (known : ∀ record ∈ chain, record.correctionCutoff ≤ cutoff) :
    replayRows cutoff (chain.map CorrectionRecordRow.of) current start =
      .ok ((chain.getLast?.map Replayed.correction).getD current) := by
  induction chain generalizing current start with
  | nil => rfl
  | cons first rest ih =>
      obtain ⟨names, rest_linked⟩ := linked
      rw [List.map_cons, List.length_cons, List.range'_succ] at numbered
      obtain ⟨number, rest_numbered⟩ := List.cons.inj numbered
      obtain ⟨first_known, rest_known⟩ := List.forall_mem_cons.mp known
      have tail : replayRows cutoff (rest.map CorrectionRecordRow.of) (.correction first) (start + 1) =
          .ok ((rest.getLast?.map Replayed.correction).getD (.correction first)) :=
        ih rest_linked rest_numbered rest_known
      rw [List.map_cons, replayRows, correctionRecordFromRow_of, ok_bind,
        if_neg (Fin.not_lt.mpr first_known), require_of ⟨number, Option.some.inj names⟩, ok_bind,
        tail, List.getLast?_cons]
      cases rest.getLast? <;> rfl

/-- The column of a row is compared as the time of its record. -/
theorem CorrectionRecordRow.recorded_by {record : CorrectionRecord} {cutoff : Moment} :
    (CorrectionRecordRow.of record).correctionRecordedAt ≤ cutoff.isoformat ↔
      record.correctionRecordedAt ≤ cutoff := by
  have column : (CorrectionRecordRow.of record).correctionRecordedAt =
      record.correctionRecordedAt.isoformat := rfl
  rw [column, isoformat_le_iff]

/-- The answer for an event whose base was known: the last correction recorded by the
cutoff, or the base. -/
theorem replay_known {records : List CorrectionRecord} {state : CorrectionState}
    (h : Accepted records state) {event : String} {base : BaseRecord} {cutoff : Moment}
    (found : state.baseRecord event = some base) (known : base.validationRecordedAt ≤ cutoff)
    {front back : List CorrectionRecord} (split : correctionsOf records event = front ++ back)
    (early : ∀ record ∈ front, record.correctionRecordedAt ≤ cutoff)
    (late : ∀ record ∈ back, ¬ record.correctionRecordedAt ≤ cutoff) :
    replay state event cutoff =
      .ok (some ((front.getLast?.map Replayed.correction).getD (.base base))) := by
  have rows : state.records.filter (fun row => row.validationEventId = event ∧
      row.correctionRecordedAt ≤ cutoff.isoformat) = front.map CorrectionRecordRow.of := by
    have both : state.records.filter (fun row => row.validationEventId = event ∧
        row.correctionRecordedAt ≤ cutoff.isoformat) =
        (state.records.filter fun row => row.validationEventId = event).filter
          fun row => row.correctionRecordedAt ≤ cutoff.isoformat := by
      rw [List.filter_filter]
      refine List.filter_congr fun row _ => ?_
      rw [Bool.decide_and, Bool.and_comm]
    have fronts : front.filter ((fun row : CorrectionRecordRow =>
        decide (row.correctionRecordedAt ≤ cutoff.isoformat)) ∘ CorrectionRecordRow.of) = front := by
      refine List.filter_eq_self.mpr fun record member => ?_
      rw [Function.comp_apply, decide_eq_true_eq, CorrectionRecordRow.recorded_by]
      exact early record member
    have backs : back.filter ((fun row : CorrectionRecordRow =>
        decide (row.correctionRecordedAt ≤ cutoff.isoformat)) ∘ CorrectionRecordRow.of) = [] := by
      refine List.filter_eq_nil_iff.mpr fun record member => ?_
      rw [Function.comp_apply, decide_eq_true_eq, CorrectionRecordRow.recorded_by]
      exact late record member
    rw [both, h.rows_of, split, List.filter_map, List.filter_append, fronts, backs, List.append_nil]
  have line := h.line event base found
  rw [split] at line
  have front_line := line.front
  have sorted : (front.map CorrectionRecordRow.of).Pairwise
      fun a b => decide (a.generation ≤ b.generation) = true := by
    rw [List.pairwise_map]
    exact front_line.increasing.imp fun {a b} less => decide_eq_true (Nat.le_of_lt less)
  have base_known : ¬ (cutoff < base.validationCutoff ∨ cutoff < base.validationRecordedAt) := by
    rintro (before | before)
    · exact absurd before (Fin.not_lt.mpr (Fin.le_trans base.chronology known))
    · exact absurd before (Fin.not_lt.mpr known)
  have replayed : replayRows cutoff (front.map CorrectionRecordRow.of) (.base base) 1 =
      .ok ((front.getLast?.map Replayed.correction).getD (.base base)) :=
    replayRows_line front_line.linked front_line.numbered fun record member =>
      Fin.le_trans record.chronology (early record member)
  rw [replay, found]
  dsimp only
  rw [if_neg base_known, rows, List.mergeSort_of_pairwise sorted, replayed]
  rfl

/-- An event whose base was not known by the cutoff has no answer. -/
theorem replay_unknown {state : CorrectionState} {event : String} {cutoff : Moment}
    (unknown : ∀ base, state.baseRecord event = some base → cutoff < base.validationRecordedAt) :
    replay state event cutoff = .ok none := by
  rw [replay]
  cases found : state.baseRecord event with
  | none => rfl
  | some base => exact if_pos (Or.inr (unknown base found))

/-- A call that takes place after a cutoff. -/
def CorrectsLater (cutoff : Moment) (state : CorrectionState) (call : CorrectionCall)
    (after : CorrectionState) : Prop :=
  Corrects state call after ∧ ∀ time ∈ call.time, cutoff < time

theorem CorrectsLater.same_replay {cutoff : Moment} {state after : CorrectionState}
    {call : CorrectionCall} {records : List CorrectionRecord} (h : Accepted records state)
    (step : CorrectsLater cutoff state call after) (event : String) :
    replay after event cutoff = replay state event cutoff := by
  obtain ⟨step, later⟩ := step
  rw [Corrects] at step
  subst step
  cases call with
  | arrive other base =>
      rw [CorrectionCall.after, CorrectionState.arrived]
      cases found : state.baseRecord other with
      | some _ => rfl
      | none =>
          by_cases same : event = other
          · have after_cutoff := later base.validationRecordedAt rfl
            rw [same, replay_unknown, replay_unknown]
            · intro stored lookup
              cases found.symm.trans lookup
            · intro stored lookup
              cases (if_pos rfl).symm.trans lookup
              exact after_cutoff
          · rw [replay, replay]
            dsimp only
            rw [if_neg same]
  | allocate now request =>
      rw [CorrectionCall.after]
      refine committed_cases (P := fun after => replay after event cutoff = replay state event cutoff)
        rfl ?_
      intro allocation after ok
      obtain ⟨-, rows, bases⟩ := allocateCorrection_ok h ok
      rw [replay, replay, rows, bases]
  | issueDecision _ _ _ _ _ _ => rfl
  | persist now allocation decision =>
      rw [CorrectionCall.after]
      refine committed_cases (P := fun after => replay after event cutoff = replay state event cutoff)
        rfl ?_
      intro record after ok
      rcases (persistCorrection_ok h ok).1 with rfl | ⟨recordedAt, reading, time, rfl, -⟩
      · rfl
      · have after_cutoff := later recordedAt reading
        have unseen : ¬ (CorrectionRecordRow.of record).correctionRecordedAt ≤ cutoff.isoformat := by
          rw [CorrectionRecordRow.recorded_by, time]
          exact Fin.not_le.mpr after_cutoff
        have rows : (state.records ++ [CorrectionRecordRow.of record]).filter (fun row =>
            row.validationEventId = event ∧ row.correctionRecordedAt ≤ cutoff.isoformat) =
            state.records.filter fun row =>
              row.validationEventId = event ∧ row.correctionRecordedAt ≤ cutoff.isoformat := by
          rw [List.filter_append, List.filter_singleton]
          simp [unseen]
        rw [replay, replay]
        dsimp only
        rw [rows]

/-- The record an acceptance returned is returned to every repetition of it. -/
theorem persistCorrection_repeats {records : List CorrectionRecord}
    {state after final : CorrectionState} (h : Accepted records state) {now : ClockReading}
    {allocation : CorrectionAllocation} {decision : CorrectionDecision} {record : CorrectionRecord}
    (ok : persistCorrection now state allocation decision = .ok (record, after))
    (same_allocations : state.allocations <+: final.allocations)
    (recorded : after.records <+: final.records) (now' : ClockReading) :
    persistCorrection now' final allocation decision = .ok (record, final) := by
  obtain ⟨-, stored, repeats, binds, read⟩ := persistCorrection_ok h ok
  have allocated : allocationByDecision final allocation.correctionDecisionId =
      .ok (some allocation) := by
    rw [allocationByDecision] at read ⊢
    obtain ⟨more, eq⟩ := same_allocations
    cases search : state.allocations.find? (fun row =>
        row.correctionDecisionId = allocation.correctionDecisionId) with
    | none =>
        rw [search] at read
        cases read
    | some row =>
        rw [search] at read
        rw [← eq, List.find?_append, search]
        exact read
  have still : final.records.find? (fun row =>
      row.correctionDecisionId = allocation.correctionDecisionId) = some (.of record) := by
    obtain ⟨more, eq⟩ := recorded
    rw [← eq, List.find?_append, stored]
    rfl
  rw [persistCorrection, require_of binds, ok_bind, allocated, ok_bind, require_of rfl, ok_bind, still]
  simp only [correctionRecordFromRow_of, ok_bind]
  rw [require_of repeats, ok_bind]

/-- The durable corrections of an event. -/
def corrections (state : CorrectionState) (event : String) : List CorrectionRecord :=
  (state.records.filter fun row => row.validationEventId = event).map CorrectionRecordRow.payload

theorem corrections_eq {records : List CorrectionRecord} {state : CorrectionState}
    (h : Accepted records state) (event : String) :
    corrections state event = correctionsOf records event := by
  rw [corrections, h.rows_of, List.map_map]
  exact List.map_id _

/-- What a replay has to answer: the base when no correction was recorded by the cutoff,
and otherwise the recorded one of the highest generation. -/
def Answers (state : CorrectionState) (event : String) (cutoff : Moment) : Replayed → Prop
  | .base record => state.baseRecord event = some record ∧
      ∀ correction ∈ corrections state event, cutoff < correction.correctionRecordedAt
  | .correction record => record ∈ corrections state event ∧
      record.correctionRecordedAt ≤ cutoff ∧
      ∀ other ∈ corrections state event, other.correctionRecordedAt ≤ cutoff →
        other.generation ≤ record.generation

theorem replay_spec {records : List CorrectionRecord} {state : CorrectionState}
    (h : Accepted records state) (event : String) (cutoff : Moment) :
    ∃ answer, replay state event cutoff = .ok answer ∧
      (answer = none ↔ ∀ base, state.baseRecord event = some base →
        cutoff < base.validationRecordedAt) ∧
      ∀ found ∈ answer, Answers state event cutoff found := by
  by_cases unknown : ∀ base, state.baseRecord event = some base → cutoff < base.validationRecordedAt
  · exact ⟨none, replay_unknown unknown, iff_of_true rfl unknown, fun _ member =>
      absurd member (Option.not_mem_none _)⟩
  · obtain ⟨base, found, known⟩ : ∃ base, state.baseRecord event = some base ∧
        base.validationRecordedAt ≤ cutoff := by
      simpa using unknown
    have line := h.line event base found
    obtain ⟨front, back, split, early, late⟩ := Lineage.cut
      (P := fun record : CorrectionRecord => record.correctionRecordedAt ≤ cutoff)
      (line.ordered.imp fun {a b} le known => Fin.le_trans le known)
    refine ⟨_, replay_known h found known split early late, iff_of_false (Option.some_ne_none _) unknown, ?_⟩
    intro answer same
    cases same
    rcases List.eq_nil_or_concat front with rfl | ⟨before, last, rfl⟩
    · refine ⟨found, fun correction member => ?_⟩
      rw [corrections_eq h, split] at member
      exact Fin.not_le.mp (late correction member)
    · rw [List.concat_eq_append] at *
      rw [List.getLast?_concat]
      refine ⟨?_, early last (by simp), fun other member recorded => ?_⟩
      · rw [corrections_eq h, split]
        simp
      · rw [corrections_eq h, split] at member
        rcases List.mem_append.mp member with inside | later
        · rw [split] at line
          have increasing := line.front.increasing
          rcases List.mem_append.mp inside with earlier | single
          · exact Nat.le_of_lt ((List.pairwise_append.mp increasing).2.2 other earlier last
              (List.mem_singleton_self last))
          · rw [List.mem_singleton.mp single]
        · exact absurd recorded (late other later)

/-- Corrections and their replay in every state that the service reaches, with any base
records: the chain of an event has generations without gaps whose times never go back,
replay answers at every cutoff without a corruption error, an acceptance repeats its
record, and what happens after a cutoff does not change the answer for it. -/
theorem replay_corrections {baseRecord : String → Option BaseRecord} {calls : List CorrectionCall}
    {state : CorrectionState} (run : Run Corrects ⟨baseRecord, [], []⟩ calls state)
    (event : String) (cutoff : Moment) :
    (corrections state event).map CorrectionRecord.generation =
        List.range' 1 (corrections state event).length ∧
      (corrections state event).Pairwise
        (fun a b => a.correctionRecordedAt ≤ b.correctionRecordedAt) ∧
      (∃ answer, replay state event cutoff = .ok answer ∧
        (answer = none ↔ ∀ base, state.baseRecord event = some base →
          cutoff < base.validationRecordedAt) ∧
        ∀ found ∈ answer, Answers state event cutoff found) ∧
      (∀ now allocation decision record after,
        persistCorrection now state allocation decision = .ok (record, after) →
        ∀ later final, Run Corrects after later final →
          ∀ now', persistCorrection now' final allocation decision = .ok (record, final)) ∧
      ∀ later final, Run (CorrectsLater cutoff) state later final →
        replay final event cutoff = replay state event cutoff := by
  have start : Accepted [] ⟨baseRecord, [], []⟩ :=
    ⟨rfl, ⟨[], rfl⟩, fun _ base _ => CorrectionLine.nil base, fun _ _ => rfl⟩
  obtain ⟨records, onward⟩ := start.run run
  have h := onward.accepted
  have chain : (corrections state event).map CorrectionRecord.generation =
      List.range' 1 (corrections state event).length ∧
      (corrections state event).Pairwise
        (fun a b => a.correctionRecordedAt ≤ b.correctionRecordedAt) := by
    rw [corrections_eq h]
    cases found : state.baseRecord event with
    | none =>
        rw [h.based event found]
        exact ⟨rfl, List.Pairwise.nil⟩
    | some base => exact ⟨(h.line event base found).numbered, (h.line event base found).ordered⟩
  refine ⟨chain.1, chain.2, replay_spec h event cutoff, ?_, ?_⟩
  · intro now allocation decision record after ok later final rest now'
    have accepted : ∃ new, Onward records state new after := by
      rcases (persistCorrection_ok h ok).1 with rfl | ⟨_, _, _, _, onward⟩
      · exact ⟨records, .refl h⟩
      · exact ⟨_, onward⟩
    obtain ⟨new, next⟩ := accepted
    obtain ⟨last, done⟩ := next.accepted.run rest
    refine persistCorrection_repeats h ok (next.allocations.trans done.allocations) ?_ now'
    obtain ⟨more, eq⟩ := done.recorded
    refine ⟨more.map CorrectionRecordRow.of, ?_⟩
    rw [next.accepted.rows, done.accepted.rows, ← eq, List.map_append]
  · intro later final rest
    refine (rest.preserves (fun final => (∃ records, Accepted records final) ∧
      replay final event cutoff = replay state event cutoff) ?_ ⟨⟨records, h⟩, rfl⟩).2
    rintro before call after ⟨⟨middle, accepted⟩, same⟩ step
    obtain ⟨new, next⟩ := accepted.call step.1
    exact ⟨⟨new, next.accepted⟩, (step.same_replay accepted event).trans same⟩

def sampleBase : BaseRecord :=
  ⟨"base", ⟨5, five_lt_end⟩, ⟨6, six_lt_end⟩, Nat.le_succ 5⟩

def sampleRequest : CorrectionRequest :=
  ⟨"event", "base", "GOVERNED_CORRECTION", by decide⟩

theorem sample_advances : (⟨6, six_lt_end⟩ : Moment) ≤ ⟨10, ten_lt_end⟩ := by decide

def sampleAllocation : CorrectionAllocation :=
  nextCorrection sampleRequest "base" 0 ⟨6, six_lt_end⟩ ⟨10, ten_lt_end⟩ sample_advances

def sampleDecision : CorrectionDecision where
  validationEventId := sampleAllocation.validationEventId
  generation := sampleAllocation.generation
  predecessorRecordId := sampleAllocation.predecessorRecordId
  correctionDecisionId := sampleAllocation.correctionDecisionId
  correctionCutoff := sampleAllocation.correctionCutoff
  requestId := sampleAllocation.requestId
  state := .valid
  findings := [⟨"SYNTAX", .valid, "OK"⟩]
  refusalReasonCode := none
  executed := some true
  reasonCode := "GOVERNED_CORRECTION"
  canonical := by decide +kernel

def sampleRecord : CorrectionRecord :=
  acceptedRecord sampleAllocation sampleDecision ⟨12, by decide⟩ (by decide)

def sampleStart : CorrectionState := ⟨fun _ => some sampleBase, [], []⟩

def sampleAllocated : CorrectionState := { sampleStart with allocations := [.of sampleAllocation] }

theorem sample_allocate : allocateCorrection (some ⟨10, by decide⟩) sampleStart sampleRequest =
    .ok (sampleAllocation, sampleAllocated) := rfl

theorem sample_persist :
    persistCorrection (some ⟨12, by decide⟩) sampleAllocated sampleAllocation sampleDecision =
      .ok (sampleRecord, { sampleAllocated with records := [.of sampleRecord] }) := by
  have binds : sampleDecision.Binds sampleAllocation := ⟨rfl, rfl, rfl, rfl, rfl, rfl⟩
  have allocated : allocationByDecision sampleAllocated sampleAllocation.correctionDecisionId =
      .ok (some sampleAllocation) := by
    have found : sampleAllocated.allocations.find? (fun row =>
        row.correctionDecisionId = sampleAllocation.correctionDecisionId) =
        some (.of sampleAllocation) := Lineage.find?_of_unique (List.mem_singleton_self _)
      (decide_eq_true rfl) fun row member _ => List.mem_singleton.mp member
    rw [allocationByDecision, found]
    exact congrArg (some <$> ·) (correctionAllocationFromRow_of sampleAllocation)
  rw [persistCorrection, require_of binds, ok_bind, allocated, ok_bind, require_of rfl, ok_bind]
  rfl

def sampleCorrected : CorrectionState := { sampleAllocated with records := [.of sampleRecord] }

/-- A base accepted at 6, a correction allocated at 10 and accepted at 12: from 12 on a
replay answers with the correction. -/
theorem replay_corrections_sample :
    Run Corrects sampleStart [.allocate (some ⟨10, by decide⟩) sampleRequest,
      .persist (some ⟨12, by decide⟩) sampleAllocation sampleDecision] sampleCorrected ∧
      replay sampleCorrected "event" ⟨12, by decide⟩ = .ok (some (.correction sampleRecord)) := by
  have first : Corrects sampleStart (.allocate (some ⟨10, by decide⟩) sampleRequest)
      sampleAllocated := by
    rw [Corrects, CorrectionCall.after, sample_allocate]
    rfl
  have second : Corrects sampleAllocated
      (.persist (some ⟨12, by decide⟩) sampleAllocation sampleDecision) sampleCorrected := by
    rw [Corrects, CorrectionCall.after, sample_persist]
    rfl
  have run := (Run.nil.snoc first).snoc second
  obtain ⟨-, -, ⟨answer, found, none_iff, answers⟩, -⟩ :=
    replay_corrections run "event" ⟨12, by decide⟩
  have listed : corrections sampleCorrected "event" = [sampleRecord] := rfl
  refine ⟨run, ?_⟩
  cases answer with
  | none => exact absurd (none_iff.mp rfl sampleBase rfl) (by decide)
  | some replayed =>
      have stands := answers replayed rfl
      cases replayed with
      | base record => exact absurd (stands.2 sampleRecord (listed ▸ List.mem_singleton_self _)) (by decide)
      | correction record =>
          have inside := stands.1
          rw [listed, List.mem_singleton] at inside
          rw [found, inside]

end Hunter.ResponseValidator
