import Hunter.Data.Lineage
import Hunter.Machine.Run
import Hunter.ResponseValidator.Outcomes

/-!
Governed corrections of a terminal record: the allocation of the next generation, the
decision that is minted for it, its acceptance, and the replay of the record that was
known at a cutoff. Allocation and acceptance are separate transactions. The
acceptance checks the head of the chain again, so the accepted corrections of an event
form one line whose times never go back.
-/

namespace Hunter.ResponseValidator

open Calendar Fallible

/-- What the service reads of the record of generation 0. -/
structure BaseRecord where
  recordId : String
  validationCutoff : Moment
  validationRecordedAt : Moment
  chronology : validationCutoff ≤ validationRecordedAt

/-- Caller proposal for a correction. Its texts are non-blank. -/
structure CorrectionRequest where
  validationEventId : String
  predecessorRecordId : String
  reasonCode : String
  non_blank : ∀ text ∈ [validationEventId, predecessorRecordId, reasonCode],
    Chars.strip text.scalars ≠ []

def CorrectionRequest.requestId (request : CorrectionRequest) : String :=
  identity "response-validation-correction-request" (.obj [
    ("validation_event_id", .str request.validationEventId),
    ("predecessor_record_id", .str request.predecessorRecordId),
    ("reason_code", .str request.reasonCode),
    ("schema_version", .str "response-validation-correction-request-v2")])

/-- Trusted exact-next-generation allocation. -/
@[ext]
structure CorrectionAllocation where
  validationEventId : String
  generation : Nat
  predecessorRecordId : String
  predecessorAcceptedAt : Moment
  correctionCutoff : Moment
  correctionDecisionId : String
  requestId : String
  generation_pos : 1 ≤ generation
  chronology : predecessorAcceptedAt ≤ correctionCutoff

instance : DecidableEq CorrectionAllocation := fun _ _ =>
  decidable_of_iff _ CorrectionAllocation.ext_iff.symm

/-- Semantic decision bound to one allocation. Its outcome is canonical. -/
structure CorrectionDecision where
  validationEventId : String
  generation : Nat
  predecessorRecordId : String
  correctionDecisionId : String
  correctionCutoff : Moment
  requestId : String
  state : ValidationState
  findings : List Finding
  refusalReasonCode : Option String
  executed : Option Bool
  reasonCode : String
  canonical : canonicalOutcome state.text (findings.map Finding.triple) refusalReasonCode executed =
    .ok (state, findings)

/-- Immutable accepted correction. -/
structure CorrectionRecord where
  validationEventId : String
  generation : Nat
  predecessorRecordId : String
  correctionDecisionId : String
  correctionCutoff : Moment
  correctionRecordedAt : Moment
  requestId : String
  decisionPayloadId : String
  state : ValidationState
  findings : List Finding
  refusalReasonCode : Option String
  executed : Option Bool
  reasonCode : String
  generation_pos : 1 ≤ generation
  chronology : correctionCutoff ≤ correctionRecordedAt
  canonical : canonicalOutcome state.text (findings.map Finding.triple) refusalReasonCode executed =
    .ok (state, findings)

/-- The members of a decided outcome. -/
def outcomeMembers (state : ValidationState) (findings : List Finding)
    (refusalReasonCode : Option String) (executed : Option Bool) (reasonCode : String) :
    List (String × Json) := [
  ("state", .str state.text),
  ("findings", .arr (findings.map fun finding => .arr [.str finding.dimension,
    .str finding.state.text, .str finding.reasonCode])),
  ("refusal_reason_code", optionalText refusalReasonCode),
  ("executed", match executed with
    | some flag => .bool flag
    | none => .null),
  ("reason_code", .str reasonCode)]

def CorrectionDecision.decisionPayloadId (decision : CorrectionDecision) : String :=
  identity "response-validation-correction-semantic-decision" (.obj ([
    ("validation_event_id", .str decision.validationEventId),
    ("generation", .int decision.generation),
    ("predecessor_record_id", .str decision.predecessorRecordId),
    ("correction_decision_id", .str decision.correctionDecisionId),
    ("correction_cutoff", .str decision.correctionCutoff.isoformat),
    ("request_id", .str decision.requestId),
    ("schema_version", .str "response-validation-correction-decision-v1")] ++
    outcomeMembers decision.state decision.findings decision.refusalReasonCode decision.executed
      decision.reasonCode))

/-- `asdict` of a record. -/
def CorrectionRecord.json (record : CorrectionRecord) : Json := .obj ([
  ("validation_event_id", .str record.validationEventId),
  ("generation", .int record.generation),
  ("predecessor_record_id", .str record.predecessorRecordId),
  ("correction_decision_id", .str record.correctionDecisionId),
  ("correction_cutoff", .str record.correctionCutoff.isoformat),
  ("correction_recorded_at", .str record.correctionRecordedAt.isoformat),
  ("request_id", .str record.requestId),
  ("decision_payload_id", .str record.decisionPayloadId),
  ("schema_version", .str "response-validation-correction-record-v1")] ++
  outcomeMembers record.state record.findings record.refusalReasonCode record.executed
    record.reasonCode)

def CorrectionRecord.recordId (record : CorrectionRecord) : String :=
  identity "response-validation-correction-record" record.json

/-- `asdict` of an allocation. -/
def CorrectionAllocation.json (allocation : CorrectionAllocation) : Json := .obj [
  ("validation_event_id", .str allocation.validationEventId),
  ("generation", .int allocation.generation),
  ("predecessor_record_id", .str allocation.predecessorRecordId),
  ("predecessor_accepted_at", .str allocation.predecessorAcceptedAt.isoformat),
  ("correction_cutoff", .str allocation.correctionCutoff.isoformat),
  ("correction_decision_id", .str allocation.correctionDecisionId),
  ("request_id", .str allocation.requestId),
  ("schema_version", .str "response-validation-correction-allocation-v1")]

/-- A row with its indexed columns. The payload column is the record it encodes. -/
structure CorrectionAllocationRow where
  validationEventId : String
  generation : Nat
  predecessorRecordId : String
  correctionDecisionId : String
  requestId : String
  payloadHash : String
  payload : CorrectionAllocation

def CorrectionAllocationRow.of (allocation : CorrectionAllocation) : CorrectionAllocationRow where
  validationEventId := allocation.validationEventId
  generation := allocation.generation
  predecessorRecordId := allocation.predecessorRecordId
  correctionDecisionId := allocation.correctionDecisionId
  requestId := allocation.requestId
  payloadHash := sha256 allocation.json.dumps
  payload := allocation

def correctionAllocationFromRow (row : CorrectionAllocationRow) : Py CorrectionAllocation := do
  let allocation := row.payload
  require (sha256 allocation.json.dumps = row.payloadHash)
    (.correctionCorruption "correction allocation payload hash mismatch")
  let mismatch (name : String) : Exn := .correctionCorruption
    ("correction allocation " ++ name ++ " index does not match payload")
  require (row.validationEventId = allocation.validationEventId) (mismatch "validation_event_id")
  require (row.generation = allocation.generation) (mismatch "generation")
  require (row.predecessorRecordId = allocation.predecessorRecordId)
    (mismatch "predecessor_record_id")
  require (row.correctionDecisionId = allocation.correctionDecisionId)
    (mismatch "correction_decision_id")
  require (row.requestId = allocation.requestId) (mismatch "request_id")
  .ok allocation

structure CorrectionRecordRow where
  validationEventId : String
  generation : Nat
  predecessorRecordId : String
  correctionDecisionId : String
  correctionRecordedAt : String
  recordId : String
  payloadHash : String
  payload : CorrectionRecord

def CorrectionRecordRow.of (record : CorrectionRecord) : CorrectionRecordRow where
  validationEventId := record.validationEventId
  generation := record.generation
  predecessorRecordId := record.predecessorRecordId
  correctionDecisionId := record.correctionDecisionId
  correctionRecordedAt := record.correctionRecordedAt.isoformat
  recordId := record.recordId
  payloadHash := sha256 record.json.dumps
  payload := record

def correctionRecordFromRow (row : CorrectionRecordRow) : Py CorrectionRecord := do
  let record := row.payload
  require (sha256 record.json.dumps = row.payloadHash)
    (.correctionCorruption "correction record payload hash mismatch")
  let mismatch (name : String) : Exn := .correctionCorruption
    ("correction record " ++ name ++ " index does not match payload")
  require (row.validationEventId = record.validationEventId) (mismatch "validation_event_id")
  require (row.generation = record.generation) (mismatch "generation")
  require (row.predecessorRecordId = record.predecessorRecordId) (mismatch "predecessor_record_id")
  require (row.correctionDecisionId = record.correctionDecisionId)
    (mismatch "correction_decision_id")
  require (row.correctionRecordedAt = record.correctionRecordedAt.isoformat)
    (mismatch "correction_recorded_at")
  require (row.recordId = record.recordId) (mismatch "record_id")
  .ok record

/-- The loader of base records and the two tables of the service. -/
structure CorrectionState where
  baseRecord : String → Option BaseRecord
  allocations : List CorrectionAllocationRow
  records : List CorrectionRecordRow

/-- `ORDER BY generation DESC LIMIT 1`. -/
def latestRow (rows : List CorrectionRecordRow) : Option CorrectionRecordRow :=
  rows.foldl (fun latest row =>
    match latest with
    | none => some row
    | some other => if other.generation < row.generation then some row else some other) none

/-- The identity, the generation and the acceptance of the head of an event. -/
def currentHead (state : CorrectionState) (validationEventId : String) :
    Py (String × Nat × Moment) :=
  match latestRow (state.records.filter fun row => row.validationEventId = validationEventId) with
  | some row => do
      let record ← correctionRecordFromRow row
      .ok (record.recordId, record.generation, record.correctionRecordedAt)
  | none =>
      match state.baseRecord validationEventId with
      | none => .error (.correctionConflict "correction predecessor base record is unknown")
      | some base => .ok (base.recordId, 0, base.validationRecordedAt)

def correctionClock (now : ClockReading) (name : String) : Py Moment :=
  match now with
  | some moment => .ok moment
  | none => .error (.correctionConflict (name ++ " must be timezone-aware"))

def CorrectionAllocationRow.clashes (row other : CorrectionAllocationRow) : Bool :=
  row.correctionDecisionId = other.correctionDecisionId || row.requestId = other.requestId ||
    (row.validationEventId = other.validationEventId && row.generation = other.generation) ||
    row.predecessorRecordId = other.predecessorRecordId

def correctionDecisionId (request : CorrectionRequest) (generation : Nat) (headId : String)
    (lowerBound cutoff : Moment) : String :=
  identity "response-validation-correction-decision" (.obj [
    ("validation_event_id", .str request.validationEventId),
    ("generation", .int generation),
    ("predecessor_record_id", .str headId),
    ("predecessor_accepted_at", .str lowerBound.isoformat),
    ("correction_cutoff", .str cutoff.isoformat),
    ("request_id", .str request.requestId)])

/-- The allocation of the generation after a head. -/
def nextCorrection (request : CorrectionRequest) (headId : String) (generation : Nat)
    (lowerBound cutoff : Moment) (chronology : lowerBound ≤ cutoff) : CorrectionAllocation where
  validationEventId := request.validationEventId
  generation := generation + 1
  predecessorRecordId := headId
  predecessorAcceptedAt := lowerBound
  correctionCutoff := cutoff
  correctionDecisionId := correctionDecisionId request (generation + 1) headId lowerBound cutoff
  requestId := request.requestId
  generation_pos := Nat.le_add_left 1 generation
  chronology

def allocateCorrection (now : ClockReading) (state : CorrectionState) (request : CorrectionRequest) :
    Py (CorrectionAllocation × CorrectionState) := do
  match state.allocations.find? fun row => row.requestId = request.requestId with
  | some row => do
      let existing ← correctionAllocationFromRow row
      require (existing.predecessorRecordId = request.predecessorRecordId)
        (.correctionConflict "retry changed immutable predecessor")
      .ok (existing, state)
  | none => do
      let (headId, generation, lowerBound) ← currentHead state request.validationEventId
      require (headId = request.predecessorRecordId)
        (.correctionConflict "correction request does not name exact current predecessor")
      let cutoff ← correctionClock now "correction_cutoff"
      if chronology : lowerBound ≤ cutoff then do
        let allocation := nextCorrection request headId generation lowerBound cutoff chronology
        let row := CorrectionAllocationRow.of allocation
        require (state.allocations.all fun other => !row.clashes other)
          (.correctionConflict "exact next correction generation is already claimed")
        .ok (allocation, { state with allocations := state.allocations ++ [row] })
      else
        .error (.correctionConflict
          "correction chronology is inverted; generation remains unclaimed")

/-- `_allocation_by_decision`. -/
def allocationByDecision (state : CorrectionState) (decisionId : String) :
    Py (Option CorrectionAllocation) :=
  match state.allocations.find? fun row => row.correctionDecisionId = decisionId with
  | some row => some <$> correctionAllocationFromRow row
  | none => .ok none

def issueDecision (state : CorrectionState) (allocation : CorrectionAllocation)
    (outcome : String) (findings : List (String × String × String))
    (refusalReasonCode : Option String) (executed : Option Bool) (reasonCode : String) :
    Py CorrectionDecision := do
  let canonical ← allocationByDecision state allocation.correctionDecisionId
  require (canonical = some allocation)
    (.correctionConflict "correction allocation was substituted or tampered")
  match ok : canonicalOutcome outcome findings refusalReasonCode executed with
  | .error exn => .error exn
  | .ok (decided, normalized) => do
      let reasonCode ← nonBlank "reason_code" reasonCode
      .ok
        { validationEventId := allocation.validationEventId
          generation := allocation.generation
          predecessorRecordId := allocation.predecessorRecordId
          correctionDecisionId := allocation.correctionDecisionId
          correctionCutoff := allocation.correctionCutoff
          requestId := allocation.requestId
          state := decided
          findings := normalized
          refusalReasonCode
          executed
          reasonCode
          canonical := canonicalOutcome_idem ok }

/-- The coordinates a decision has to bind exactly. -/
def CorrectionDecision.Binds (decision : CorrectionDecision) (allocation : CorrectionAllocation) :
    Prop :=
  decision.validationEventId = allocation.validationEventId ∧
    decision.generation = allocation.generation ∧
    decision.predecessorRecordId = allocation.predecessorRecordId ∧
    decision.correctionDecisionId = allocation.correctionDecisionId ∧
    decision.correctionCutoff = allocation.correctionCutoff ∧
    decision.requestId = allocation.requestId

instance (decision : CorrectionDecision) (allocation : CorrectionAllocation) :
    Decidable (decision.Binds allocation) := by
  unfold CorrectionDecision.Binds
  infer_instance

/-- The coordinates a retry has to repeat. -/
def CorrectionRecord.Repeats (record : CorrectionRecord) (decision : CorrectionDecision) : Prop :=
  record.validationEventId = decision.validationEventId ∧
    record.generation = decision.generation ∧
    record.predecessorRecordId = decision.predecessorRecordId ∧
    record.correctionDecisionId = decision.correctionDecisionId ∧
    record.correctionCutoff = decision.correctionCutoff ∧
    record.requestId = decision.requestId ∧
    record.decisionPayloadId = decision.decisionPayloadId ∧
    record.state = decision.state ∧ record.findings = decision.findings ∧
    record.refusalReasonCode = decision.refusalReasonCode ∧
    record.executed = decision.executed ∧ record.reasonCode = decision.reasonCode

instance (record : CorrectionRecord) (decision : CorrectionDecision) :
    Decidable (record.Repeats decision) := by
  unfold CorrectionRecord.Repeats
  infer_instance

/-- The record that accepts a decision. -/
def acceptedRecord (allocation : CorrectionAllocation) (decision : CorrectionDecision)
    (recordedAt : Moment) (chronology : allocation.correctionCutoff ≤ recordedAt) :
    CorrectionRecord where
  validationEventId := allocation.validationEventId
  generation := allocation.generation
  predecessorRecordId := allocation.predecessorRecordId
  correctionDecisionId := allocation.correctionDecisionId
  correctionCutoff := allocation.correctionCutoff
  correctionRecordedAt := recordedAt
  requestId := allocation.requestId
  decisionPayloadId := decision.decisionPayloadId
  state := decision.state
  findings := decision.findings
  refusalReasonCode := decision.refusalReasonCode
  executed := decision.executed
  reasonCode := decision.reasonCode
  generation_pos := allocation.generation_pos
  chronology
  canonical := decision.canonical

def CorrectionRecordRow.clashes (row other : CorrectionRecordRow) : Bool :=
  row.correctionDecisionId = other.correctionDecisionId || row.recordId = other.recordId ||
    (row.validationEventId = other.validationEventId && row.generation = other.generation) ||
    row.predecessorRecordId = other.predecessorRecordId

def persistCorrection (now : ClockReading) (state : CorrectionState)
    (allocation : CorrectionAllocation) (decision : CorrectionDecision) :
    Py (CorrectionRecord × CorrectionState) := do
  require (decision.Binds allocation)
    (.correctionConflict "correction decision/allocation identity mismatch")
  let canonical ← allocationByDecision state allocation.correctionDecisionId
  require (canonical = some allocation)
    (.correctionConflict "correction allocation was substituted or tampered")
  match state.records.find? fun row =>
      row.correctionDecisionId = allocation.correctionDecisionId with
  | some row => do
      let existing ← correctionRecordFromRow row
      require (existing.Repeats decision)
        (.correctionConflict "retry conflicts with immutable corrected semantics")
      .ok (existing, state)
  | none => do
      let (headId, generation, acceptedAt) ← currentHead state allocation.validationEventId
      require (headId = allocation.predecessorRecordId ∧ generation + 1 = allocation.generation)
        (.correctionConflict "correction allocation no longer extends exact current head")
      require (acceptedAt = allocation.predecessorAcceptedAt)
        (.correctionConflict "correction allocation predecessor acceptance was substituted")
      require (acceptedAt ≤ allocation.correctionCutoff)
        (.correctionConflict "correction predecessor chronology is invalid")
      let recordedAt ← correctionClock now "correction_recorded_at"
      if chronology : allocation.correctionCutoff ≤ recordedAt then do
        let record := acceptedRecord allocation decision recordedAt chronology
        let row := CorrectionRecordRow.of record
        require (state.records.all fun other => !row.clashes other)
          (.correctionConflict "immutable correction record identity conflict")
        .ok (record, { state with records := state.records ++ [row] })
      else
        .error (.correctionConflict "correction acceptance precedes trusted correction cutoff")

inductive Replayed where
  | base (record : BaseRecord)
  | correction (record : CorrectionRecord)

def Replayed.recordId : Replayed → String
  | .base record => record.recordId
  | .correction record => record.recordId

def replayRows (cutoff : Moment) : List CorrectionRecordRow → Replayed → Nat → Py Replayed
  | [], current, _ => .ok current
  | row :: rows, current, expectedGeneration => do
      let record ← correctionRecordFromRow row
      if cutoff < record.correctionCutoff then
        replayRows cutoff rows current expectedGeneration
      else do
        require (record.generation = expectedGeneration ∧
            record.predecessorRecordId = current.recordId)
          (.correctionCorruption "correction replay lineage is non-contiguous")
        replayRows cutoff rows (.correction record) (expectedGeneration + 1)

def replay (state : CorrectionState) (validationEventId : String) (cutoff : Moment) :
    Py (Option Replayed) :=
  match state.baseRecord validationEventId with
  | none => .ok none
  | some base =>
      if cutoff < base.validationCutoff ∨ cutoff < base.validationRecordedAt then .ok none
      else
        let rows := (state.records.filter fun row =>
          row.validationEventId = validationEventId ∧
            row.correctionRecordedAt ≤ cutoff.isoformat).mergeSort
          fun a b => a.generation ≤ b.generation
        some <$> replayRows cutoff rows (.base base) 1

end Hunter.ResponseValidator
