import Mathlib
import Hunter.Machine.Run
import Hunter.ResponseValidator.Terminal

/-!
What the validator returns against what terminal persistence accepts. A result that is
attested and that speaks of an allocated event is stored once, every repetition returns
the record that is there, and every other result for the event is refused. All results
are of this kind but one: the execution of an authorization whose input has become
unavailable is attested as a refusal.
-/

namespace Hunter.ResponseValidator

open Calendar Fallible

namespace ValidatorResult

def validationEventId : ValidatorResult → String
  | .execution outcome _ => outcome.coordinates.validationEventId.val
  | .refusal refused _ => refused.validationEventId.val

/-- What is stored of a result for an allocation. -/
def decision (allocation : ValidationEventAllocation) : ValidatorResult → TerminalDecision
  | .execution outcome attestation => executionDecision outcome attestation
  | .refusal refused attestation => refusalDecision refused attestation allocation

/-- The attestation is of the kind and the content of the result. -/
def Attested : ValidatorResult → Prop
  | .execution outcome attestation => attestation.kind = .success ∧
      attestation.decisionId = outcome.semanticOutcomeId ∧
      attestation.validationEventId = outcome.coordinates.validationEventId.val ∧
      attestation.state = outcome.state ∧
      attestation.authorizationId = some outcome.authorizationId
  | .refusal refused attestation => attestation.kind = .refusal ∧
      attestation.decisionId = refused.refusalId ∧
      attestation.validationEventId = refused.validationEventId.val ∧
      attestation.state = refused.state ∧ attestation.authorizationId = none

/-- The result is about an allocation. -/
def Concerns (allocation : ValidationEventAllocation) : ValidatorResult → Prop
  | .execution outcome _ =>
      outcome.coordinates.validationEventId.val = allocation.validationEventId ∧
      outcome.coordinates.validationCutoff = allocation.validationCutoff ∧
      outcome.coordinates.revalidationGeneration = allocation.revalidationGeneration ∧
      outcome.coordinates.predecessorValidationEventId = allocation.predecessorValidationEventId
  | .refusal refused _ => refused.validationEventId.val = allocation.validationEventId ∧
      refused.validationCutoff = allocation.validationCutoff

theorem Concerns.event {allocation : ValidationEventAllocation} {result : ValidatorResult}
    (h : result.Concerns allocation) : result.validationEventId = allocation.validationEventId := by
  cases result with
  | execution outcome attestation => exact h.1
  | refusal refused attestation => exact h.1

theorem decision_event (allocation : ValidationEventAllocation) (result : ValidatorResult) :
    (result.decision allocation).validationEventId = result.validationEventId := by
  cases result <;> rfl

theorem Concerns.decision_cutoff {allocation : ValidationEventAllocation} {result : ValidatorResult}
    (h : result.Concerns allocation) :
    (result.decision allocation).validationCutoff = allocation.validationCutoff := by
  cases result with
  | execution outcome attestation => exact h.2.1
  | refusal refused attestation => exact h.2

theorem Concerns.decision_line {allocation : ValidationEventAllocation} {result : ValidatorResult}
    (h : result.Concerns allocation) :
    (result.decision allocation).revalidationGeneration = allocation.revalidationGeneration ∧
      (result.decision allocation).predecessorValidationEventId =
        allocation.predecessorValidationEventId := by
  cases result with
  | execution outcome attestation => exact h.2.2
  | refusal refused attestation => exact ⟨rfl, rfl⟩

theorem finding_inj : Function.Injective fun finding : ValidationFinding =>
    (finding.dimension.val, finding.state.text, finding.reasonCode.val) := by
  intro a b same
  rw [Prod.mk.injEq, Prod.mk.injEq, ValidationState.text_inj] at same
  obtain ⟨dimension, state, reason⟩ := same
  cases a
  cases b
  simp_all [Subtype.ext_iff]

/-- The stored decision determines an attested result. -/
theorem decision_inj {allocation : ValidationEventAllocation} {a b : ValidatorResult}
    (ha : a.Attested) (hb : b.Attested)
    (same : a.decision allocation = b.decision allocation) : a = b := by
  cases a with
  | execution outcome attestation =>
      cases b with
      | refusal refused other => cases congrArg TerminalDecision.decisionKind same
      | execution outcome' attestation' =>
          have outcomes : outcome = outcome' := by
            have authorization := congrArg TerminalDecision.authorizationId same
            have coordinates := congrArg TerminalDecision.lineage same
            have state := congrArg TerminalDecision.state same
            have executed := congrArg TerminalDecision.executed same
            have findings := congrArg TerminalDecision.findings same
            cases outcome
            cases outcome'
            congr 1
            · exact Option.some.inj authorization
            · exact Option.some.inj coordinates
            · exact List.map_injective_iff.mpr finding_inj findings
            · exact Option.some.inj executed
          subst outcomes
          obtain ⟨kind, decided, event, state, authorized⟩ := ha
          obtain ⟨kind', decided', event', state', authorized'⟩ := hb
          rw [Attestation.ext (kind.trans kind'.symm) (decided.trans decided'.symm)
            (event.trans event'.symm) (state.trans state'.symm) (authorized.trans authorized'.symm)]
  | refusal refused attestation =>
      cases b with
      | execution outcome other => cases congrArg TerminalDecision.decisionKind same
      | refusal refused' attestation' =>
          have refusals : refused = refused' := by
            have event := congrArg TerminalDecision.validationEventId same
            have cutoff := congrArg TerminalDecision.validationCutoff same
            have state := congrArg TerminalDecision.state same
            have reason := congrArg TerminalDecision.refusalReasonCode same
            have authority := congrArg TerminalDecision.availableAuthority same
            cases refused
            cases refused'
            congr 1
            · exact Subtype.ext event
            · exact Subtype.ext (Option.some.inj reason)
          subst refusals
          obtain ⟨kind, decided, event, state, authorized⟩ := ha
          obtain ⟨kind', decided', event', state', authorized'⟩ := hb
          rw [Attestation.ext (kind.trans kind'.symm) (decided.trans decided'.symm)
            (event.trans event'.symm) (state.trans state'.symm) (authorized.trans authorized'.symm)]

end ValidatorResult

theorem identity_visible (kind : String) (value : Json) :
    Chars.strip (identity kind value).scalars ≠ [] := by
  refine Chars.strip_ne_nil_of_mem (c := ':') ?_ (by decide)
  rw [identity, String.scalars_eq_toList]
  simp

/-- A decision whose record is the decision itself. -/
structure TerminalDecision.Canonical (decision : TerminalDecision) : Prop where
  findings : ∀ finding ∈ decision.findings, normalizeFinding finding = .ok finding
  visible : ∀ text ∈ [decision.validationEventId, decision.decisionId, decision.attestationId],
    Chars.strip text.scalars ≠ []
  sorted : decision.availableAuthority.mergeSort authorityBefore = decision.availableAuthority
  unique : (decision.availableAuthority.map Prod.fst).Nodup
  kind : requireKind decision = .ok ()

theorem terminalRecord_canonical {decision : TerminalDecision} (h : decision.Canonical)
    {recordedAt : Moment} (chronology : decision.validationCutoff ≤ recordedAt) :
    terminalRecord decision recordedAt = .ok ⟨decision, recordedAt, chronology⟩ := by
  have findings : decision.findings.mapM normalizeFinding = .ok decision.findings := by
    have all := mapM_ok_of_forall (g := id) h.findings
    rwa [List.map_id] at all
  have same : { decision with findings := decision.findings,
                              availableAuthority := decision.availableAuthority.mergeSort
                                authorityBefore } = decision := by
    rw [h.sorted]
  rw [terminalRecord, findings, ok_bind, dif_pos chronology, require_of h.visible, ok_bind]
  dsimp only
  rw [require_of (h.sorted.symm ▸ h.unique), ok_bind]
  simp only [same, h.kind, ok_bind]

theorem normalizeFinding_of (finding : ValidationFinding) :
    normalizeFinding (finding.dimension.val, finding.state.text, finding.reasonCode.val) =
      .ok (finding.dimension.val, finding.state.text, finding.reasonCode.val) := by
  rw [normalizeFinding, require_of ⟨strip_ne_nil, strip_ne_nil⟩, ok_bind,
    canonicalValidationState_text, ok_bind]

theorem requireKind_success {decision : TerminalDecision} (kind : decision.decisionKind = .success)
    (findings : decision.findings ≠ []) (reason : decision.refusalReasonCode = none)
    (executed : decision.executed.isSome) : requireKind decision = .ok () := by
  unfold requireKind
  rw [kind]
  dsimp only
  rw [require_of findings, ok_bind, require_of reason, ok_bind, require_of executed]

theorem requireKind_refusal {decision : TerminalDecision} (kind : decision.decisionKind = .refusal)
    (findings : decision.findings = [])
    (reason : ∃ reason ∈ decision.refusalReasonCode, Chars.strip reason.scalars ≠ [])
    (executed : decision.executed = none) : requireKind decision = .ok () := by
  unfold requireKind
  rw [kind]
  dsimp only
  rw [require_of findings, ok_bind, require_of reason, ok_bind, require_of executed]

theorem executionDecision_canonical (outcome : SemanticOutcome) (attestation : Attestation) :
    (executionDecision outcome attestation).Canonical := by
  refine ⟨?_, ?_, by simp [executionDecision], by simp [executionDecision], ?_⟩
  · intro finding member
    obtain ⟨source, -, rfl⟩ := List.mem_map.mp member
    exact normalizeFinding_of source
  · simp only [executionDecision, SemanticOutcome.semanticOutcomeId, Attestation.attestationId,
      List.forall_mem_cons]
    exact ⟨strip_ne_nil, identity_visible _ _, identity_visible _ _, nofun⟩
  · refine requireKind_success rfl ?_ rfl rfl
    simpa [executionDecision] using outcome.findings_ne

theorem refusalDecision_canonical (refused : Refusal) (attestation : Attestation)
    (allocation : ValidationEventAllocation) :
    (refusalDecision refused attestation allocation).Canonical := by
  refine ⟨nofun, ?_, refused.sorted, refused.unique, ?_⟩
  · simp only [refusalDecision, Refusal.refusalId, Attestation.attestationId,
      List.forall_mem_cons]
    exact ⟨strip_ne_nil, identity_visible _ _, identity_visible _ _, nofun⟩
  · exact requireKind_refusal rfl rfl ⟨_, rfl, strip_ne_nil⟩ rfl

theorem ValidatorResult.decision_canonical (allocation : ValidationEventAllocation)
    (result : ValidatorResult) : (result.decision allocation).Canonical := by
  cases result with
  | execution outcome attestation => exact executionDecision_canonical outcome attestation
  | refusal refused attestation => exact refusalDecision_canonical refused attestation allocation

theorem terminalFromRow_of (record : TerminalRecord) :
    terminalFromRow (.of record) = .ok record := by
  simp [terminalFromRow, TerminalRow.of, require]

/-- The row of an event. -/
def recordOf (terminal : TerminalTable) (event : String) : Option TerminalRow :=
  terminal.find? fun row => row.validationEventId = event

/-- The table has no record of an event, and none with the identity of a record of the
decision. -/
def TerminalTable.Free (terminal : TerminalTable) (decision : TerminalDecision) : Prop :=
  ∀ row ∈ terminal, row.validationEventId ≠ decision.validationEventId ∧
    ∀ record : TerminalRecord, record.decision = decision → row.recordId ≠ record.recordId

section

variable {tables : EventTables} {terminal : TerminalTable} {desired : TerminalDecision}
  {allocation : ValidationEventAllocation}

/-- The desired decision is about an allocation of the tables. -/
structure Allocated (tables : EventTables) (allocation : ValidationEventAllocation)
    (desired : TerminalDecision) : Prop where
  found : validationEvent tables desired.validationEventId = .ok (some allocation)
  cutoff : allocation.validationCutoff = desired.validationCutoff
  generation : allocation.revalidationGeneration = desired.revalidationGeneration
  predecessor : allocation.predecessorValidationEventId = desired.predecessorValidationEventId

theorem requireAllocation_ok {event : String} {cutoff : Moment} :
    requireAllocation tables event cutoff = .ok allocation ↔
      validationEvent tables event = .ok (some allocation) ∧
        allocation.validationCutoff = cutoff := by
  rw [requireAllocation, bind_ok]
  constructor
  · rintro ⟨canonical, found, ok⟩
    cases canonical with
    | none => cases ok
    | some other =>
        obtain ⟨same, done⟩ := require_bind_ok.mp ok
        cases done
        exact ⟨found, same⟩
  · rintro ⟨found, same⟩
    exact ⟨some allocation, found, require_bind_ok.mpr ⟨same, rfl⟩⟩

theorem appendOrJoin_appends (allocated : Allocated tables allocation desired)
    (canonical : desired.Canonical) (free : terminal.Free desired) {recordedAt : Moment}
    (chronology : desired.validationCutoff ≤ recordedAt) :
    appendOrJoin (some recordedAt) tables terminal desired =
      .ok (⟨desired, recordedAt, chronology⟩,
        terminal ++ [.of ⟨desired, recordedAt, chronology⟩]) := by
  have absent : (terminal.find? fun row =>
      row.validationEventId = desired.validationEventId) = none := by
    rw [List.find?_eq_none]
    intro row member
    simpa using (free row member).1
  have clear : terminal.all fun other =>
      other.validationEventId ≠ (TerminalRow.of ⟨desired, recordedAt, chronology⟩).validationEventId ∧
      other.recordId ≠ (TerminalRow.of ⟨desired, recordedAt, chronology⟩).recordId := by
    rw [List.all_eq_true]
    intro row member
    exact decide_eq_true ⟨(free row member).1, (free row member).2 _ rfl⟩
  rw [appendOrJoin.eq_def, requireAllocation_ok.mpr ⟨allocated.found, allocated.cutoff⟩, ok_bind,
    require_of allocated.generation, ok_bind, require_of allocated.predecessor, ok_bind, absent]
  dsimp only
  rw [terminalRecord_canonical canonical chronology, ok_bind, require_of clear, ok_bind]

theorem appendOrJoin_joins (allocated : Allocated tables allocation desired)
    {record : TerminalRecord} (found : recordOf terminal desired.validationEventId = some (.of record))
    (same : record.decision = desired) (now : ClockReading) :
    appendOrJoin now tables terminal desired = .ok (record, terminal) := by
  rw [recordOf] at found
  rw [appendOrJoin.eq_def, requireAllocation_ok.mpr ⟨allocated.found, allocated.cutoff⟩, ok_bind,
    require_of allocated.generation, ok_bind, require_of allocated.predecessor, ok_bind, found]
  dsimp only
  rw [terminalFromRow_of, ok_bind, require_of same, ok_bind]

/-- Where the event has a record, only its decision is joined. -/
theorem appendOrJoin_found {now : ClockReading} {record joined : TerminalRecord}
    {after : TerminalTable}
    (found : recordOf terminal desired.validationEventId = some (.of record))
    (ok : appendOrJoin now tables terminal desired = .ok (joined, after)) :
    record.decision = desired ∧ after = terminal := by
  rw [recordOf] at found
  rw [appendOrJoin.eq_def] at ok
  obtain ⟨_, -, ok⟩ := bind_ok.mp ok
  replace ok := (require_bind_ok.mp (require_bind_ok.mp ok).2).2
  rw [found] at ok
  dsimp only at ok
  rw [terminalFromRow_of, ok_bind] at ok
  obtain ⟨same, done⟩ := require_bind_ok.mp ok
  cases done
  exact ⟨same, rfl⟩

/-- The table afterwards is the same or has one row more, of an event without one. -/
theorem appendOrJoin_keeps {now : ClockReading} {joined : TerminalRecord} {after : TerminalTable}
    (ok : appendOrJoin now tables terminal desired = .ok (joined, after)) :
    after = terminal ∨ ∃ row, after = terminal ++ [row] ∧
      ∀ other ∈ terminal, other.validationEventId ≠ row.validationEventId := by
  rw [appendOrJoin.eq_def] at ok
  obtain ⟨_, -, ok⟩ := bind_ok.mp ok
  replace ok := (require_bind_ok.mp (require_bind_ok.mp ok).2).2
  cases search : terminal.find? fun row => row.validationEventId = desired.validationEventId with
  | some row =>
      rw [search] at ok
      obtain ⟨record, -, ok⟩ := bind_ok.mp ok
      obtain ⟨-, done⟩ := require_bind_ok.mp ok
      cases done
      exact Or.inl rfl
  | none =>
      rw [search] at ok
      cases now with
      | none => cases ok
      | some recordedAt =>
          obtain ⟨record, -, ok⟩ := bind_ok.mp ok
          obtain ⟨clear, done⟩ := require_bind_ok.mp ok
          cases done
          refine Or.inr ⟨_, rfl, fun other member => ?_⟩
          exact (of_decide_eq_true (List.all_eq_true.mp clear other member)).1

end

namespace ValidatorResult

/-- An attested result about an allocation of the tables. -/
def Sound (tables : EventTables) (result : ValidatorResult) : Prop :=
  result.Attested ∧ ∃ allocation : ValidationEventAllocation,
    validationEvent tables allocation.validationEventId = .ok (some allocation) ∧
      result.Concerns allocation

theorem Concerns.allocated {tables : EventTables} {allocation : ValidationEventAllocation}
    {result : ValidatorResult} (h : result.Concerns allocation)
    (found : validationEvent tables allocation.validationEventId = .ok (some allocation)) :
    Allocated tables allocation (result.decision allocation) where
  found := by rw [decision_event, h.event, found]
  cutoff := h.decision_cutoff.symm
  generation := h.decision_line.1.symm
  predecessor := h.decision_line.2.symm

end ValidatorResult

section

variable {now : ClockReading} {tables : EventTables} {terminal : TerminalTable}
  {result : ValidatorResult}

theorem persistResult_eq {allocation : ValidationEventAllocation} (attested : result.Attested)
    (found : validationEvent tables allocation.validationEventId = .ok (some allocation))
    (concerns : result.Concerns allocation) :
    persistResult now tables terminal result =
      appendOrJoin now tables terminal (result.decision allocation) := by
  cases result with
  | execution outcome attestation =>
      rw [persistResult, persistExecution, require_of attested.1, ok_bind, require_of attested.2,
        ok_bind]
      rfl
  | refusal refused attestation =>
      have own : requireAllocation tables refused.validationEventId.val refused.validationCutoff =
          .ok allocation := requireAllocation_ok.mpr ⟨by rw [concerns.1, found], concerns.2.symm⟩
      rw [persistResult, persistRefusal, require_of attested.1, ok_bind, require_of attested.2,
        ok_bind, own, ok_bind]
      rfl

/-- What is accepted is attested and about an allocation. -/
theorem persistResult_ok {done : TerminalRecord × TerminalTable}
    (ok : persistResult now tables terminal result = .ok done) :
    result.Attested ∧ ∃ allocation,
      validationEvent tables result.validationEventId = .ok (some allocation) ∧
        appendOrJoin now tables terminal (result.decision allocation) = .ok done := by
  cases result with
  | execution outcome attestation =>
      rw [persistResult, persistExecution] at ok
      obtain ⟨kind, ok⟩ := require_bind_ok.mp ok
      obtain ⟨bound, ok⟩ := require_bind_ok.mp ok
      have joined := ok
      rw [appendOrJoin.eq_def] at ok
      obtain ⟨allocation, required, -⟩ := bind_ok.mp ok
      exact ⟨⟨kind, bound⟩, allocation, (requireAllocation_ok.mp required).1, joined⟩
  | refusal refused attestation =>
      rw [persistResult, persistRefusal] at ok
      obtain ⟨kind, ok⟩ := require_bind_ok.mp ok
      obtain ⟨bound, ok⟩ := require_bind_ok.mp ok
      obtain ⟨allocation, required, joined⟩ := bind_ok.mp ok
      exact ⟨⟨kind, bound⟩, allocation, (requireAllocation_ok.mp required).1, joined⟩

theorem persistResult_keeps {record : TerminalRecord} {after : TerminalTable}
    (ok : persistResult now tables terminal result = .ok (record, after)) :
    after = terminal ∨ ∃ row, after = terminal ++ [row] ∧
      ∀ other ∈ terminal, other.validationEventId ≠ row.validationEventId := by
  obtain ⟨-, _, -, joined⟩ := persistResult_ok ok
  exact appendOrJoin_keeps joined

end

/-- The rows of an event. -/
def recordsOf (terminal : TerminalTable) (event : String) : List TerminalRow :=
  terminal.filter fun row => row.validationEventId = event

theorem recordOf_of_records {terminal : TerminalTable} {event : String} {row : TerminalRow}
    (only : recordsOf terminal event = [row]) : recordOf terminal event = some row := by
  rw [recordOf, ← List.head?_filter]
  rw [recordsOf] at only
  rw [only]
  rfl

theorem recordsOf_append {terminal : TerminalTable} {event : String} {row : TerminalRow}
    (absent : ∀ other ∈ terminal, other.validationEventId ≠ event)
    (own : row.validationEventId = event) : recordsOf (terminal ++ [row]) event = [row] := by
  have before : terminal.filter (fun row => row.validationEventId = event) = [] := by
    refine List.filter_eq_nil_iff.mpr fun other member => ?_
    simpa using absent other member
  rw [recordsOf, List.filter_append, before, List.nil_append, List.filter_singleton, own]
  simp

/-- An event with a row keeps that row alone. -/
theorem recordsOf_keeps {terminal after : TerminalTable} {event : String} {row : TerminalRow}
    (only : recordsOf terminal event = [row])
    (keeps : after = terminal ∨ ∃ new, after = terminal ++ [new] ∧
      ∀ other ∈ terminal, other.validationEventId ≠ new.validationEventId) :
    recordsOf after event = [row] := by
  rcases keeps with rfl | ⟨new, rfl, fresh⟩
  · exact only
  · have inside : row ∈ recordsOf terminal event := by
      rw [only]
      exact List.mem_singleton_self row
    obtain ⟨member, own⟩ := List.mem_filter.mp inside
    have other : new.validationEventId ≠ event := by
      intro same
      exact fresh row member ((of_decide_eq_true own).trans same.symm)
    rw [recordsOf] at only ⊢
    rw [List.filter_append, only, List.filter_cons_of_neg (by simpa using other), List.filter_nil,
      List.append_nil]

/-- One validator with the tables it shares, and the table of terminal records. -/
structure Service where
  validator : ValidatorState
  terminal : TerminalTable

namespace Service

/-- The tables of the events. -/
def tables (service : Service) : EventTables := service.validator.tables

end Service

/-- A call with what its clock, its upstream and its worker give. -/
inductive ServiceCall where
  | event (call : EventCall)
  | authorize (upstream : Upstream) (allocation : ValidationEventAllocation)
      (asserted : Option AuthorityCoordinates)
  | execute (upstream : Upstream) (verdict : String → Verdict) (worker : Option WorkerReply)
      (authorization : Authorization)
  | persist (now : ClockReading) (result : ValidatorResult)

def ServiceCall.after (service : Service) : ServiceCall → Service
  | .event call => { service with
      validator := { service.validator with tables := call.after service.validator.tables } }
  | .authorize upstream allocation asserted => { service with
      validator := committed service.validator
        (authorizeEvent upstream service.validator allocation asserted) }
  | .execute upstream verdict worker authorization => { service with
      validator := committed service.validator
        (Hunter.ResponseValidator.execute upstream verdict worker service.validator authorization) }
  | .persist now result => { service with
      terminal := committed service.terminal
        (persistResult now service.tables service.terminal result) }

def ServiceCalls (service : Service) (call : ServiceCall) (after : Service) : Prop :=
  after = call.after service

/-- Stored once wherever no record of the event stands yet: the result is accepted at
every clock reading from the cutoff on, and ever after a repetition returns the record,
the record stays the only one of its event, and any other result for it is refused. -/
def Persistable (service : Service) (result : ValidatorResult) : Prop :=
  ∃ allocation : ValidationEventAllocation,
    result.validationEventId = allocation.validationEventId ∧
    ∀ calls final, Run ServiceCalls service calls final →
      ∀ (terminal : TerminalTable) (recordedAt : Moment), terminal.Free (result.decision allocation) →
        allocation.validationCutoff ≤ recordedAt →
        ∃ record : TerminalRecord,
          persistResult (some recordedAt) final.tables terminal result =
            .ok (record, terminal ++ [.of record]) ∧
          ∀ later last, Run ServiceCalls ⟨final.validator, terminal ++ [.of record]⟩ later last →
            recordsOf last.terminal result.validationEventId = [.of record] ∧
            (∀ now, persistResult now last.tables last.terminal result =
              .ok (record, last.terminal)) ∧
            ∀ other : ValidatorResult, other ≠ result →
              other.validationEventId = result.validationEventId →
              ∀ now, ∃ exn, persistResult now last.tables last.terminal other = .error exn

section

variable {allocations : List ValidationEventAllocation} {tables : EventTables}

theorem validationEvent_congr {other : EventTables} (same : tables.allocations = other.allocations)
    (event : String) : validationEvent tables event = validationEvent other event := by
  rw [validationEvent, validationEvent, same]

theorem Kept.validationEvent (kept : Kept allocations tables) {a : ValidationEventAllocation}
    (member : a ∈ allocations) :
    Hunter.ResponseValidator.validationEvent tables a.validationEventId = .ok (some a) := by
  have found : tables.allocations.find? (fun row =>
      row.validationEventId = a.validationEventId) = some (.of a) := by
    rw [kept.rows]
    refine find_row member (decide_eq_true rfl) fun b inside accepted => ?_
    exact List.inj_on_of_nodup_map kept.chains.distinct inside member (of_decide_eq_true accepted)
  rw [Hunter.ResponseValidator.validationEvent, found]
  dsimp only
  rw [allocationFromRow_of]
  rfl

theorem Kept.of_validationEvent (kept : Kept allocations tables) {a : ValidationEventAllocation}
    {event : String}
    (found : Hunter.ResponseValidator.validationEvent tables event = .ok (some a)) :
    a ∈ allocations := by
  rw [Hunter.ResponseValidator.validationEvent] at found
  cases search : tables.allocations.find? (fun row => row.validationEventId = event) with
  | none =>
      rw [search] at found
      cases found
  | some row =>
      rw [search] at found
      have listed := List.mem_of_find?_eq_some search
      rw [kept.rows] at listed
      obtain ⟨b, inside, rfl⟩ := List.mem_map.mp listed
      dsimp only at found
      rw [allocationFromRow_of] at found
      cases found
      exact inside

theorem ValidatorResult.Sound.continues {result : ValidatorResult} (sound : result.Sound tables)
    (kept : Kept allocations tables) {allocations' : List ValidationEventAllocation}
    {after : EventTables} (later : Continues allocations tables allocations' after) :
    result.Sound after := by
  obtain ⟨attested, allocation, found, concerns⟩ := sound
  refine ⟨attested, allocation, later.kept.validationEvent ?_, concerns⟩
  exact later.front.subset (kept.of_validationEvent found)

end

theorem refusalResult_ok {allocation : ValidationEventAllocation} {state : ValidationState}
    {reasonCode : String} {authority : List (String × String)} {result : ValidatorResult}
    (ok : refusalResult allocation state reasonCode authority = .ok result) :
    result.Attested ∧ result.Concerns allocation := by
  rw [refusalResult] at ok
  obtain ⟨event, read, ok⟩ := bind_ok.mp ok
  obtain ⟨reason, -, ok⟩ := bind_ok.mp ok
  obtain ⟨normalized, -, ok⟩ := bind_ok.mp ok
  have own := requiredText_ok.mp read
  dsimp only at ok
  split at ok
  · split at ok
    · cases ok
      exact ⟨⟨rfl, rfl, own.symm, rfl, rfl⟩, own, rfl⟩
    · cases ok
  · cases ok

theorem canonicalAuthorizationInputs_ok {tables : EventTables} {upstream : Upstream}
    {allocation : ValidationEventAllocation} {found : Except Interruption (CanonicalInputs allocation)}
    (ok : canonicalAuthorizationInputs tables upstream allocation = .ok found) :
    validationEvent tables allocation.validationEventId = .ok (some allocation) ∧
      upstream allocation = found := by
  rw [canonicalAuthorizationInputs] at ok
  obtain ⟨canonical, read, ok⟩ := bind_ok.mp ok
  obtain ⟨same, done⟩ := require_bind_ok.mp ok
  cases done
  exact ⟨same ▸ read, rfl⟩

theorem semanticOutcome_ok {authorizationId : String} {coordinates : AuthorityCoordinates}
    {state : ValidationState} {findings : List ValidationFinding} {executed : Bool}
    {outcome : SemanticOutcome}
    (ok : semanticOutcome authorizationId coordinates state findings executed = .ok outcome) :
    outcome.authorizationId = authorizationId ∧ outcome.coordinates = coordinates ∧
      outcome.state = state := by
  rw [semanticOutcome] at ok
  split at ok
  · obtain ⟨highest, -, ok⟩ := bind_ok.mp ok
    obtain ⟨-, done⟩ := require_bind_ok.mp ok
    cases done
    exact ⟨rfl, rfl, rfl⟩
  · cases ok

theorem executionResult_ok {authorization : Authorization} {allocation : ValidationEventAllocation}
    {inputs : CanonicalInputs allocation} {findings : List ValidationFinding}
    {result : ValidatorResult} (same : inputs.coordinates = authorization.coordinates)
    (ok : executionResult authorization findings = .ok result) :
    result.Attested ∧ result.Concerns allocation := by
  rw [executionResult] at ok
  obtain ⟨state, -, ok⟩ := bind_ok.mp ok
  obtain ⟨outcome, made, ok⟩ := bind_ok.mp ok
  obtain ⟨own, coordinates, states⟩ := semanticOutcome_ok made
  cases ok
  refine ⟨⟨rfl, rfl, ?_, states.symm, ?_⟩, ?_⟩
  · rw [coordinates]
  · rw [own]
  · rw [ValidatorResult.Concerns, coordinates, ← same]
    exact ⟨inputs.event_eq, inputs.cutoff_eq, inputs.generation_eq, inputs.predecessor_eq⟩

theorem transientFindings_refusal {allocation : ValidationEventAllocation} {authorizationId : String}
    {worker : Option WorkerReply} {result : ValidatorResult}
    (ok : transientFindings allocation authorizationId worker = .ok (.inl result)) :
    result.Attested ∧ result.Concerns allocation := by
  have refused : ∀ {reasonCode : String}, (Sum.inl <$> refusalResult allocation .inputUnavailable
      reasonCode [("validation_event_id", allocation.validationEventId)] :
        Py (ValidatorResult ⊕ List ValidationFinding)) = .ok (.inl result) →
      result.Attested ∧ result.Concerns allocation := by
    intro reasonCode mapped
    cases made : refusalResult allocation .inputUnavailable reasonCode
        [("validation_event_id", allocation.validationEventId)] with
    | error exn =>
        rw [made] at mapped
        cases mapped
    | ok other =>
        rw [made] at mapped
        cases mapped
        exact refusalResult_ok made
  cases worker with
  | none => exact refused ok
  | some reply =>
      cases reply with
      | accessError => exact refused ok
      | refusal state reasonCode =>
          obtain ⟨known, -, ok⟩ := bind_ok.mp ok
          exact refused (require_bind_ok.mp ok).2
      | findings replied items state =>
          replace ok := (require_bind_ok.mp (require_bind_ok.mp ok).2).2
          obtain ⟨findings, -, ok⟩ := bind_ok.mp ok
          obtain ⟨highest, -, ok⟩ := bind_ok.mp ok
          cases (require_bind_ok.mp ok).2

theorem executeInputs_ok {authorization : Authorization} {allocation : ValidationEventAllocation}
    {inputs : CanonicalInputs allocation} {verdict : String → Verdict} {worker : Option WorkerReply}
    {result : ValidatorResult}
    (ok : executeInputs authorization allocation inputs verdict worker = .ok result) :
    result.Attested ∧ result.Concerns allocation := by
  rw [executeInputs.eq_def] at ok
  obtain ⟨same, ok⟩ := require_bind_ok.mp ok
  cases mode : authorization.coordinates.inputMode with
  | durable =>
      rw [mode] at ok
      cases content : inputs.content with
      | none =>
          rw [content] at ok
          cases ok
      | some text =>
          rw [content] at ok
          exact executionResult_ok same ok
  | transientNotRetained =>
      rw [mode] at ok
      obtain ⟨told, found, ok⟩ := bind_ok.mp ok
      cases told with
      | inl refusal =>
          cases ok
          exact transientFindings_refusal found
      | inr findings => exact executionResult_ok same ok

theorem presemanticExecutionRefusal_unattested {authorization : Authorization} {reasonCode : String}
    {result : ValidatorResult} (ok : presemanticExecutionRefusal authorization reasonCode = .ok result) :
    ¬ result.Attested := by
  rw [presemanticExecutionRefusal] at ok
  obtain ⟨reason, -, ok⟩ := bind_ok.mp ok
  obtain ⟨outcome, -, ok⟩ := bind_ok.mp ok
  cases ok
  exact fun attested => nomatch attested.1

/-- The authority of an authorization without a kept result does not become unavailable
input when it is derived again. -/
def Rederives (upstream : Upstream) (state : ValidatorState) (authorization : Authorization) : Prop :=
  state.memory.executionResults authorization.authorizationId = none →
  ∀ issued allocation inputs,
    state.memory.issued authorization.authorizationId = some (issued, ⟨allocation, inputs⟩) →
    ∀ reasonCode authority,
      upstream allocation ≠ .error (.signal .inputUnavailable reasonCode authority)

/-- What an execution returns is what is kept, or it is new and kept from then on. -/
theorem execute_ok {upstream : Upstream} {verdict : String → Verdict} {worker : Option WorkerReply}
    {state after : ValidatorState} {authorization : Authorization} {result : ValidatorResult}
    (ok : execute upstream verdict worker state authorization = .ok (result, after)) :
    (state.memory.executionResults authorization.authorizationId = some result ∧ after = state) ∨
    (state.memory.executionResults authorization.authorizationId = none ∧
      after = { state with memory := state.memory.record authorization.authorizationId result } ∧
      ((result.Sound state.tables ∧ Rederives upstream state authorization) ∨
        (¬ result.Attested ∧ ¬ Rederives upstream state authorization))) := by
  rw [execute.eq_def] at ok
  cases known : state.memory.issued authorization.authorizationId with
  | none =>
      rw [known] at ok
      cases ok
  | some entry =>
      obtain ⟨issued, allocation, inputs⟩ := entry
      rw [known] at ok
      obtain ⟨-, ok⟩ := require_bind_ok.mp ok
      cases cached : state.memory.executionResults authorization.authorizationId with
      | some kept =>
          rw [cached] at ok
          cases ok
          exact Or.inl ⟨rfl, rfl⟩
      | none =>
          rw [cached] at ok
          obtain ⟨found, read, ok⟩ := bind_ok.mp ok
          obtain ⟨made, derived, done⟩ := bind_ok.mp ok
          cases done
          refine Or.inr ⟨rfl, rfl, ?_⟩
          obtain ⟨canonical, own⟩ := canonicalAuthorizationInputs_ok read
          have rederives : (∀ reasonCode authority,
              found ≠ .error (.signal .inputUnavailable reasonCode authority)) →
              Rederives upstream state authorization := by
            intro other _ issued' allocation' inputs' same
            rw [known] at same
            cases same
            rw [own]
            exact other
          cases found with
          | ok rederived =>
              refine Or.inl ⟨?_, rederives nofun⟩
              obtain ⟨attested, concerns⟩ := executeInputs_ok derived
              exact ⟨attested, allocation, canonical, concerns⟩
          | error interruption =>
              cases interruption with
              | raised exn => cases derived
              | signal refused reasonCode authority =>
                  rw [executeDerived] at derived
                  split at derived
                  · rename_i unavailable
                    subst unavailable
                    refine Or.inr ⟨presemanticExecutionRefusal_unattested derived, fun rederives => ?_⟩
                    exact rederives cached _ _ _ known _ _ own
                  · cases derived

theorem authorized_ne_refused {authorization : Authorization} {result : ValidatorResult} :
    AuthorizationResult.authorized authorization ≠ .refused result := nofun

theorem authorizeInputs_ok {allocations : List ValidationEventAllocation}
    {state after : ValidatorState} (kept : Kept allocations state.tables)
    {allocation : ValidationEventAllocation} {inputs : CanonicalInputs allocation}
    {answer : AuthorizationResult}
    (ok : authorizeInputs state allocation inputs = .ok (answer, after)) :
    Continues allocations state.tables allocations after.tables ∧
      after.memory.executionResults = state.memory.executionResults ∧
      ∀ result, answer = .refused result → result.Attested ∧ result.Concerns allocation := by
  rw [authorizeInputs.eq_def] at ok
  obtain ⟨⟨reserved, tables⟩, reservation, ok⟩ := bind_ok.mp ok
  have continues : Continues allocations state.tables allocations tables := by
    split at reservation
    · cases reservation
      exact .refl kept
    · exact (reserve_ok kept reservation).1
  dsimp only at ok
  split at ok
  · split at ok
    · cases ok
      exact ⟨continues, rfl, fun _ same => absurd same authorized_ne_refused⟩
    · cases ok
      exact ⟨continues, rfl, fun _ same => absurd same authorized_ne_refused⟩
  · obtain ⟨refused, made, done⟩ := bind_ok.mp ok
    cases done
    refine ⟨continues, rfl, fun result same => ?_⟩
    cases same
    exact refusalResult_ok made

theorem authorizeEvent_ok {allocations : List ValidationEventAllocation} {upstream : Upstream}
    {state after : ValidatorState} (kept : Kept allocations state.tables)
    {allocation : ValidationEventAllocation} {asserted : Option AuthorityCoordinates}
    {answer : AuthorizationResult}
    (ok : authorizeEvent upstream state allocation asserted = .ok (answer, after)) :
    Continues allocations state.tables allocations after.tables ∧
      after.memory.executionResults = state.memory.executionResults ∧
      ∀ result, answer = .refused result → result.Sound after.tables := by
  rw [authorizeEvent.eq_def] at ok
  dsimp only at ok
  split at ok
  · replace ok := (check_ok.mp (require_bind_ok.mp ok).2).2
    cases ok
    exact ⟨.refl kept, rfl, fun _ same => absurd same authorized_ne_refused⟩
  · obtain ⟨found, read, ok⟩ := bind_ok.mp ok
    obtain ⟨canonical, -⟩ := canonicalAuthorizationInputs_ok read
    cases found with
    | error interruption =>
        cases interruption with
        | raised exn => cases ok
        | signal refused reasonCode authority =>
            obtain ⟨refusal, made, done⟩ := bind_ok.mp ok
            cases done
            refine ⟨.refl kept, rfl, fun result same => ?_⟩
            cases same
            obtain ⟨attested, concerns⟩ := refusalResult_ok made
            exact ⟨attested, allocation, canonical, concerns⟩
    | ok inputs =>
        obtain ⟨-, ok⟩ := check_ok.mp ok
        obtain ⟨continues, results, refused⟩ := authorizeInputs_ok kept ok
        refine ⟨continues, results, fun result same => ?_⟩
        obtain ⟨attested, concerns⟩ := refused result same
        refine ⟨attested, allocation, continues.kept.validationEvent ?_, concerns⟩
        exact continues.front.subset (kept.of_validationEvent canonical)

/-- An event without an authorization is authorized by what its authority resolves to. -/
theorem authorizeEvent_new {upstream : Upstream} {state : ValidatorState}
    {allocation : ValidationEventAllocation} {inputs : CanonicalInputs allocation}
    (fresh : state.memory.eventAuthorizationIds allocation.validationEventId = none)
    (canonical : validationEvent state.tables allocation.validationEventId = .ok (some allocation))
    (resolved : upstream allocation = .ok inputs) :
    authorizeEvent upstream state allocation none = authorizeInputs state allocation inputs := by
  rw [authorizeEvent.eq_def, fresh]
  simp only [Option.bind_none]
  rw [canonicalAuthorizationInputs, canonical, ok_bind, require_of rfl, ok_bind, resolved, ok_bind]
  dsimp only
  rw [requireAsserted, require_of (fun _ none_asserted => by cases none_asserted), ok_bind]

/-- An authorization is executed by what its authority resolves to again. -/
theorem execute_new {upstream : Upstream} {verdict : String → Verdict} {worker : Option WorkerReply}
    {state : ValidatorState} {authorization : Authorization}
    {allocation : ValidationEventAllocation} {inputs : CanonicalInputs allocation}
    {result : ValidatorResult}
    (issued : state.memory.issued authorization.authorizationId =
      some (authorization, ⟨allocation, inputs⟩))
    (fresh : state.memory.executionResults authorization.authorizationId = none)
    (canonical : validationEvent state.tables allocation.validationEventId = .ok (some allocation))
    (derived : executeDerived authorization allocation (upstream allocation) verdict worker =
      .ok result) :
    execute upstream verdict worker state authorization =
      .ok (result, { state with
        memory := state.memory.record authorization.authorizationId result }) := by
  rw [execute.eq_def, issued]
  dsimp only
  rw [require_of rfl, ok_bind, fresh]
  dsimp only
  rw [canonicalAuthorizationInputs, canonical, ok_bind, require_of rfl, ok_bind, ok_bind, derived,
    ok_bind]

/-- What a call does to the tables of the events. -/
theorem ServiceCalls.continues {allocations : List ValidationEventAllocation}
    {service after : Service} {call : ServiceCall} (kept : Kept allocations service.tables)
    (step : ServiceCalls service call after) :
    ∃ allocations', Continues allocations service.tables allocations' after.tables := by
  rw [ServiceCalls] at step
  subst step
  have same : Continues allocations service.tables allocations service.tables := .refl kept
  cases call with
  | event call => exact kept.call rfl
  | authorize upstream allocation asserted =>
      refine committed_cases (P := fun validator : ValidatorState =>
        ∃ new, Continues allocations service.tables new validator.tables) ⟨_, same⟩ ?_
      intro answer after ok
      exact ⟨allocations, (authorizeEvent_ok kept ok).1⟩
  | execute upstream verdict worker authorization =>
      refine committed_cases (P := fun validator : ValidatorState =>
        ∃ new, Continues allocations service.tables new validator.tables) ⟨_, same⟩ ?_
      intro answer after ok
      rcases execute_ok ok with ⟨-, rfl⟩ | ⟨-, rfl, -⟩
      · exact ⟨_, same⟩
      · exact ⟨_, same⟩
  | persist now result => exact ⟨_, same⟩

theorem Kept.serviceRun {allocations : List ValidationEventAllocation} {service final : Service}
    {calls : List ServiceCall} (kept : Kept allocations service.tables)
    (run : Run ServiceCalls service calls final) :
    ∃ allocations', Continues allocations service.tables allocations' final.tables := by
  induction run with
  | nil => exact ⟨allocations, .refl kept⟩
  | snoc _ step ih =>
      obtain ⟨middle, before⟩ := ih
      obtain ⟨last, next⟩ := step.continues before.kept
      exact ⟨last, next.kept, before.front.trans next.front, before.owned.trans next.owned⟩

/-- The only record of an event stays the only one. -/
theorem recordsOf_run {service final : Service} {calls : List ServiceCall} {event : String}
    {row : TerminalRow} (run : Run ServiceCalls service calls final)
    (only : recordsOf service.terminal event = [row]) : recordsOf final.terminal event = [row] := by
  refine run.preserves (fun service => recordsOf service.terminal event = [row]) ?_ only
  intro before call after only step
  rw [ServiceCalls] at step
  subst step
  cases call with
  | event _ => exact only
  | authorize _ _ _ => exact only
  | execute _ _ _ _ => exact only
  | persist now result =>
      refine committed_cases (P := fun terminal : TerminalTable => recordsOf terminal event = [row])
        only ?_
      intro record after ok
      exact recordsOf_keeps only (persistResult_keeps ok)

theorem ValidatorResult.Sound.persistable {allocations : List ValidationEventAllocation}
    {service : Service} {result : ValidatorResult} (kept : Kept allocations service.tables)
    (sound : result.Sound service.tables) : Persistable service result := by
  obtain ⟨attested, allocation, found, concerns⟩ := sound
  have known : ∀ {calls final}, Run ServiceCalls service calls final →
      ∃ new, Kept new final.tables ∧
        validationEvent final.tables allocation.validationEventId = .ok (some allocation) := by
    intro calls final run
    obtain ⟨new, onward⟩ := kept.serviceRun run
    refine ⟨new, onward.kept, onward.kept.validationEvent ?_⟩
    exact onward.front.subset (kept.of_validationEvent found)
  refine ⟨allocation, concerns.event, fun calls final run terminal recordedAt free late => ?_⟩
  obtain ⟨middle, kept', found'⟩ := known run
  have chronology : (result.decision allocation).validationCutoff ≤ recordedAt := by
    rw [concerns.decision_cutoff]
    exact late
  refine ⟨⟨result.decision allocation, recordedAt, chronology⟩, ?_, fun later last rest => ?_⟩
  · rw [persistResult_eq attested found' concerns]
    exact appendOrJoin_appends (concerns.allocated found') (result.decision_canonical allocation)
      free chronology
  have start : recordsOf (terminal ++ [.of ⟨result.decision allocation, recordedAt, chronology⟩])
      result.validationEventId = [.of ⟨result.decision allocation, recordedAt, chronology⟩] := by
    refine recordsOf_append (fun row member => ?_) (ValidatorResult.decision_event allocation result)
    rw [← ValidatorResult.decision_event allocation result]
    exact (free row member).1
  have stored := recordsOf_run rest start
  have stored_kept : Kept middle (Service.mk final.validator
      (terminal ++ [.of ⟨result.decision allocation, recordedAt, chronology⟩])).tables := kept'
  obtain ⟨_, onward⟩ := stored_kept.serviceRun rest
  have found'' : validationEvent last.tables allocation.validationEventId =
      .ok (some allocation) :=
    onward.kept.validationEvent (onward.front.subset (kept'.of_validationEvent found'))
  have record : recordOf last.terminal result.validationEventId =
      some (.of ⟨result.decision allocation, recordedAt, chronology⟩) := recordOf_of_records stored
  refine ⟨stored, fun now => ?_, fun other different same now => ?_⟩
  · rw [persistResult_eq attested found'' concerns]
    refine appendOrJoin_joins (concerns.allocated found'') ?_ rfl now
    rwa [ValidatorResult.decision_event]
  · cases persisted : persistResult now last.tables last.terminal other with
    | error exn => exact ⟨exn, rfl⟩
    | ok done =>
        -- what is accepted for the event has the stored decision
        obtain ⟨attested', allocation', found''', joined⟩ := persistResult_ok persisted
        rw [same, concerns.event, found''] at found'''
        cases found'''
        have decisions := (appendOrJoin_found (by rwa [ValidatorResult.decision_event, same])
          joined).1
        exact absurd (ValidatorResult.decision_inj attested attested' decisions).symm different

/-- Only attested results are ever accepted. -/
theorem Persistable.attested {service : Service} {result : ValidatorResult}
    (h : Persistable service result) : result.Attested := by
  obtain ⟨allocation, -, stored⟩ := h
  obtain ⟨record, accepted, -⟩ := stored [] service .nil [] allocation.validationCutoff
    (fun _ member => absurd member List.not_mem_nil) le_rfl
  exact (persistResult_ok accepted).1

/-- What the call says of the authorization it executes. -/
def ServiceCall.Rederives (service : Service) : ServiceCall → Prop
  | .execute upstream _ _ authorization =>
      Hunter.ResponseValidator.Rederives upstream service.validator authorization
  | _ => True

/-- Calls whose executions derive their authority again. -/
def RederivingCalls (service : Service) (call : ServiceCall) (after : Service) : Prop :=
  ServiceCalls service call after ∧ call.Rederives service

/-- The tables hold chains of events, and every kept result is sound. -/
structure Steady (allocations : List ValidationEventAllocation) (service : Service) : Prop where
  kept : Kept allocations service.tables
  results : ∀ id result, service.validator.memory.executionResults id = some result →
    result.Sound service.tables

/-- What a sound execution returns. -/
theorem Steady.execute {allocations : List ValidationEventAllocation} {service : Service}
    (steady : Steady allocations service) {upstream : Upstream} {verdict : String → Verdict}
    {worker : Option WorkerReply} {after : ValidatorState} {authorization : Authorization}
    {result : ValidatorResult}
    (ok : execute upstream verdict worker service.validator authorization = .ok (result, after)) :
    after.tables = service.tables ∧
      ((result.Sound service.tables ∧ Rederives upstream service.validator authorization) ∨
        (¬ result.Attested ∧ ¬ Rederives upstream service.validator authorization)) := by
  rcases execute_ok ok with ⟨cached, rfl⟩ | ⟨-, rfl, new⟩
  · refine ⟨rfl, Or.inl ⟨steady.results _ _ cached, fun missing => ?_⟩⟩
    rw [missing] at cached
    cases cached
  · exact ⟨rfl, new⟩

theorem Steady.call {allocations : List ValidationEventAllocation} {service after : Service}
    {call : ServiceCall} (steady : Steady allocations service)
    (step : RederivingCalls service call after) :
    ∃ allocations', Steady allocations' after := by
  obtain ⟨called, rederives⟩ := step
  obtain ⟨new, continues⟩ := called.continues steady.kept
  have old : ∀ id result, service.validator.memory.executionResults id = some result →
      result.Sound after.tables := fun id result known =>
    (steady.results id result known).continues steady.kept continues
  refine ⟨new, continues.kept, ?_⟩
  rw [ServiceCalls] at called
  subst called
  cases call with
  | event call => exact old
  | authorize upstream allocation asserted =>
      intro id result known
      refine old id result ?_
      cases authorized : authorizeEvent upstream service.validator allocation asserted with
      | error exn =>
          simp only [ServiceCall.after, authorized, committed] at known
          exact known
      | ok done =>
          obtain ⟨answer, after⟩ := done
          simp only [ServiceCall.after, authorized, committed] at known
          rwa [(authorizeEvent_ok steady.kept authorized).2.1] at known
  | execute upstream verdict worker authorization =>
      intro id result known
      cases executed : Hunter.ResponseValidator.execute upstream verdict worker service.validator
          authorization with
      | error exn =>
          simp only [ServiceCall.after, executed, committed] at known
          exact old id result known
      | ok done =>
          obtain ⟨returned, after⟩ := done
          simp only [ServiceCall.after, executed, committed] at known
          have sound : returned.Sound service.tables := by
            rcases (steady.execute executed).2 with ⟨sound, -⟩ | ⟨-, fails⟩
            · exact sound
            · exact absurd rederives fails
          rcases execute_ok executed with ⟨-, rfl⟩ | ⟨-, rfl, -⟩
          · exact old id result known
          · by_cases own : id = authorization.authorizationId
            · simp only [ValidatorMemory.record, if_pos own, Option.some.injEq] at known
              subst known
              exact sound.continues steady.kept continues
            · simp only [ValidatorMemory.record, if_neg own] at known
              exact old id result known
  | persist now result => exact old

theorem Steady.run {allocations : List ValidationEventAllocation} {service final : Service}
    {calls : List ServiceCall} (steady : Steady allocations service)
    (run : Run RederivingCalls service calls final) : ∃ allocations', Steady allocations' final := by
  refine run.preserves (fun service => ∃ allocations, Steady allocations service) ?_
    ⟨allocations, steady⟩
  rintro before call after ⟨middle, steady⟩ step
  exact steady.call step

def newValidator : ValidatorMemory := ⟨fun _ => none, fun _ => none, fun _ => none⟩

def newService : Service := ⟨⟨⟨[], []⟩, newValidator⟩, []⟩

theorem steady_new : Steady [] newService := 
  ⟨kept_empty, fun _ _ known => absurd known.symm (Option.some_ne_none _)⟩

/-- After any calls whose executions derived their authority again: every refusal of an
event is stored exactly once, and the result of an execution is if and only if its
authority is derived again too. -/
theorem validatorResult_persistable {calls : List ServiceCall} {service : Service}
    (run : Run RederivingCalls newService calls service) :
    (∀ upstream allocation asserted result after,
      authorizeEvent upstream service.validator allocation asserted =
        .ok (.refused result, after) →
      Persistable ⟨after, service.terminal⟩ result) ∧
    ∀ upstream verdict worker authorization result after,
      execute upstream verdict worker service.validator authorization = .ok (result, after) →
      (Persistable ⟨after, service.terminal⟩ result ↔
        Rederives upstream service.validator authorization) := by
  obtain ⟨allocations, steady⟩ := steady_new.run run
  constructor
  · intro upstream allocation asserted result after ok
    obtain ⟨continues, -, sound⟩ := authorizeEvent_ok steady.kept ok
    have kept : Kept allocations (Service.mk after service.terminal).tables := continues.kept
    exact ValidatorResult.Sound.persistable kept (sound result rfl)
  · intro upstream verdict worker authorization result after ok
    obtain ⟨same, outcome⟩ := steady.execute ok
    have kept : Kept allocations (Service.mk after service.terminal).tables := by
      rw [Service.tables, same]
      exact steady.kept
    rcases outcome with ⟨sound, rederives⟩ | ⟨unattested, fails⟩
    · refine iff_of_true (ValidatorResult.Sound.persistable kept ?_) rederives
      rw [Service.tables, same]
      exact sound
    · exact iff_of_false (fun persistable => unattested persistable.attested) fails

def sampleWord : CanonicalText := constantText "word" (by decide)

def sampleCoordinates (inputMode : ValidationInputMode) (allocation : ValidationEventAllocation) :
    AuthorityCoordinates where
  validationEventId := ⟨allocation.validationEventId, validationEventId_canonical allocation⟩
  validationCutoff := allocation.validationCutoff
  profileResolutionId := sampleWord
  profilePublicationId := sampleWord
  profileVersion := 1
  validatorContractIdentity := sampleWord
  validatorContractVersion := sampleWord
  requestedOutputContractIdentity := sampleWord
  requestedOutputContractVersion := sampleWord
  outputContractHash := sampleWord
  sourceHandlingResolutionId := sampleWord
  sourceHandlingFactRecordId := sampleWord
  sourceHandlingPolicyRecordId := sampleWord
  sourceHandlingRegistryId := sampleWord
  sourceHandlingAuthorizationRuleId := sampleWord
  responseCaptureIdentity := allocation.baseValidationKey.responseCaptureIdentity
  responseEvidenceState := sampleWord
  attemptId := sampleWord
  handoffId := sampleWord
  outcomeId := sampleWord
  executionProfileIdentity := sampleWord
  requestEvidenceIdentity := sampleWord
  buildRecordId := sampleWord
  promptArtifactId := sampleWord
  intentId := sampleWord
  ledgerId := sampleWord
  allocationId := sampleWord
  packageId := sampleWord
  evidenceInputIdentity := sampleWord
  inputMode
  revalidationGeneration := allocation.revalidationGeneration
  predecessorValidationEventId := allocation.predecessorValidationEventId
  version_pos := Nat.zero_lt_one

def sampleInputs (inputMode : ValidationInputMode) (allocation : ValidationEventAllocation) :
    CanonicalInputs allocation where
  coordinates := sampleCoordinates inputMode allocation
  content := some "response"
  event_eq := rfl
  cutoff_eq := rfl
  generation_eq := rfl
  predecessor_eq := rfl

/-- Upstream at the authorization, and where the response has gone since. -/
def sampleUpstream (inputMode : ValidationInputMode) : Upstream :=
  fun allocation => .ok (sampleInputs inputMode allocation)

def goneUpstream : Upstream :=
  fun _ => .error (.signal .inputUnavailable "TRANSIENT_RESPONSE_ACCESS_UNAVAILABLE" [])

def sampleEvent : ValidationEventAllocation := baseAllocation sampleKey ⟨5, five_lt_end⟩

def sampleAuthorization (inputMode : ValidationInputMode) : Authorization :=
  ⟨sampleCoordinates inputMode sampleEvent⟩

def allocatedService : Service := ⟨⟨sampleTables, newValidator⟩, []⟩

def authorizedState (inputMode : ValidationInputMode) (reservations : List (String × String)) :
    ValidatorState :=
  ⟨⟨sampleTables.allocations, reservations⟩,
    newValidator.issue sampleEvent (sampleInputs inputMode sampleEvent)⟩

theorem newService_event {call : EventCall} {tables : EventTables}
    (step : Calls ⟨[], []⟩ call tables) :
    RederivingCalls newService (.event call) ⟨⟨tables, newValidator⟩, []⟩ := by
  rw [Calls] at step
  subst step
  exact ⟨rfl, trivial⟩

theorem sample_allocated : Run RederivingCalls newService
    ([] ++ [.event (.allocateBase (some ⟨5, by decide⟩) sampleKey)]) allocatedService := by
  refine Run.nil.snoc (newService_event ?_)
  rw [Calls, EventCall.after, allocateBaseValidation_sample]
  rfl

theorem sample_known :
    validationEvent sampleTables sampleEvent.validationEventId = .ok (some sampleEvent) := by
  obtain ⟨_, continues, member, -⟩ := allocateBaseValidation_ok kept_empty
    allocateBaseValidation_sample
  exact continues.kept.validationEvent member

theorem sample_found (reservations : List (String × String)) :
    validationEvent ⟨sampleTables.allocations, reservations⟩ sampleEvent.validationEventId =
      .ok (some sampleEvent) := by
  have same : (EventTables.mk sampleTables.allocations reservations).allocations =
      sampleTables.allocations := rfl
  rw [validationEvent_congr same, sample_known]

theorem ServiceCalls.of_authorize {service : Service} {upstream : Upstream}
    {allocation : ValidationEventAllocation} {asserted : Option AuthorityCoordinates}
    {answer : AuthorizationResult} {after : ValidatorState}
    (ok : authorizeEvent upstream service.validator allocation asserted = .ok (answer, after)) :
    ServiceCalls service (.authorize upstream allocation asserted) ⟨after, service.terminal⟩ := by
  rw [ServiceCalls, ServiceCall.after, ok]
  rfl

theorem sample_authorizes {inputMode : ValidationInputMode} {after : ValidatorState}
    (authorized : authorizeInputs allocatedService.validator sampleEvent
      (sampleInputs inputMode sampleEvent) =
        .ok (.authorized (sampleAuthorization inputMode), after)) :
    ServiceCalls allocatedService (.authorize (sampleUpstream inputMode) sampleEvent none)
      ⟨after, []⟩ := by
  have answered : authorizeEvent (sampleUpstream inputMode) allocatedService.validator sampleEvent none =
      .ok (.authorized (sampleAuthorization inputMode), after) :=
    (authorizeEvent_new rfl (sample_found []) rfl).trans authorized
  exact .of_authorize answered

theorem sample_issued (inputMode : ValidationInputMode) (reservations : List (String × String)) :
    (authorizedState inputMode reservations).memory.issued
        (sampleAuthorization inputMode).authorizationId =
      some (sampleAuthorization inputMode, ⟨sampleEvent, sampleInputs inputMode sampleEvent⟩) :=
  if_pos rfl

theorem sample_authorizes_durable : authorizeInputs allocatedService.validator sampleEvent
    (sampleInputs .durable sampleEvent) =
      .ok (.authorized (sampleAuthorization .durable), authorizedState .durable []) := rfl

theorem sample_authorizes_transient : authorizeInputs allocatedService.validator sampleEvent
    (sampleInputs .transientNotRetained sampleEvent) =
      .ok (.authorized (sampleAuthorization .transientNotRetained),
        authorizedState .transientNotRetained [("capture", sampleEvent.validationEventId)]) := by
  have known : (sampleTables.allocations.any fun row =>
      row.validationEventId = sampleEvent.validationEventId) = true :=
    List.any_eq_true.mpr ⟨_, List.mem_singleton_self _, decide_eq_true rfl⟩
  have reserved : reserveTransientCapture sampleTables "capture" sampleEvent.validationEventId =
      .ok (true, ⟨sampleTables.allocations, [("capture", sampleEvent.validationEventId)]⟩) := by
    rw [reserveTransientCapture, require_of ⟨by decide, identity_ne _ _⟩, ok_bind]
    show (require _ _ >>= fun _ => _) = _
    rw [require_of known, ok_bind]
    rfl
  rw [authorizeInputs.eq_def]
  show (reserveTransientCapture sampleTables "capture" sampleEvent.validationEventId >>= _) = _
  rw [reserved, ok_bind]
  rfl

/-- One finding decides an outcome. -/
theorem semanticOutcome_single (authorizationId : String) (coordinates : AuthorityCoordinates)
    (finding : ValidationFinding) (executed : Bool) :
    ∃ outcome, semanticOutcome authorizationId coordinates finding.state [finding] executed =
      .ok outcome := by
  have single : canonicalFindings [finding] = [finding] := by
    rw [canonicalFindings, List.dedup_eq_self.mpr (List.nodup_singleton finding),
      List.mergeSort_singleton]
  have some_finding : canonicalFindings [finding] ≠ [] := by simp [single]
  have highest : highestPrecedence ((canonicalFindings [finding]).map ValidationFinding.state) =
      .ok finding.state := by
    rw [single]
    rfl
  rw [semanticOutcome, dif_pos some_finding, highest, ok_bind, require_of rfl, ok_bind]
  exact ⟨_, rfl⟩

theorem sample_gone : ∃ result, executeDerived (sampleAuthorization .transientNotRetained) sampleEvent
    (goneUpstream sampleEvent) (fun _ => .failed) none = .ok result ∧ ¬ result.Attested := by
  obtain ⟨outcome, made⟩ := semanticOutcome_single
    (sampleAuthorization .transientNotRetained).authorizationId
    (sampleAuthorization .transientNotRetained).coordinates
    ⟨constantText "INPUT_AVAILABILITY" (by decide), .inputUnavailable,
      constantText "TRANSIENT_RESPONSE_ACCESS_UNAVAILABLE" (by decide)⟩ false
  have reason : requiredText "reason_code" "TRANSIENT_RESPONSE_ACCESS_UNAVAILABLE" =
      .ok (constantText "TRANSIENT_RESPONSE_ACCESS_UNAVAILABLE" (by decide)) :=
    requiredText_ok.mpr rfl
  have refused : ∃ result, presemanticExecutionRefusal (sampleAuthorization .transientNotRetained)
      "TRANSIENT_RESPONSE_ACCESS_UNAVAILABLE" = .ok result := by
    rw [presemanticExecutionRefusal, reason, ok_bind]
    dsimp only
    rw [made, ok_bind]
    exact ⟨_, rfl⟩
  obtain ⟨result, ok⟩ := refused
  exact ⟨result, ok, presemanticExecutionRefusal_unattested ok⟩

/-- A transient response is gone when its authorization is executed: the result that
comes back is accepted by neither service. -/
theorem validatorResult_refused : ∃ result after,
    Run ServiceCalls newService
      [.event (.allocateBase (some ⟨5, by decide⟩) sampleKey),
        .authorize (sampleUpstream .transientNotRetained) sampleEvent none]
      ⟨authorizedState .transientNotRetained [("capture", sampleEvent.validationEventId)], []⟩ ∧
    execute goneUpstream (fun _ => .failed) none
      (authorizedState .transientNotRetained [("capture", sampleEvent.validationEventId)])
      (sampleAuthorization .transientNotRetained) = .ok (result, after) ∧
    ∀ now tables terminal, ∃ exn, persistResult now tables terminal result = .error exn := by
  obtain ⟨result, derived, unattested⟩ := sample_gone
  refine ⟨result, _, ?_, execute_new (sample_issued .transientNotRetained _) rfl (sample_found _) derived,
    fun now tables terminal => ?_⟩
  · exact (sample_allocated.imp fun _ _ _ step => step.1).snoc
      (sample_authorizes sample_authorizes_transient)
  · cases persisted : persistResult now tables terminal result with
    | error exn => exact ⟨exn, rfl⟩
    | ok done => exact absurd (persistResult_ok persisted).1 unattested

/-- A durable response is still there, and its result is stored exactly once. -/
theorem validatorResult_persistable_sample : ∃ result after,
    execute (sampleUpstream .durable)
      (fun _ => .findings [⟨sampleWord, .valid, sampleWord⟩]) none
      (authorizedState .durable []) (sampleAuthorization .durable) = .ok (result, after) ∧
    Persistable ⟨after, []⟩ result := by
  obtain ⟨outcome, made⟩ := semanticOutcome_single (sampleAuthorization .durable).authorizationId
    (sampleAuthorization .durable).coordinates ⟨sampleWord, .valid, sampleWord⟩ true
  have derived : ∃ result, executeDerived (sampleAuthorization .durable) sampleEvent
      (sampleUpstream .durable sampleEvent)
      (fun _ => .findings [⟨sampleWord, .valid, sampleWord⟩]) none = .ok result := by
    have evaluated : ∃ result, executionResult (sampleAuthorization .durable)
        [⟨sampleWord, .valid, sampleWord⟩] = .ok result := by
      have highest : highestPrecedence ([⟨sampleWord, .valid, sampleWord⟩].map
          ValidationFinding.state) = .ok .valid := rfl
      rw [executionResult, highest, ok_bind, made, ok_bind]
      exact ⟨_, rfl⟩
    obtain ⟨result, ok⟩ := evaluated
    refine ⟨result, ?_⟩
    rw [← ok]
    rw [executeDerived.eq_def, sampleUpstream]
    dsimp only
    have same : (sampleInputs .durable sampleEvent).coordinates =
        (sampleAuthorization .durable).coordinates := rfl
    rw [executeInputs.eq_def, require_of same, ok_bind]
    rfl
  obtain ⟨result, ok⟩ := derived
  have executed := execute_new (sample_issued .durable []) rfl (sample_found []) ok
  have step : RederivingCalls allocatedService
      (.authorize (sampleUpstream .durable) sampleEvent none) ⟨authorizedState .durable [], []⟩ :=
    ⟨sample_authorizes sample_authorizes_durable, trivial⟩
  refine ⟨result, _, executed, ?_⟩
  refine ((validatorResult_persistable (sample_allocated.snoc step)).2 _ _ _ _ _ _ executed).mpr ?_
  intro _ _ _ _ _ _ _ same
  cases same

end Hunter.ResponseValidator
