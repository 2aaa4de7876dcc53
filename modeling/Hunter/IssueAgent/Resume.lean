import Hunter.IssueAgent.Lifecycle

/-!
What the history of resumes guarantees. The verifier checks a resume record against
the pending resume alone. Two laws speak of the whole history: a fallback result
comes from a run the owner approved, and a resume nonce is used once. Each holds of
every chain whose records meet a condition the verifier does not check.
-/

namespace Hunter.IssueAgent

def Record.request (record : Record) : Option ResumeRequested :=
  match record.payload with
  | .resumeRequested _ evidence => some evidence
  | _ => none

def Record.binding (record : Record) : Option ResumeBound :=
  match record.payload with
  | .resumeBound _ evidence => some evidence
  | _ => none

def Record.abandonment (record : Record) : Option ResumeAbandoned :=
  match record.payload with
  | .resumeAbandoned _ evidence => some evidence
  | _ => none

theorem prefix_snoc {α : Type} {before records : List α} {label last : α}
    (within : before ++ [label] <+: records ++ [last]) :
    (before = records ∧ label = last) ∨ before ++ [label] <+: records := by
  cases List.prefix_concat_iff.mp within with
  | inl whole => exact .inl (List.append_inj' whole rfl |>.imp id List.singleton_inj.mp)
  | inr inside => exact .inr inside

/-- The owner requested a fallback under this nonce after it was admitted, nobody
has abandoned it since, and the run, if there is one, bound itself to it. -/
def OwnerApproved (nonce : Sha64) (run : Option Positive) (records : List Record) : Prop :=
  ∃ before request after, records = before ++ request :: after ∧
    (∃ admitted ∈ before, ∃ evidence, admitted.evidence = some (.fallbackAuthorized evidence)) ∧
    (request.recordedBy.role = .ownerDecision ∧ ∃ requested, request.request = some requested ∧
      requested.stage = .fallback ∧ requested.nonce = nonce) ∧
    (∀ runId, run = some runId → ∃ binding ∈ after, binding.binding = some ⟨nonce, runId⟩) ∧
    ∀ record ∈ after, record.abandonment ≠ some ⟨nonce⟩

/-- Every bound result of a fallback comes from a run that was approved. -/
def FallbackResultsApproved (records : List Record) : Prop :=
  ∀ before record evidence, before ++ [record] <+: records →
    record.evidence = some (.resultBound evidence) → evidence.fallback.isSome →
    ∃ nonce, OwnerApproved nonce (some evidence.resultArtifact.runId)
      (history record.authorizationId before)

/-- A fallback is requested by the owner alone, and its result is bound while a
resume is bound to the run that made it. -/
structure FallbackGuarded (view : LedgerView) (record : Record) : Prop where
  owner : ∀ requested, record.request = some requested → requested.stage = .fallback →
    record.recordedBy.role = .ownerDecision
  bound : ∀ evidence, record.evidence = some (.resultBound evidence) → evidence.fallback.isSome →
    ∃ current pending, view.authorizations.get? record.authorizationId = some current ∧
      current.pendingResume = some pending ∧
      pending.boundRunId = some evidence.resultArtifact.runId

theorem FallbackGuarded.of_transition {view : LedgerView} {record : Record} {evidence : Evidence}
    (payload : record.payload = .transition evidence)
    (other : evidence.state ≠ .resultBound) : FallbackGuarded view record := by
  have silent : record.request = none := by rw [Record.request, payload]
  have carries : record.evidence = some evidence := by rw [Record.evidence, payload]
  refine ⟨fun requested request => ?_, fun bound is_bound => ?_⟩
  · cases silent.symm.trans request
  · rw [Option.some.inj (carries.symm.trans is_bound)] at other
    exact absurd rfl other

theorem FallbackGuarded.of_resume {view : LedgerView} {record : Record}
    (silent : record.evidence = none)
    (owner : ∀ requested, record.request = some requested → record.recordedBy.role = .ownerDecision) :
    FallbackGuarded view record := by
  refine ⟨fun requested request _ => owner requested request, fun bound is_bound => ?_⟩
  cases silent.symm.trans is_bound

/-- What is pending in a fallback was approved. -/
def PendingApproved (records : List Record) (view : LedgerView) : Prop :=
  ∀ id current pending, view.authorizations.get? id = some current →
    current.state = .fallbackAuthorized → current.pendingResume = some pending →
    OwnerApproved pending.nonce pending.boundRunId (history id records)

section Fallback

variable {repositoryId issueNumber : Int} {records : List Record} {view view' : LedgerView}
  {record : Record}

theorem admitted_of_sound {id : AuthorizationId} {current : AuthorizationView}
    (h : view.Sound repositoryId issueNumber records)
    (found : view.authorizations.get? id = some current)
    (state : current.state = .fallbackAuthorized) :
    ∃ admitted ∈ history id records, ∃ evidence,
      admitted.evidence = some (.fallbackAuthorized evidence) := by
  obtain ⟨-, own, sound⟩ := h.each id current found
  have last := sound.recorded.last
  rw [own, state] at last
  have visited := List.mem_of_getLast? last
  obtain ⟨evidence, carried, is_state⟩ := List.mem_map.mp visited
  obtain ⟨admitted, listed, carries⟩ := List.mem_filterMap.mp carried
  cases evidence with
  | fallbackAuthorized evidence => exact ⟨admitted, listed, evidence, carries⟩
  | _ => cases is_state

theorem ownerApproved_of_request {requested : ResumeRequested}
    (admitted : ∃ admitted ∈ records, ∃ evidence,
      admitted.evidence = some (.fallbackAuthorized evidence))
    (role : record.recordedBy.role = .ownerDecision) (request : record.request = some requested)
    (stage : requested.stage = .fallback) :
    OwnerApproved requested.nonce none (records ++ [record]) := by
  refine ⟨records, record, [], rfl, admitted, ⟨role, requested, request, stage, rfl⟩, ?_, ?_⟩
  · intro runId none_bound
    cases none_bound
  · intro other member
    cases member

theorem ownerApproved_of_binding {nonce : Sha64} {runId : Positive}
    (approved : OwnerApproved nonce none records) (binding : record.binding = some ⟨nonce, runId⟩)
    (kept : record.abandonment = none) :
    OwnerApproved nonce (some runId) (records ++ [record]) := by
  obtain ⟨before, request, after, rfl, admitted, requested, -, standing⟩ := approved
  refine ⟨before, request, after ++ [record], by simp, admitted, requested, ?_, ?_⟩
  · rintro _ ⟨rfl⟩
    exact ⟨record, List.mem_append_right _ (List.mem_singleton.mpr rfl), binding⟩
  · intro other member
    cases List.mem_append.mp member with
    | inl earlier => exact standing other earlier
    | inr last => rw [List.mem_singleton.mp last, kept]; nofun

/-- The pending resume of the updated authorization is what has to be approved. -/
theorem pendingApproved_update {current : AuthorizationView} {active : Option AuthorizationId}
    {claimed : List AuthorizationId} (h : PendingApproved records view)
    (pending : ∀ p, current.state = .fallbackAuthorized → current.pendingResume = some p →
      OwnerApproved p.nonce p.boundRunId (history record.authorizationId records ++ [record])) :
    PendingApproved (records ++ [record])
      (({ view with active := active, claimed := claimed } : LedgerView).append current record) := by
  intro id other p found state is_pending
  simp only [LedgerView.append, Dict.get?_set] at found
  rw [history_append]
  split at found
  · rename_i same
    cases found
    rw [if_pos same.symm, same]
    exact pending p state is_pending
  · rename_i differs
    rw [if_neg (Ne.symm differs)]
    exact h id other p found state is_pending

theorem stage_of_fallback {stage : Stage} (h : State.fallbackAuthorized = (resumeStages stage).1) :
    stage = .fallback := by
  cases stage <;> first | rfl | cases h

theorem pendingApproved_admits (sound : view.Sound repositoryId issueNumber records)
    (h : PendingApproved records view) (guarded : FallbackGuarded view record)
    (admits : Admits view record view') : PendingApproved (records ++ [record]) view' := by
  cases admits with
  | authorize evidence payload _ _ _ _ _ =>
      refine pendingApproved_update h ?_
      intro p state
      cases state
  | enter evidence current payload found _ _ _ _ =>
      refine pendingApproved_update h ?_
      intro p _ is_pending
      cases evidence <;> cases is_pending
  | request state evidence current payload found stage none_pending next cap =>
      refine pendingApproved_update h ?_
      intro p in_fallback is_pending
      cases is_pending
      have found := (activeForResume_ok.mp found).1
      have is_fallback := stage_of_fallback (in_fallback.symm.trans stage)
      have request : record.request = some evidence := by rw [Record.request, payload]
      exact ownerApproved_of_request (admitted_of_sound sound found in_fallback)
        (guarded.owner evidence request is_fallback) request is_fallback
  | abandon state evidence current pending payload found _ _ =>
      refine pendingApproved_update h ?_
      intro p _ is_pending
      cases is_pending
  | bind state evidence current pending payload found is_pending nonce unbound run =>
      refine pendingApproved_update h ?_
      intro p in_fallback binds
      cases binds
      have found := (activeForResume_ok.mp found).1
      have approved := h _ current pending found in_fallback is_pending
      rw [unbound] at approved
      refine ownerApproved_of_binding approved ?_ ?_
      · rw [Record.binding, payload, nonce]
      · rw [Record.abandonment, payload]

theorem payload_of_evidence {evidence : Evidence} (h : record.evidence = some evidence) :
    record.payload = .transition evidence := by
  unfold Record.evidence at h
  split at h
  · cases h
    assumption
  · cases h

/-- A bound result carries a fallback group exactly if it leaves a fallback. -/
theorem left_of_resultBound {evidence : ResultBoundEvidence} {current : AuthorizationView}
    (admits : Admits view record view') (bound : record.evidence = some (.resultBound evidence))
    (found : view.authorizations.get? record.authorizationId = some current) :
    current.state = .fallbackAuthorized ↔ evidence.fallback.isSome := by
  have is_transition := payload_of_evidence bound
  cases admits with
  | authorize _ payload _ _ _ _ _ => cases is_transition.symm.trans payload
  | enter _ before payload is_before _ _ _ bindings =>
      cases is_transition.symm.trans payload
      cases found.symm.trans is_before
      exact require_ok.mp bindings
  | request _ _ _ payload _ _ _ _ _ => cases is_transition.symm.trans payload
  | abandon _ _ _ _ payload _ _ _ => cases is_transition.symm.trans payload
  | bind _ _ _ _ payload _ _ _ _ _ => cases is_transition.symm.trans payload

theorem approved_admits (h : PendingApproved records view)
    (approved : FallbackResultsApproved records) (guarded : FallbackGuarded view record)
    (admits : Admits view record view') : FallbackResultsApproved (records ++ [record]) := by
  intro before other evidence within bound fallback
  cases prefix_snoc within with
  | inr earlier => exact approved before other evidence earlier bound fallback
  | inl last =>
      obtain ⟨rfl, rfl⟩ := last
      obtain ⟨current, pending, found, is_pending, run⟩ := guarded.bound evidence bound fallback
      have in_fallback := (left_of_resultBound admits bound found).mpr fallback
      have standing := h _ current pending found in_fallback is_pending
      rw [run] at standing
      exact ⟨pending.nonce, standing⟩

/-- In a chain whose records are guarded, the owner approved every fallback result. -/
theorem fallbackResults_approved [Ed25519] {trust : TrustRoots} {provenance : ProvenanceCheck}
    {entries : List (Json × Option Json)}
    (verified : verifyChain trust provenance repositoryId issueNumber entries = .ok view)
    (guarded : EveryStep trust provenance FallbackGuarded (emptyView repositoryId issueNumber)
      entries) :
    ∃ records, Decoded entries records ∧ FallbackResultsApproved records := by
  obtain ⟨records, decoded, run⟩ := verifyChain_guarded verified guarded
  have kept := run.invariant (fun records view => view.Sound repositoryId issueNumber records ∧
    PendingApproved records view ∧ FallbackResultsApproved records) ?_ ?_
  · exact ⟨records, decoded, kept.2.2⟩
  · refine ⟨sound_empty repositoryId issueNumber, ?_, ?_⟩
    · intro id current pending found
      cases (Dict.get?_empty id).symm.trans found
    · intro before record evidence within
      simp at within
  · intro records view record view' _ ⟨sound, pending, approved⟩ ⟨⟨linked, admits⟩, guarded⟩
    exact ⟨sound_admits sound linked admits, pendingApproved_admits sound pending guarded admits,
      approved_admits pending approved guarded admits⟩

end Fallback

def requestedNonces (records : List Record) : List Sha64 :=
  records.filterMap fun record => record.request.map (·.nonce)

def boundNonces (records : List Record) : List Sha64 :=
  records.filterMap fun record => record.binding.map (·.nonce)

structure NoncesUsedOnce (records : List Record) : Prop where
  requested : ∀ id, (requestedNonces (history id records)).Nodup
  bound : (boundNonces records).Nodup

/-- A request brings a nonce that no record of the ledger has requested. -/
def NonceFresh (view : LedgerView) (record : Record) : Prop :=
  ∀ requested, record.request = some requested → ∀ id current,
    view.authorizations.get? id = some current → requested.nonce ∉ requestedNonces current.records

/-- The pending nonce was requested, and it is bound only if the view says so. -/
structure NonceLedger (records : List Record) (view : LedgerView) : Prop where
  requested : (requestedNonces records).Nodup
  bound : (boundNonces records).Nodup
  bound_requested : boundNonces records ⊆ requestedNonces records
  pending : ∀ id current pending, view.authorizations.get? id = some current →
    current.pendingResume = some pending → current.terminal = false ∧
      pending.nonce ∈ requestedNonces records ∧
      (pending.boundRunId = none → pending.nonce ∉ boundNonces records)

section Nonces

variable {repositoryId issueNumber : Int} {records : List Record} {view view' : LedgerView}
  {record : Record}

theorem requestedNonces_snoc : requestedNonces (records ++ [record]) =
    requestedNonces records ++ (record.request.map (·.nonce)).toList := by
  cases requests : record.request <;> simp [requestedNonces, requests]

theorem boundNonces_snoc : boundNonces (records ++ [record]) =
    boundNonces records ++ (record.binding.map (·.nonce)).toList := by
  cases binds : record.binding <;> simp [boundNonces, binds]

/-- A nonce the chain requested is a nonce some authorization of the view requested. -/
theorem mem_requestedNonces (h : view.Sound repositoryId issueNumber records) {nonce : Sha64}
    (member : nonce ∈ requestedNonces records) : ∃ id current,
      view.authorizations.get? id = some current ∧ nonce ∈ requestedNonces current.records := by
  obtain ⟨record, listed, requests⟩ := List.mem_filterMap.mp member
  have own : record ∈ history record.authorizationId records :=
    List.mem_filter.mpr ⟨listed, decide_eq_true rfl⟩
  have claimed : record.authorizationId ∈ view.claimed := by
    by_contra absent
    rw [h.unclaimed _ absent] at own
    cases own
  rw [h.keys, ← Dict.get?_isSome_iff] at claimed
  obtain ⟨current, found⟩ := Option.isSome_iff_exists.mp claimed
  refine ⟨record.authorizationId, current, found, ?_⟩
  rw [(h.each _ _ found).2.1]
  exact List.mem_filterMap.mpr ⟨record, own, requests⟩

/-- A record that neither requests nor binds leaves the nonces alone. -/
theorem nonceLedger_silent {current : AuthorizationView} {active : Option AuthorizationId}
    {claimed : List AuthorizationId} (h : NonceLedger records view) (idle : record.request = none)
    (free : record.binding = none) (none_pending : current.pendingResume = none) :
    NonceLedger (records ++ [record])
      (({ view with active := active, claimed := claimed } : LedgerView).append current record) := by
  have requested : requestedNonces (records ++ [record]) = requestedNonces records := by
    rw [requestedNonces_snoc, idle]
    exact List.append_nil _
  have bound : boundNonces (records ++ [record]) = boundNonces records := by
    rw [boundNonces_snoc, free]
    exact List.append_nil _
  refine ⟨requested ▸ h.requested, bound ▸ h.bound, ?_, ?_⟩
  · rw [requested, bound]
    exact h.bound_requested
  · intro id other pending found is_pending
    rw [requested, bound]
    simp only [LedgerView.append, Dict.get?_set] at found
    split at found
    · cases found
      cases none_pending.symm.trans is_pending
    · exact h.pending id other pending found is_pending

theorem nonceLedger_admits (sound : view.Sound repositoryId issueNumber records)
    (h : NonceLedger records view) (fresh : NonceFresh view record)
    (admits : Admits view record view') : NonceLedger (records ++ [record]) view' := by
  cases admits with
  | authorize evidence payload _ _ _ _ _ =>
      exact nonceLedger_silent h (by rw [Record.request, payload])
        (by rw [Record.binding, payload]) rfl
  | enter evidence current payload found _ _ _ _ =>
      exact nonceLedger_silent h (by rw [Record.request, payload])
        (by rw [Record.binding, payload]) (by cases evidence <;> rfl)
  | abandon state evidence current pending payload found _ _ =>
      exact nonceLedger_silent h (by rw [Record.request, payload])
        (by rw [Record.binding, payload]) rfl
  | request state evidence current payload found stage none_pending next cap =>
      have requests : record.request = some evidence := by rw [Record.request, payload]
      have free : record.binding = none := by rw [Record.binding, payload]
      have unused : evidence.nonce ∉ requestedNonces records := by
        intro used
        obtain ⟨id, other, is_other, listed⟩ := mem_requestedNonces sound used
        exact fresh evidence requests id other is_other listed
      have requested : requestedNonces (records ++ [record]) =
          requestedNonces records ++ [evidence.nonce] := by
        rw [requestedNonces_snoc, requests]
        rfl
      have bound : boundNonces (records ++ [record]) = boundNonces records := by
        rw [boundNonces_snoc, free]
        exact List.append_nil _
      refine ⟨?_, bound ▸ h.bound, ?_, ?_⟩
      · rw [requested]
        exact List.nodup_append.mpr ⟨h.requested, List.nodup_singleton _, fun a used b same e =>
          unused (List.mem_singleton.mp same ▸ e ▸ used)⟩
      · rw [requested, bound]
        exact List.subset_append_of_subset_left _ h.bound_requested
      · intro id other pending is_other is_pending
        rw [requested, bound]
        simp only [LedgerView.append, Dict.get?_set] at is_other
        split at is_other
        · cases is_other
          cases is_pending
          refine ⟨(activeForResume_ok.mp found).2.1.1, by simp, fun _ used => ?_⟩
          exact unused (h.bound_requested used)
        · obtain ⟨running, listed, unbound⟩ := h.pending id other pending is_other is_pending
          exact ⟨running, List.mem_append_left _ listed, unbound⟩
  | bind state evidence current pending payload found is_pending nonce unbound run =>
      have idle : record.request = none := by rw [Record.request, payload]
      have binds : record.binding = some evidence := by rw [Record.binding, payload]
      obtain ⟨is_current, ⟨running, active⟩, -⟩ := activeForResume_ok.mp found
      obtain ⟨-, listed, unused⟩ := h.pending _ current pending is_current is_pending
      have requested : requestedNonces (records ++ [record]) = requestedNonces records := by
        rw [requestedNonces_snoc, idle]
        exact List.append_nil _
      have bound : boundNonces (records ++ [record]) = boundNonces records ++ [pending.nonce] := by
        rw [boundNonces_snoc, binds, nonce]
        rfl
      refine ⟨requested ▸ h.requested, ?_, ?_, ?_⟩
      · rw [bound]
        exact List.nodup_append.mpr ⟨h.bound, List.nodup_singleton _, fun a used b same e =>
          unused unbound (List.mem_singleton.mp same ▸ e ▸ used)⟩
      · rw [requested, bound]
        exact List.append_subset.mpr
          ⟨h.bound_requested, List.cons_subset.mpr ⟨listed, List.nil_subset _⟩⟩
      · intro id other p is_other other_pending
        simp only [LedgerView.append, Dict.get?_set] at is_other
        rw [requested]
        split at is_other
        · cases is_other
          cases other_pending
          exact ⟨running, listed, by rintro ⟨⟩⟩
        · rename_i differs
          -- no other authorization can have a pending resume
          have nonterminal := (h.pending id other p is_other other_pending).1
          have also_active := (sound.active id).mpr ⟨other, is_other, nonterminal⟩
          exact absurd (Option.some.inj (also_active.symm.trans active)) differs

/-- In a chain whose requests bring fresh nonces, no nonce is used twice. -/
theorem nonces_used_once [Ed25519] {trust : TrustRoots} {provenance : ProvenanceCheck}
    {entries : List (Json × Option Json)}
    (verified : verifyChain trust provenance repositoryId issueNumber entries = .ok view)
    (fresh : EveryStep trust provenance NonceFresh (emptyView repositoryId issueNumber) entries) :
    ∃ records, Decoded entries records ∧ NoncesUsedOnce records := by
  obtain ⟨records, decoded, run⟩ := verifyChain_guarded verified fresh
  have kept := run.invariant (fun records view => view.Sound repositoryId issueNumber records ∧
    NonceLedger records view) ?_ ?_
  · refine ⟨records, decoded, fun id => ?_, kept.2.bound⟩
    exact kept.2.requested.sublist (List.filter_sublist.filterMap _)
  · refine ⟨sound_empty repositoryId issueNumber, List.nodup_nil, List.nodup_nil, nofun, ?_⟩
    intro id current pending found
    cases (Dict.get?_empty id).symm.trans found
  · intro records view record view' _ ⟨sound, nonces⟩ ⟨⟨linked, admits⟩, fresh⟩
    exact ⟨sound_admits sound linked admits, nonceLedger_admits sound nonces fresh admits⟩

end Nonces

section Sample

local instance : Ed25519 := checksumScheme

def sampleAdmitted : FallbackAuthorizedEvidence where
  primaryExecutorJobId := 8
  primaryExecutorConclusion := .failure
  primaryCause := .rateLimit
  stderrCategory := .rateLimit
  probeCategory := .rateLimit
  fallbackExecutionId := sampleIdentity .fallback
  canaryRefusal := none

/-- A result the fallback made in this run. -/
def sampleFallbackBound (runId : Positive) : ResultBoundEvidence where
  resultArtifact := sampleArtifact runId 4 sampleSha
  resultPlaintextSha256 := sampleSha
  executorJobId := 22
  executorConclusion := .success
  executorAdvisoryCode := none
  fallback := some ⟨sampleSha, sampleDeadline, none⟩

def sampleAdmit : Entry :=
  sampleEntry .bind sampleJob 8 (.transition (.fallbackAuthorized sampleAdmitted))

def sampleRequest (attempt : Positive) : Entry :=
  sampleEntry .ownerDecision sampleJob 20
    (.resumeRequested .fallbackAuthorized ⟨.fallback, sampleSha, attempt, sampleTime⟩)

def sampleBinding (runId : Positive) : Entry :=
  sampleEntry .bind sampleJob runId (.resumeBound .fallbackAuthorized ⟨sampleSha, runId⟩)

def sampleAbandon : Entry :=
  sampleEntry .reconcile sampleJob 23 (.resumeAbandoned .fallbackAuthorized ⟨sampleSha⟩)

def sampleFallbackResult (runId : Positive) : Entry :=
  sampleEntry .bind sampleJob 24 (.transition (.resultBound (sampleFallbackBound runId)))

section Standing

variable {view : LedgerView} {said : List Payload} {current : AuthorizationView}

theorem Standing.active_for_resume (h : Standing view said current) {records : List Record}
    (found : view.authorizations.get? sampleId = some { current with records := records })
    (state : current.state = .fallbackAuthorized) {entry : Entry}
    (owner : entry.authorizationId = sampleId) (role : entry.by_.role ∈ resumeRoles)
    (written : entry.payload.state = .fallbackAuthorized) :
    activeForResume view (entry.record 1 5 (3 : Nat) view) =
      .ok { current with records := records } := by
  have running : ({ current with records := records } : AuthorizationView).terminal = false := by
    change current.state.terminal = false
    rw [state]
    rfl
  refine activeForResume_ok.mpr ⟨?_, ⟨running, ?_⟩, role, written.trans state.symm⟩
  · exact (congrArg view.authorizations.get? owner).trans found
  · exact h.active.trans (congrArg some owner.symm)

theorem Standing.requests (h : Standing view said current) (attempt : Positive)
    (state : current.state = .fallbackAuthorized) (idle : current.pendingResume = none)
    (next : attempt.val = current.resumeAttempts .fallback + 1)
    (numbers : Json.weight (.int said.length) ≤ 500)
    (small : Json.weight (.obj (sampleRequest attempt).payload.fields) ≤ 40000) :
    ∃ view', (sampleRequest attempt).Writes 1 5 (3 : Nat) view view' ∧
      Standing view' (said ++ [(sampleRequest attempt).payload])
        (current.request ⟨.fallback, sampleSha, attempt, sampleTime⟩) := by
  obtain ⟨records, found, listed⟩ := h.found
  have run : Json.weight (.int (20 : Positive).val) ≤ 500 := by decide
  have role : Role.ownerDecision ∈ resumeRoles := by decide
  have flat : 1 < maxDepth := by decide
  refine ⟨_, ⟨trivial, sample_fits (Nat.add_le_add (h.seq ▸ numbers) run) small flat,
    foldRecord_of_admits (.request _ _ _ rfl (h.active_for_resume found state rfl role rfl) state
      idle next trivial)⟩, ?_⟩
  exact h.append (current.request ⟨.fallback, sampleSha, attempt, sampleTime⟩)
    ((sampleRequest attempt).record 1 5 (3 : Nat) view) found listed rfl h.active

theorem Standing.binds (h : Standing view said current) (runId : Positive) {pending : PendingResume}
    (state : current.state = .fallbackAuthorized)
    (is_pending : current.pendingResume = some pending) (nonce : pending.nonce = sampleSha)
    (unbound : pending.boundRunId = none)
    (numbers : Json.weight (.int said.length) + Json.weight (.int runId.val) ≤ 1000)
    (small : Json.weight (.obj (sampleBinding runId).payload.fields) ≤ 40000) :
    ∃ view', (sampleBinding runId).Writes 1 5 (3 : Nat) view view' ∧
      Standing view' (said ++ [(sampleBinding runId).payload]) (current.bind pending runId) := by
  obtain ⟨records, found, listed⟩ := h.found
  have role : Role.bind ∈ resumeRoles := by decide
  have flat : 1 < maxDepth := by decide
  refine ⟨_, ⟨trivial, sample_fits (h.seq ▸ numbers) small flat, foldRecord_of_admits
    (.bind _ _ _ _ rfl (h.active_for_resume found state rfl role rfl) is_pending nonce unbound
      rfl)⟩, ?_⟩
  exact h.append (current.bind pending runId) ((sampleBinding runId).record 1 5 (3 : Nat) view) found
    listed rfl h.active

theorem Standing.abandons (h : Standing view said current) {pending : PendingResume}
    (state : current.state = .fallbackAuthorized)
    (is_pending : current.pendingResume = some pending) (nonce : pending.nonce = sampleSha)
    (numbers : Json.weight (.int said.length) ≤ 500) :
    ∃ view', sampleAbandon.Writes 1 5 (3 : Nat) view view' ∧
      Standing view' (said ++ [sampleAbandon.payload]) current.abandon := by
  obtain ⟨records, found, listed⟩ := h.found
  have run : Json.weight (.int (23 : Positive).val) ≤ 500 := by decide
  refine ⟨_, ⟨trivial, sample_fits (Nat.add_le_add (h.seq ▸ numbers) run) (by decide)
    (by decide), foldRecord_of_admits (.abandon _ _ _ _ rfl
      (h.active_for_resume found state rfl (by decide) rfl) is_pending nonce)⟩, ?_⟩
  exact h.append current.abandon (sampleAbandon.record 1 5 (3 : Nat) view) found listed rfl h.active

end Standing

/-- The fallback of the sample, as it is admitted. -/
theorem sample_admits : ∃ view, sampleAdmit.Writes 1 5 (3 : Nat) sampleView view ∧
    Standing view [.transition (.authorized sampleAuthorized),
      .transition (.fallbackAuthorized sampleAdmitted)]
      ((AuthorizationView.start sampleId sampleAuthorized).enter
        (.fallbackAuthorized sampleAdmitted)) := by
  have weight : Json.weight (.obj sampleAdmitted.fields) ≤ 40000 := by
    simp only [FallbackAuthorizedEvidence.fields, Json.weight, Json.weightFields, sha64_length,
      List.cons_append, List.nil_append]
    decide
  obtain ⟨view, writes, h⟩ := standing_start.enters .bind 8 (.fallbackAuthorized sampleAdmitted)
    (by decide) (by decide) rfl (fun _ _ _ => check_ok.mpr ⟨require_of rfl, rfl⟩) ⟨by decide, by decide⟩
    (by decide) weight (by decide)
  exact ⟨view, writes, h rfl⟩

/-- The result of the fallback can be written whatever is pending. -/
theorem Standing.fallback_result {view : LedgerView} {said : List Payload}
    {current : AuthorizationView} (h : Standing view said current)
    (state : current.state = .fallbackAuthorized)
    (numbers : Json.weight (.int said.length) + Json.weight (.int (24 : Positive).val) ≤ 1000) :
    ∃ view', (sampleFallbackResult 21).Writes 1 5 (3 : Nat) view view' := by
  obtain ⟨view', writes, -⟩ := h.enters .bind 24 (.resultBound (sampleFallbackBound 21))
    (by rw [state]; decide) (by decide) rfl
    (fun _ _ _ => require_ok.mpr ⟨fun _ => rfl, fun _ => state⟩) trivial numbers
    (by decide) (by decide)
  exact ⟨view', writes⟩

/-- The verifier takes a fallback result that no run was approved for. -/
theorem fallbackResults_approved_fails : ¬∀ (entries : List (Json × Option Json)) (view : LedgerView)
    (records : List Record), verifyChain sampleTrust (fun _ _ => .ok true) 1 5 entries = .ok view →
      Decoded entries records → FallbackResultsApproved records := by
  intro law
  obtain ⟨_, admits, h⟩ := sample_admits
  obtain ⟨view, result⟩ := h.fallback_result rfl (by decide)
  obtain ⟨verified, records, decoded, described⟩ := sampleChain_verifies
    (.cons sample_authorizes (.cons admits (.cons result .nil)))
  have approved := law _ view records verified decoded
  obtain - | ⟨first, - | ⟨second, - | ⟨third, -⟩⟩⟩ := described
  rename_i a b c _
  have no_request {record : Record} {evidence : Evidence}
      (payload : record.payload = .transition evidence) : record.request = none := by
    rw [Record.request, payload]
  have result : c.evidence = some (.resultBound (sampleFallbackBound 21)) := by
    rw [Record.evidence, third.1]
    rfl
  obtain ⟨nonce, before, request, after, parts, -, ⟨-, requested, is_request, -⟩, -⟩ :=
    approved [a, b] c _ (by simp) result rfl
  have listed : request ∈ history c.authorizationId [a, b] := by
    rw [parts]
    exact List.mem_append_right _ List.mem_cons_self
  have earlier := List.mem_of_mem_filter listed
  simp only [List.mem_cons, List.not_mem_nil, or_false] at earlier
  cases earlier with
  | inl is_first => cases is_request.symm.trans (no_request (is_first ▸ first.1))
  | inr is_second => cases is_request.symm.trans (no_request (is_second ▸ second.1))

def sampleApproved : List Entry :=
  [sampleAuthorize, sampleAdmit, sampleRequest 1, sampleBinding 21, sampleFallbackResult 21]

/-- A fallback result of the run the owner approved. -/
theorem sample_approved : ∃ view, Run (fun view entry view' =>
    entry.Writes 1 5 (3 : Nat) view view' ∧
      FallbackGuarded view (entry.record 1 5 (3 : Nat) view)) (emptyView 1 5) sampleApproved view := by
  obtain ⟨_, admits, h⟩ := sample_admits
  obtain ⟨_, requests, h⟩ := h.requests 1 rfl rfl rfl (by decide) (by decide)
  obtain ⟨_, binds, h⟩ := h.binds 21 rfl rfl rfl rfl (by decide) (by decide)
  obtain ⟨records, found, -⟩ := h.found
  obtain ⟨view, result⟩ := h.fallback_result rfl (by decide)
  refine ⟨view, .cons ⟨sample_authorizes, .of_transition rfl (by decide)⟩
    (.cons ⟨admits, .of_transition rfl (by decide)⟩ (.cons ⟨requests, .of_resume rfl fun _ _ => rfl⟩
      (.cons ⟨binds, .of_resume rfl nofun⟩ (.cons ⟨result, ⟨nofun, ?_⟩⟩ .nil))))⟩
  intro evidence bound _
  cases bound
  exact ⟨_, _, found, rfl, rfl⟩

theorem fallbackResults_approved_sample : ∃ records,
    Decoded (sampleChain sampleApproved) records ∧ FallbackResultsApproved records := by
  obtain ⟨view, run⟩ := sample_approved
  have verified := (sampleChain_verifies (run.imp fun _ _ _ step => step.1)).1
  exact fallbackResults_approved verified (sampleChain_everyStep run)

def Payload.requestedNonce : Payload → Option Sha64
  | .resumeRequested _ evidence => some evidence.nonce
  | _ => none

def Payload.boundNonce : Payload → Option Sha64
  | .resumeBound _ evidence => some evidence.nonce
  | _ => none

theorem requestedNonces_eq (records : List Record) :
    requestedNonces records = (records.map (·.payload)).filterMap Payload.requestedNonce := by
  rw [requestedNonces, List.filterMap_map]
  congr 1
  funext record
  simp only [Function.comp, Record.request]
  cases record.payload <;> rfl

theorem boundNonces_eq (records : List Record) :
    boundNonces records = (records.map (·.payload)).filterMap Payload.boundNonce := by
  rw [boundNonces, List.filterMap_map]
  congr 1
  funext record
  simp only [Function.comp, Record.binding]
  cases record.payload <;> rfl

theorem payloads_of_described {entries : List Entry} {records : List Record}
    (h : List.Forall₂ Entry.Describes entries records) :
    records.map (·.payload) = entries.map (·.payload) := by
  induction h with
  | nil => rfl
  | cons first _ ih => rw [List.map_cons, List.map_cons, ih, first.1]

def sampleReused : List Entry :=
  [sampleAuthorize, sampleAdmit, sampleRequest 1, sampleBinding 21, sampleAbandon, sampleRequest 2,
    sampleBinding 22]

/-- A nonce that was bound and abandoned is requested and bound again. -/
theorem sample_reused : ∃ view, Run (fun view entry view' => entry.Writes 1 5 (3 : Nat) view view')
    (emptyView 1 5) sampleReused view := by
  obtain ⟨_, admits, h⟩ := sample_admits
  obtain ⟨_, first, h⟩ := h.requests 1 rfl rfl rfl (by decide) (by decide)
  obtain ⟨_, second, h⟩ := h.binds 21 rfl rfl rfl rfl (by decide) (by decide)
  obtain ⟨_, third, h⟩ := h.abandons rfl rfl rfl (by decide)
  obtain ⟨_, fourth, h⟩ := h.requests 2 rfl rfl rfl (by decide) (by decide)
  obtain ⟨view, fifth, -⟩ := h.binds 22 rfl rfl rfl rfl (by decide) (by decide)
  exact ⟨view, .cons sample_authorizes (.cons admits (.cons first (.cons second (.cons third
    (.cons fourth (.cons fifth .nil))))))⟩

theorem nonces_used_once_fails : ¬∀ (entries : List (Json × Option Json)) (view : LedgerView)
    (records : List Record), verifyChain sampleTrust (fun _ _ => .ok true) 1 5 entries = .ok view →
      Decoded entries records → NoncesUsedOnce records := by
  intro law
  obtain ⟨view, run⟩ := sample_reused
  obtain ⟨verified, records, decoded, described⟩ := sampleChain_verifies run
  have once := (law _ view records verified decoded).bound
  rw [boundNonces_eq, payloads_of_described described] at once
  change [sampleSha, sampleSha].Nodup at once
  simp at once

theorem nonces_used_once_sample : ∃ records,
    Decoded (sampleChain [sampleAuthorize, sampleAdmit, sampleRequest 1, sampleBinding 21]) records ∧
      NoncesUsedOnce records := by
  obtain ⟨admitted, admits, before⟩ := sample_admits
  obtain ⟨_, requests, h⟩ := before.requests 1 rfl rfl rfl (by decide) (by decide)
  obtain ⟨view, binds, -⟩ := h.binds 21 rfl rfl rfl rfl (by decide) (by decide)
  have fresh : NonceFresh admitted ((sampleRequest 1).record 1 5 (3 : Nat) admitted) := by
    intro requested _ id current found
    obtain ⟨records, is_current, listed⟩ := before.found
    have member := Dict.mem_keys_of_get? found
    rw [before.alone, List.mem_singleton] at member
    rw [member, is_current] at found
    cases found
    rw [requestedNonces_eq, listed]
    exact List.not_mem_nil
  have run : Run (fun view entry view' => entry.Writes 1 5 (3 : Nat) view view' ∧
      NonceFresh view (entry.record 1 5 (3 : Nat) view)) (emptyView 1 5)
      [sampleAuthorize, sampleAdmit, sampleRequest 1, sampleBinding 21] view :=
    .cons ⟨sample_authorizes, nofun⟩ (.cons ⟨admits, nofun⟩ (.cons ⟨requests, fresh⟩
      (.cons ⟨binds, nofun⟩ .nil)))
  exact nonces_used_once (sampleChain_verifies (run.imp fun _ _ _ step => step.1)).1
    (sampleChain_everyStep run)

end Sample

end Hunter.IssueAgent
