import Hunter.IssueAgent.Ledger

/-!
What folding one record may do, said once: the six ways a record is admitted, each
with its guards and the view it leaves. A chain that verifies is a run of these.
-/

namespace Hunter.IssueAgent

/-- The record enters a view as the payload of one of the six kinds of step. -/
inductive Admits (view : LedgerView) (record : Record) : LedgerView → Prop where
  | authorize (evidence : AuthorizedEvidence)
      (payload : record.payload = .transition (.authorized evidence))
      (fresh : view.authorizations.get? record.authorizationId = none)
      (role : record.recordedBy.role ∈ writerRoles .authorized)
      (unclaimed : record.authorizationId ∉ view.claimed)
      (inactive : view.active = none)
      (bindings : checkAuthorizedBindings record evidence view = .ok ()) :
      Admits view record
        (({ view with
            claimed := view.claimed ++ [record.authorizationId]
            active := some record.authorizationId } : LedgerView).append
          (.start record.authorizationId evidence) record)
  | enter (evidence : Evidence) (current : AuthorizationView)
      (payload : record.payload = .transition evidence)
      (found : view.authorizations.get? record.authorizationId = some current)
      (legal : evidence.state ∈ legalTransitions (some current.state))
      (role : record.recordedBy.role ∈ writerRoles evidence.state)
      (left : checkFailed current evidence = .ok ())
      (bindings : checkCrossBindings current record evidence = .ok ()) :
      Admits view record
        (({ view with active := if evidence.state.terminal then none else view.active } :
            LedgerView).append (current.enter evidence) record)
  | request (state : State) (evidence : ResumeRequested) (current : AuthorizationView)
      (payload : record.payload = .resumeRequested state evidence)
      (found : activeForResume view record = .ok current)
      (stage : current.state = (resumeStages evidence.stage).1)
      (none_pending : current.pendingResume = none)
      (next : evidence.attempt.val = current.resumeAttempts evidence.stage + 1)
      (cap : withinCap (resumeStages evidence.stage).2
        (current.resumeAttempts evidence.stage + 1)) :
      Admits view record (view.append (current.request evidence) record)
  | abandon (state : State) (evidence : ResumeAbandoned) (current : AuthorizationView)
      (pending : PendingResume)
      (payload : record.payload = .resumeAbandoned state evidence)
      (found : activeForResume view record = .ok current)
      (is_pending : current.pendingResume = some pending)
      (nonce : pending.nonce = evidence.nonce) :
      Admits view record (view.append current.abandon record)
  | bind (state : State) (evidence : ResumeBound) (current : AuthorizationView)
      (pending : PendingResume)
      (payload : record.payload = .resumeBound state evidence)
      (found : activeForResume view record = .ok current)
      (is_pending : current.pendingResume = some pending)
      (nonce : pending.nonce = evidence.nonce)
      (unbound : pending.boundRunId = none)
      (run : evidence.runId = record.recordedBy.runId) :
      Admits view record (view.append (current.bind pending evidence.runId) record)

theorem activeForResume_ok {view : LedgerView} {record : Record} {current : AuthorizationView} :
    activeForResume view record = .ok current ↔
      view.authorizations.get? record.authorizationId = some current ∧
        (current.terminal = false ∧ view.active = some record.authorizationId) ∧
        record.recordedBy.role ∈ resumeRoles ∧ record.payload.state = current.state := by
  unfold activeForResume
  cases view.authorizations.get? record.authorizationId with
  | none => simp
  | some found =>
      simp only [check_ok, require_ok, pure, Except.pure, Except.ok.injEq, Option.some.injEq,
        and_assoc]
      constructor
      · rintro ⟨terminal, active, role, state, rfl⟩
        exact ⟨rfl, terminal, active, role, state⟩
      · rintro ⟨rfl, terminal, active, role, state⟩
        exact ⟨terminal, active, role, state, rfl⟩

theorem admits_of_transition {view view' : LedgerView} {record : Record} {evidence : Evidence}
    {current : AuthorizationView} (payload : record.payload = .transition evidence)
    (h : foldTransition view record evidence = .ok (view', current)) :
    Admits view record (view'.append current record) := by
  simp only [foldTransition, check_ok, require_ok] at h
  obtain ⟨legal, role, rest⟩ := h
  cases found : view.authorizations.get? record.authorizationId with
  | none =>
      rw [found, Option.map_none, mem_legalTransitions_none] at legal
      cases evidence with
      | authorized bound =>
          simp only [check_ok, require_ok, pure, Except.pure, Except.ok.injEq,
            Prod.mk.injEq] at rest
          obtain ⟨unclaimed, inactive, bindings, rfl, rfl⟩ := rest
          exact .authorize bound payload found role unclaimed inactive bindings
      | _ => cases legal
  | some before =>
      rw [found, Option.map_some] at legal
      cases evidence with
      | authorized bound => cases mem_legalTransitions_authorized.mp legal
      | _ =>
          simp only [found, check_ok, pure, Except.pure, Except.ok.injEq,
            Prod.mk.injEq] at rest
          obtain ⟨left, bindings, rfl, rfl⟩ := rest
          exact .enter _ before payload found legal role left bindings

/-- The inversion of the fold: every guard that held, and the view it leaves. -/
theorem admits_of_foldRecord {view view' : LedgerView} {record : Record}
    (h : foldRecord view record = .ok view') : Admits view record view' := by
  simp only [foldRecord, bind_ok, pure, Except.pure, Except.ok.injEq] at h
  obtain ⟨⟨folded, current⟩, step, rfl⟩ := h
  unfold foldPayload at step
  split at step
  · exact admits_of_transition ‹_› step
  · simp only [bind_ok, pure, Except.pure, Except.ok.injEq, Prod.mk.injEq] at step
    obtain ⟨before, found, next, folds, rfl, rfl⟩ := step
    simp only [foldRequested, check_ok, require_ok, pure, Except.pure,
      Except.ok.injEq] at folds
    obtain ⟨⟨stage, none_pending⟩, ⟨attempt, cap⟩, rfl⟩ := folds
    exact .request _ _ before ‹_› found stage none_pending attempt cap
  · simp only [bind_ok, pure, Except.pure, Except.ok.injEq, Prod.mk.injEq] at step
    obtain ⟨before, found, next, folds, rfl, rfl⟩ := step
    unfold foldAbandoned at folds
    split at folds
    · cases folds
    · simp only [check_ok, require_ok, pure, Except.pure, Except.ok.injEq] at folds
      obtain ⟨nonce, rfl⟩ := folds
      exact .abandon _ _ before _ ‹_› found ‹_› nonce
  · simp only [bind_ok, pure, Except.pure, Except.ok.injEq, Prod.mk.injEq] at step
    obtain ⟨before, found, next, folds, rfl, rfl⟩ := step
    unfold foldBound at folds
    split at folds
    · cases folds
    · simp only [check_ok, require_ok, pure, Except.pure, Except.ok.injEq] at folds
      obtain ⟨⟨nonce, unbound⟩, run, rfl⟩ := folds
      exact .bind _ _ before _ ‹_› found ‹_› nonce unbound run

/-- A record that is admitted folds into the view it is said to leave. -/
theorem foldRecord_of_admits {view view' : LedgerView} {record : Record}
    (h : Admits view record view') : foldRecord view record = .ok view' := by
  cases h with
  | authorize evidence payload fresh role unclaimed inactive bindings =>
      have legal : (Evidence.authorized evidence).state ∈ legalTransitions none :=
        List.mem_singleton.mpr rfl
      have writes : record.recordedBy.role ∈ writerRoles (Evidence.authorized evidence).state := role
      simp only [foldRecord, foldPayload, payload, foldTransition, fresh, Option.map_none,
        require_of legal, require_of writes, require_of unclaimed, require_of inactive, bindings,
        ok_bind, pure_eq_ok]
  | enter evidence current payload found legal role left bindings =>
      cases evidence with
      | authorized bound => cases mem_legalTransitions_authorized.mp legal
      | _ =>
          simp only [foldRecord, foldPayload, payload, foldTransition, found, Option.map_some,
            require_of legal, require_of role, left, bindings, ok_bind, pure_eq_ok]
  | request state evidence current payload found stage none_pending next cap =>
      have attempt : evidence.attempt.val = (current.resumeAttempts evidence.stage + 1 : Nat) := next
      simp only [foldRecord, foldPayload, payload, foldRequested, found,
        require_of (And.intro stage none_pending), require_of (And.intro attempt cap), ok_bind,
        pure_eq_ok]
  | abandon state evidence current pending payload found is_pending nonce =>
      simp only [foldRecord, foldPayload, payload, foldAbandoned, found, is_pending,
        require_of nonce, ok_bind, pure_eq_ok]
  | bind state evidence current pending payload found is_pending nonce unbound run =>
      simp only [foldRecord, foldPayload, payload, foldBound, found, is_pending,
        require_of (And.intro nonce unbound), require_of run, ok_bind, pure_eq_ok]

theorem foldRecord_iff {view view' : LedgerView} {record : Record} :
    foldRecord view record = .ok view' ↔ Admits view record view' :=
  ⟨admits_of_foldRecord, foldRecord_of_admits⟩

/-- The record stands next on the chain of this repository and Issue. -/
def Linked (view : LedgerView) (record : Record) : Prop :=
  record.recordSeq.val = view.nextSeq ∧ record.prevRecordSha256 = view.headRecordDigest ∧
    record.repositoryId.val = view.repositoryId ∧ record.issueNumber.val = view.issueNumber

def Extends (view : LedgerView) (record : Record) (view' : LedgerView) : Prop :=
  Linked view record ∧ Admits view record view'

section Chain

variable [Ed25519] {trust : TrustRoots} {provenance : ProvenanceCheck}

theorem applyRecord_ok {view view' : LedgerView} {json : Json} {index : Option Json}
    (h : applyRecord trust provenance view json index = .ok view') :
    ∃ record, decodeRecord json = .ok record ∧ checkRecord view record trust provenance = .ok () ∧
      foldRecord view record = .ok view' ∧ checkIndex view' index = .ok () := by
  simp only [applyRecord, bind_ok, pure, Except.pure, Except.ok.injEq] at h
  obtain ⟨record, decoded, _, checked, folded, folds, _, stored, rfl⟩ := h
  exact ⟨record, decoded, checked, folds, stored⟩

theorem linked_of_checkRecord {view : LedgerView} {record : Record}
    (h : checkRecord view record trust provenance = .ok ()) : Linked view record := by
  simp only [checkRecord, check_ok, require_ok] at h
  obtain ⟨-, seq, prev, ⟨repository, issue⟩, -⟩ := h
  exact ⟨seq, prev, repository, issue⟩

theorem applyRecord_extends {view view' : LedgerView} {json : Json} {index : Option Json}
    (h : applyRecord trust provenance view json index = .ok view') :
    ∃ record, decodeRecord json = .ok record ∧ Extends view record view' := by
  obtain ⟨record, decoded, checked, folds, -⟩ := applyRecord_ok h
  exact ⟨record, decoded, linked_of_checkRecord checked, admits_of_foldRecord folds⟩

/-- The records of a chain, decoded in order. -/
def Decoded (entries : List (Json × Option Json)) (records : List Record) : Prop :=
  List.Forall₂ (fun entry record => decodeRecord entry.1 = .ok record) entries records

/-- A chain that verifies is a run of admitted records. -/
theorem verifyChain_run {repositoryId issueNumber : Int} {entries : List (Json × Option Json)}
    {view : LedgerView}
    (h : verifyChain trust provenance repositoryId issueNumber entries = .ok view) :
    ∃ records, Decoded entries records ∧
      Run Extends (emptyView repositoryId issueNumber) records view :=
  (Run.of_foldlM h).relabel fun _ _ _ step => applyRecord_extends step

/-- Every record of a chain meets a condition on the view it is applied to. -/
def EveryStep (trust : TrustRoots) (provenance : ProvenanceCheck)
    (C : LedgerView → Record → Prop) : LedgerView → List (Json × Option Json) → Prop
  | _, [] => True
  | view, entry :: entries => ∀ record view', decodeRecord entry.1 = .ok record →
      applyRecord trust provenance view entry.1 entry.2 = .ok view' →
      C view record ∧ EveryStep trust provenance C view' entries

/-- A chain that verifies and meets a condition at every step is a run of such steps. -/
theorem verifyChain_guarded {C : LedgerView → Record → Prop} {repositoryId issueNumber : Int}
    {entries : List (Json × Option Json)} {view : LedgerView}
    (h : verifyChain trust provenance repositoryId issueNumber entries = .ok view)
    (steps : EveryStep trust provenance C (emptyView repositoryId issueNumber) entries) :
    ∃ records, Decoded entries records ∧
      Run (fun view record view' => Extends view record view' ∧ C view record)
        (emptyView repositoryId issueNumber) records view := by
  rw [verifyChain] at h
  generalize emptyView repositoryId issueNumber = start at h steps ⊢
  induction entries generalizing start with
  | nil =>
      cases h
      exact ⟨[], .nil, .nil⟩
  | cons entry entries ih =>
      rw [List.foldlM_cons] at h
      obtain ⟨next, first, rest⟩ := bind_ok.mp h
      obtain ⟨record, decoded, extended⟩ := applyRecord_extends first
      obtain ⟨holds, others⟩ := steps record next decoded first
      obtain ⟨records, each, run⟩ := ih next rest others
      exact ⟨record :: records, .cons decoded each, .cons ⟨extended, holds⟩ run⟩

end Chain

end Hunter.IssueAgent
