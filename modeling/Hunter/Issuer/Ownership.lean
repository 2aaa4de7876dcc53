import Hunter.Issuer.Ledger
import Hunter.Machine.Run

/-!
Who may change a row of the ledger. Calls of any instances interleave, with any readings of
their clocks. A row is made by the one claim that goes through, only the instance that
claimed it moves it on, and a recovery fails it only after its lease; texts of times are
ordered as the times, so the comparisons of the database are those of the moments.
-/

namespace Hunter.Issuer

open Calendar Fallible

inductive Operation where
  | claim (authorization : IssueAgentAuthorization) (claimedAt : Moment)
  | recordDispatch (authorization : IssueAgentAuthorization) (handoff : Ledger.Handoff)
      (dispatchedAt : Moment)
  | renewLease (authorization : IssueAgentAuthorization) (healthAt : Moment)
  | complete (authorization : IssueAgentAuthorization) (completedAt : Moment)
      (provider headAfter : Option String)
  | fail (authorization : IssueAgentAuthorization) (failedAt : Moment) (failure : Ledger.Failure)
  | recoverExpiredOnStartup (failedAt : Moment)
  deriving DecidableEq, Repr

def perform (ledger : Ledger) (instanceId : String) : Operation → Except Exn Ledger
  | .claim authorization claimedAt => ledger.claim instanceId authorization claimedAt
  | .recordDispatch authorization handoff dispatchedAt =>
      ledger.recordDispatch instanceId authorization handoff dispatchedAt
  | .renewLease authorization healthAt => ledger.renewLease instanceId authorization healthAt
  | .complete authorization completedAt provider headAfter =>
      ledger.complete instanceId authorization completedAt provider headAfter
  | .fail authorization failedAt failure => ledger.fail instanceId authorization failedAt failure
  | .recoverExpiredOnStartup failedAt => .ok (ledger.recoverExpiredOnStartup failedAt).2

/-- A call of an instance, and whether it went through. -/
structure Call where
  instanceId : String
  operation : Operation
  accepted : Bool
  deriving DecidableEq, Repr

/-- A call that is refused is rolled back. -/
inductive Step (ledger : Ledger) (call : Call) (after : Ledger) : Prop where
  | accepted : perform ledger call.instanceId call.operation = .ok after → call.accepted = true →
      Step ledger call after
  | refused {exn : Exn} : perform ledger call.instanceId call.operation = .error exn →
      call.accepted = false → after = ledger → Step ledger call after

/-- The call claims the authorization successfully. -/
def Call.claims (id : String) (call : Call) : Bool :=
  match call.operation with
  | .claim authorization _ => call.accepted && authorization.authorizationId = id
  | _ => false

/-- The call goes on with an authorization that was claimed. -/
def Operation.continues (id : String) : Operation → Prop
  | .recordDispatch authorization _ _ => authorization.authorizationId = id
  | .renewLease authorization _ => authorization.authorizationId = id
  | .complete authorization _ _ _ => authorization.authorizationId = id
  | _ => False

inductive Moves : State → State → Prop where
  | dispatch : Moves .claimed .dispatched
  | renew : Moves .dispatched .dispatched
  | complete : Moves .dispatched .completed
  | fail {before : State} : before = .claimed ∨ before = .dispatched → Moves before .failed

def State.terminal (state : State) : Prop := state = .completed ∨ state = .failed

theorem Moves.active {before after : State} (moves : Moves before after) : ¬before.terminal := by
  cases moves with
  | dispatch => exact fun ends => ends.elim nofun nofun
  | renew => exact fun ends => ends.elim nofun nofun
  | complete => exact fun ends => ends.elim nofun nofun
  | fail active =>
      intro ends
      rcases active with rfl | rfl
      · exact ends.elim nofun nofun
      · exact ends.elim nofun nofun

/-- The lease of a row ends at a moment, written as the text of it. -/
def Leased (entry : IssueAgentLedgerEntry) : Prop :=
  ∃ expiry : Moment, entry.leaseExpiresAt = some expiry.isoformat

/-- What a row turns into by a call that changes it. -/
structure Turns (before after : IssueAgentLedgerEntry) : Prop where
  moves : Moves before.state after.state
  owner : after.ownerInstanceId = before.ownerInstanceId
  leased : Leased before → Leased after

/-- The lease of the row ended before the moment. -/
def Lapsed (entry : IssueAgentLedgerEntry) (now : Moment) : Prop :=
  ∃ expiry : Moment, entry.leaseExpiresAt = some expiry.isoformat ∧ expiry < now

inductive Change (instanceId : String) (operation : Operation) (before after : IssueAgentLedgerEntry) :
    Prop where
  | same : after = before → Change instanceId operation before after
  | owned : (∀ now, operation ≠ .recoverExpiredOnStartup now) →
      before.ownerInstanceId = some instanceId → Turns before after →
      Change instanceId operation before after
  | recovered {now : Moment} : operation = .recoverExpiredOnStartup now → Turns before after →
      after.state = .failed → (Leased before → Lapsed before now) →
      Change instanceId operation before after

/-- What a call that goes through does to the row of an authorization. -/
inductive Effect (instanceId : String) (operation : Operation) (id : String) (ledger after : Ledger) :
    Prop where
  | claimed {authorization : IssueAgentAuthorization} {claimedAt : Moment}
      {entry : IssueAgentLedgerEntry} : operation = .claim authorization claimedAt →
      authorization.authorizationId = id → ledger.row? id = none → after.row? id = some entry →
      entry.state = .claimed → entry.ownerInstanceId = some instanceId → Leased entry →
      Effect instanceId operation id ledger after
  | absent : ledger.row? id = none → after.row? id = none → Effect instanceId operation id ledger after
  | changed {entry new : IssueAgentLedgerEntry} : ledger.row? id = some entry →
      after.row? id = some new → Change instanceId operation entry new →
      Effect instanceId operation id ledger after

theorem update_effect {ledger : Ledger} {selects : IssueAgentLedgerEntry → Bool}
    {sets : IssueAgentLedgerEntry → IssueAgentLedgerEntry}
    {keeps : ∀ entry, (sets entry).authorizationId = entry.authorizationId} {instanceId : String}
    {operation : Operation}
    (change : ∀ entry, selects entry = true → Change instanceId operation entry (sets entry))
    (id : String) : Effect instanceId operation id ledger (ledger.update selects sets keeps).2 := by
  have rows := Table.row?_update ledger selects sets keeps id
  cases found : ledger.row? id with
  | none =>
      rw [found] at rows
      exact .absent found rows
  | some entry =>
      rw [found] at rows
      refine .changed found rows ?_
      unfold Table.changed
      split
      · rename_i selected
        exact change entry selected
      · exact .same rfl

theorem advance_ok {ledger after : Ledger} {selects : IssueAgentLedgerEntry → Bool}
    {sets : IssueAgentLedgerEntry → IssueAgentLedgerEntry}
    {keeps : ∀ entry, (sets entry).authorizationId = entry.authorizationId} {failure : String}
    (done : ledger.advance selects sets keeps failure = .ok after) :
    after = (ledger.update selects sets keeps).2 ∧ (ledger.update selects sets keeps).1 = 1 := by
  unfold Ledger.advance at done
  dsimp only at done
  split_ifs at done with one
  cases done
  exact ⟨rfl, not_not.mp one⟩

theorem ownedBy_iff {instanceId : String} {authorization : IssueAgentAuthorization}
    {entry : IssueAgentLedgerEntry} :
    entry.ownedBy instanceId authorization = true ↔
      entry.authorizationId = authorization.authorizationId ∧
        entry.authorizationDigest = authorization.contentDigest ∧
          entry.ownerInstanceId = some instanceId := by
  simp only [IssueAgentLedgerEntry.ownedBy, Bool.and_eq_true, decide_eq_true_eq, and_assoc]

/-- What an update does that only the owner of an authorization makes. -/
structure Advance (ledger after : Ledger) (instanceId : String) (operation : Operation)
    (authorization : IssueAgentAuthorization) (active : State → Prop) : Prop where
  effect : ∀ id, Effect instanceId operation id ledger after
  active : ∃ entry, ledger.row? authorization.authorizationId = some entry ∧ active entry.state

theorem advance_of (guard : IssueAgentLedgerEntry → Bool) {ledger after : Ledger}
    {selects : IssueAgentLedgerEntry → Bool}
    {sets : IssueAgentLedgerEntry → IssueAgentLedgerEntry}
    {keeps : ∀ entry, (sets entry).authorizationId = entry.authorizationId} {failure : String}
    {instanceId : String} {operation : Operation} {authorization : IssueAgentAuthorization}
    {active : State → Prop}
    (done : ledger.advance selects sets keeps failure = .ok after)
    (owned : ∀ entry, selects entry = true →
      entry.ownedBy instanceId authorization = true ∧ guard entry = true)
    (states : ∀ entry, guard entry = true → active entry.state)
    (turns : ∀ entry, guard entry = true → Turns entry (sets entry))
    (own : ∀ now, operation ≠ .recoverExpiredOnStartup now) :
    Advance ledger after instanceId operation authorization active := by
  obtain ⟨rfl, one⟩ := advance_ok done
  constructor
  · refine update_effect fun entry selected => ?_
    obtain ⟨mine, holds⟩ := owned entry selected
    exact .owned own (ownedBy_iff.mp mine).2.2 (turns entry holds)
  · obtain ⟨entry, found, selected⟩ := Table.update_selects
      (fun entry selected => (ownedBy_iff.mp (owned entry selected).1).1)
      (show (ledger.update selects sets keeps).1 ≠ 0 by omega)
    exact ⟨entry, found, states entry (owned entry selected).2⟩

theorem Turns.of_lease (expiry : Moment) {before after : IssueAgentLedgerEntry}
    (moves : Moves before.state after.state) (owner : after.ownerInstanceId = before.ownerInstanceId)
    (lease : after.leaseExpiresAt = some expiry.isoformat) : Turns before after :=
  ⟨moves, owner, fun _ => ⟨expiry, lease⟩⟩

theorem Turns.of_same {before after : IssueAgentLedgerEntry}
    (moves : Moves before.state after.state) (owner : after.ownerInstanceId = before.ownerInstanceId)
    (lease : after.leaseExpiresAt = before.leaseExpiresAt) : Turns before after :=
  ⟨moves, owner, fun ⟨expiry, same⟩ => ⟨expiry, lease.trans same⟩⟩

variable {ledger after : Ledger} {instanceId : String}

theorem recordDispatch_ok {authorization : IssueAgentAuthorization} {handoff : Ledger.Handoff}
    {now : Moment} (done : ledger.recordDispatch instanceId authorization handoff now = .ok after) :
    Advance ledger after instanceId (.recordDispatch authorization handoff now) authorization
      (· = .claimed) := by
  obtain ⟨-, done⟩ := require_bind_ok.mp done
  obtain ⟨expiry, -, done⟩ := bind_ok.mp done
  refine advance_of (fun entry => entry.state = .claimed) done ?_ ?_ ?_ nofun
  · intro entry selected
    simp only [Bool.and_eq_true] at selected
    exact selected.1
  · exact fun entry holds => of_decide_eq_true holds
  · intro entry holds
    refine .of_lease expiry ?_ rfl rfl
    rw [of_decide_eq_true holds]
    exact .dispatch

theorem renewLease_ok {authorization : IssueAgentAuthorization} {now : Moment}
    (done : ledger.renewLease instanceId authorization now = .ok after) :
    Advance ledger after instanceId (.renewLease authorization now) authorization (· = .dispatched) := by
  obtain ⟨expiry, -, done⟩ := bind_ok.mp done
  refine advance_of (fun entry => entry.state = .dispatched) done ?_ ?_ ?_ nofun
  · exact fun entry selected => Bool.and_eq_true_iff.mp selected
  · exact fun entry holds => of_decide_eq_true holds
  · intro entry holds
    refine .of_lease expiry ?_ rfl rfl
    show Moves entry.state entry.state
    rw [of_decide_eq_true holds]
    exact .renew

theorem complete_ok {authorization : IssueAgentAuthorization} {now : Moment}
    {provider headAfter : Option String}
    (done : ledger.complete instanceId authorization now provider headAfter = .ok after) :
    Advance ledger after instanceId (.complete authorization now provider headAfter) authorization
      (· = .dispatched) := by
  refine advance_of (fun entry => entry.state = .dispatched) done ?_ ?_ ?_ nofun
  · exact fun entry selected => Bool.and_eq_true_iff.mp selected
  · exact fun entry holds => of_decide_eq_true holds
  · intro entry holds
    refine .of_same ?_ rfl rfl
    rw [of_decide_eq_true holds]
    exact .complete

theorem fail_ok {authorization : IssueAgentAuthorization} {now : Moment} {failure : Ledger.Failure}
    (done : ledger.fail instanceId authorization now failure = .ok after) :
    Advance ledger after instanceId (.fail authorization now failure) authorization
      (fun state => state = .claimed ∨ state = .dispatched) := by
  refine advance_of (fun entry => entry.state = .claimed || entry.state = .dispatched)
    done ?_ ?_ ?_ nofun
  · exact fun entry selected => Bool.and_eq_true_iff.mp selected
  · intro entry holds
    simpa only [Bool.or_eq_true, decide_eq_true_eq] using holds
  · intro entry holds
    refine .of_same (.fail ?_) rfl rfl
    simpa only [Bool.or_eq_true, decide_eq_true_eq] using holds

theorem recover_effect (now : Moment) (id : String) :
    Effect instanceId (.recoverExpiredOnStartup now) id ledger
      (ledger.recoverExpiredOnStartup now).2 := by
  refine update_effect (fun entry selected => ?_) id
  obtain ⟨active, ended⟩ := Bool.and_eq_true_iff.mp selected
  refine .recovered rfl (.of_same (.fail ?_) rfl rfl) rfl fun ⟨expiry, lease⟩ => ⟨expiry, lease, ?_⟩
  · simpa only [Bool.or_eq_true, decide_eq_true_eq] using active
  · rw [lease, Option.any_some] at ended
    exact isoformat_lt_iff.mp (of_decide_eq_true ended)

theorem claim_ok {authorization : IssueAgentAuthorization} {now : Moment}
    (done : ledger.claim instanceId authorization now = .ok after) :
    ledger.row? authorization.authorizationId = none ∧
      after.row? authorization.authorizationId ≠ none ∧
        ∀ id, Effect instanceId (.claim authorization now) id ledger after := by
  obtain ⟨expiry, -, done⟩ := bind_ok.mp done
  unfold Ledger.claimRow at done
  split at done
  · cases done
  · rename_i vacant
    split at done
    · rename_i inserted
      cases done
      refine ⟨vacant, ?_, fun id => ?_⟩
      · rw [Table.row?_insert inserted, if_pos rfl]
        exact Option.some_ne_none _
      have rows := Table.row?_insert inserted id
      split at rows
      · rename_i same
        exact .claimed rfl same.symm (same ▸ vacant) rows rfl rfl ⟨expiry, rfl⟩
      · cases found : ledger.row? id with
        | none => exact .absent found (rows.trans found)
        | some entry => exact .changed found (rows.trans found) (.same rfl)
    · cases done

theorem perform_effect {operation : Operation}
    (done : perform ledger instanceId operation = .ok after) (id : String) :
    Effect instanceId operation id ledger after := by
  cases operation with
  | claim authorization now => exact (claim_ok done).2.2 id
  | recordDispatch authorization handoff now => exact (recordDispatch_ok done).effect id
  | renewLease authorization now => exact (renewLease_ok done).effect id
  | complete authorization now provider headAfter => exact (complete_ok done).effect id
  | fail authorization now failure => exact (fail_ok done).effect id
  | recoverExpiredOnStartup now =>
      cases done
      exact recover_effect now id

theorem Step.effect {call : Call} (step : Step ledger call after) (id : String) :
    Effect call.instanceId call.operation id ledger after := by
  cases step with
  | accepted done _ => exact perform_effect done id
  | refused _ _ same =>
      subst same
      cases found : after.row? id with
      | none => exact .absent found found
      | some entry => exact .changed found found (.same rfl)

/-- A claim that goes through makes the row of the authorization. -/
theorem Step.claims {call : Call} {id : String} (step : Step ledger call after)
    (claims : call.claims id = true) : ledger.row? id = none ∧ after.row? id ≠ none := by
  obtain ⟨instanceId, operation, accepted⟩ := call
  cases operation with
  | claim authorization now =>
      obtain ⟨went, same⟩ := Bool.and_eq_true_iff.mp claims
      cases step with
      | accepted done _ =>
          obtain ⟨vacant, made, -⟩ := claim_ok done
          exact of_decide_eq_true same ▸ ⟨vacant, made⟩
      | refused _ stopped _ => exact absurd (went.symm.trans stopped) nofun
  | recordDispatch _ _ _ => exact absurd claims nofun
  | renewLease _ _ => exact absurd claims nofun
  | complete _ _ _ _ => exact absurd claims nofun
  | fail _ _ _ => exact absurd claims nofun
  | recoverExpiredOnStartup _ => exact absurd claims nofun

/-- Only an authorization whose row is active is dispatched, renewed or completed. -/
theorem Step.continues {call : Call} {id : String} (step : Step ledger call after)
    (continues : call.operation.continues id) (went : call.accepted = true) :
    ∃ entry, ledger.row? id = some entry ∧ ¬entry.state.terminal := by
  obtain ⟨instanceId, operation, accepted⟩ := call
  cases step with
  | accepted done _ =>
      cases operation with
      | recordDispatch authorization handoff now =>
          obtain ⟨entry, found, state⟩ := (recordDispatch_ok done).active
          refine ⟨entry, continues ▸ found, ?_⟩
          rw [state]
          exact Moves.dispatch.active
      | renewLease authorization now =>
          obtain ⟨entry, found, state⟩ := (renewLease_ok done).active
          refine ⟨entry, continues ▸ found, ?_⟩
          rw [state]
          exact Moves.renew.active
      | complete authorization now provider headAfter =>
          obtain ⟨entry, found, state⟩ := (complete_ok done).active
          refine ⟨entry, continues ▸ found, ?_⟩
          rw [state]
          exact Moves.renew.active
      | claim _ _ => exact continues.elim
      | fail _ _ _ => exact continues.elim
      | recoverExpiredOnStartup _ => exact continues.elim
  | refused _ stopped _ => exact absurd (went.symm.trans stopped) nofun

theorem Step.terminal {call : Call} {id : String} {entry : IssueAgentLedgerEntry}
    (step : Step ledger call after) (found : ledger.row? id = some entry)
    (ends : entry.state.terminal) : after.row? id = some entry := by
  cases step.effect id with
  | claimed _ _ vacant _ _ _ _ => exact absurd (vacant.symm.trans found) nofun
  | absent vacant _ => exact absurd (vacant.symm.trans found) nofun
  | changed found' there change =>
      cases found.symm.trans found'
      cases change with
      | same same => exact same ▸ there
      | owned _ _ turns => exact absurd ends turns.moves.active
      | recovered _ turns _ _ => exact absurd ends turns.moves.active

theorem terminal_stays {calls : List Call} {id : String} {entry : IssueAgentLedgerEntry}
    (run : Run Step ledger calls after) (found : ledger.row? id = some entry)
    (ends : entry.state.terminal) : after.row? id = some entry :=
  run.preserves (fun state => Table.row? state id = some entry)
    (fun _ _ _ there step => step.terminal there ends) found

/-- An authorization whose row has ended is not gone on with. -/
theorem terminal_refuses {calls : List Call} {id : String} {entry : IssueAgentLedgerEntry}
    (run : Run Step ledger calls after) (found : ledger.row? id = some entry)
    (ends : entry.state.terminal) {call : Call} (inside : call ∈ calls)
    (continues : call.operation.continues id) : call.accepted = false := by
  obtain ⟨i, bound, rfl⟩ := List.getElem_of_mem inside
  obtain ⟨before, next, front, step, -⟩ := run.split_at (List.getElem?_eq_getElem bound)
  have there := terminal_stays front found ends
  rw [← Bool.not_eq_true]
  intro went
  obtain ⟨other, found', active⟩ := step.continues continues went
  cases there.symm.trans found'
  exact active ends

/-- A row belongs to the instance whose claim went through, and it has a lease. -/
structure History (calls : List Call) (ledger : Ledger) : Prop where
  claimer : ∀ {id entry}, ledger.row? id = some entry →
    ∃ call ∈ calls, call.claims id = true ∧ entry.ownerInstanceId = some call.instanceId
  leased : ∀ {id entry}, ledger.row? id = some entry → Leased entry
  unclaimed : ∀ {id}, ledger.row? id = none → calls.countP (Call.claims id) = 0
  once : ∀ id, calls.countP (Call.claims id) ≤ 1

theorem history_nil : History [] Table.empty where
  claimer found := absurd found nofun
  leased found := absurd found nofun
  unclaimed _ := rfl
  once _ := Nat.zero_le _

theorem History.step {calls : List Call} {call : Call} (history : History calls ledger)
    (step : Step ledger call after) : History (calls ++ [call]) after where
  claimer := by
    intro id entry there
    cases step.effect id with
    | claimed named same vacant made _ owner _ =>
        cases there.symm.trans made
        refine ⟨call, List.mem_append_right _ (List.mem_singleton_self call), ?_, owner⟩
        cases step with
        | accepted _ went => simp [Call.claims, named, same, went]
        | refused _ _ same => exact absurd ((same ▸ there).symm.trans vacant) nofun
    | absent _ none => exact absurd (there.symm.trans none) nofun
    | changed found there' change =>
        cases there.symm.trans there'
        obtain ⟨claim, inside, claims, owner⟩ := history.claimer found
        refine ⟨claim, List.mem_append_left _ inside, claims, ?_⟩
        cases change with
        | same same => exact same ▸ owner
        | owned _ _ turns => exact turns.owner.trans owner
        | recovered _ turns _ _ => exact turns.owner.trans owner
  leased := by
    intro id entry there
    cases step.effect id with
    | claimed _ _ _ made _ _ leased =>
        cases there.symm.trans made
        exact leased
    | absent _ none => exact absurd (there.symm.trans none) nofun
    | changed found there' change =>
        cases there.symm.trans there'
        have leased := history.leased found
        cases change with
        | same same => exact same ▸ leased
        | owned _ _ turns => exact turns.leased leased
        | recovered _ turns _ _ => exact turns.leased leased
  unclaimed := by
    intro id vacant
    have before : ledger.row? id = none := by
      cases step.effect id with
      | claimed _ _ none _ _ _ _ => exact none
      | absent none _ => exact none
      | changed _ there _ => exact absurd (vacant.symm.trans there) nofun
    have refused : call.claims id = false := by
      rw [← Bool.not_eq_true]
      exact fun claims => (step.claims claims).2 vacant
    rw [List.countP_append, history.unclaimed before, List.countP_singleton, refused]
    rfl
  once := by
    intro id
    rw [List.countP_append, List.countP_singleton]
    split
    · rename_i claims
      rw [history.unclaimed (step.claims claims).1]
    · exact history.once id

theorem run_history {calls : List Call} (run : Run Step Table.empty calls ledger) :
    History calls ledger :=
  run.invariant History history_nil fun _ _ _ _ _ history step => history.step step

/-- What the ledger promises of one authorization at every call of every run. -/
structure Governed (calls : List Call) (ledger : Ledger) (call : Call) (after : Ledger) (id : String) :
    Prop where
  made : ledger.row? id = none → ∀ entry, after.row? id = some entry →
    entry.state = .claimed ∧ call.claims id = true
  moves : ∀ entry, ledger.row? id = some entry → ∃ new, after.row? id = some new ∧
    (new = entry ∨ Moves entry.state new.state)
  mover : ∀ entry, ledger.row? id = some entry → after.row? id ≠ some entry →
    (∃ claim ∈ calls, claim.claims id = true ∧ claim.instanceId = call.instanceId) ∨
      ∃ now, call.operation = .recoverExpiredOnStartup now ∧ Lapsed entry now
  terminal : ∀ entry, ledger.row? id = some entry → entry.state.terminal →
    ∀ later final, Run Step ledger later final → final.row? id = some entry
  recovered : ∀ now, call.operation = .recoverExpiredOnStartup now → after.row? id ≠ ledger.row? id →
    ∀ later final, Run Step after later final → ∀ other ∈ later, other.operation.continues id →
      other.accepted = false

/-- An authorization is claimed at most once, only its claimer or a recovery after its lease
changes its row, and a row that has ended stays as it is. -/
theorem ledger_ownership {calls : List Call} (run : Run Step Table.empty calls ledger) (id : String) :
    calls.countP (Call.claims id) ≤ 1 ∧
      ∀ call after, Step ledger call after → Governed calls ledger call after id := by
  have history := run_history run
  refine ⟨history.once id, fun call after step => ⟨?_, ?_, ?_, ?_, ?_⟩⟩
  · intro vacant entry there
    obtain ⟨claim, inside, claims, -⟩ := (history.step step).claimer there
    have claimed : call.claims id = true := by
      rcases List.mem_append.mp inside with old | new
      · have none := List.countP_eq_zero.mp (history.unclaimed vacant) claim old
        exact absurd claims none
      · exact List.mem_singleton.mp new ▸ claims
    cases step.effect id with
    | claimed _ _ _ made state _ _ =>
        cases there.symm.trans made
        exact ⟨state, claimed⟩
    | absent _ none => exact absurd (there.symm.trans none) nofun
    | changed found _ _ => exact absurd (vacant.symm.trans found) nofun
  · intro entry found
    cases step.effect id with
    | claimed _ _ vacant _ _ _ _ => exact absurd (vacant.symm.trans found) nofun
    | absent vacant _ => exact absurd (vacant.symm.trans found) nofun
    | changed found' there change =>
        cases found.symm.trans found'
        cases change with
        | same same => exact ⟨_, there, Or.inl same⟩
        | owned _ _ turns => exact ⟨_, there, Or.inr turns.moves⟩
        | recovered _ turns _ _ => exact ⟨_, there, Or.inr turns.moves⟩
  · intro entry found differs
    cases step.effect id with
    | claimed _ _ vacant _ _ _ _ => exact absurd (vacant.symm.trans found) nofun
    | absent vacant _ => exact absurd (vacant.symm.trans found) nofun
    | changed found' there change =>
        cases found.symm.trans found'
        cases change with
        | same same => exact absurd (same ▸ there) differs
        | owned _ owner _ =>
            obtain ⟨claim, inside, claims, claimer⟩ := history.claimer found
            exact Or.inl ⟨claim, inside, claims, Option.some.inj (claimer.symm.trans owner)⟩
        | recovered named _ _ lapsed => exact Or.inr ⟨_, named, lapsed (history.leased found)⟩
  · exact fun entry found ends later final rest => terminal_stays rest found ends
  · intro now named differs later final rest other inside continues
    cases step.effect id with
    | claimed claim _ _ _ _ _ _ => exact absurd (claim.symm.trans named) nofun
    | absent vacant none => exact absurd (none.trans vacant.symm) differs
    | changed found there change =>
        cases change with
        | same same => exact absurd (there.trans (same ▸ found.symm)) differs
        | owned own _ _ => exact absurd named (own now)
        | recovered _ _ failed _ => exact terminal_refuses rest there (Or.inr failed) inside continues

def sampleStart : Moment := ⟨0, Calendar.zero_lt_end⟩

def sampleEnd : Moment := ⟨leaseMicros, by decide⟩

/-- A microsecond after the lease of the start. -/
def sampleLate : Moment := ⟨leaseMicros + 1, by decide⟩

def sampleClaim : Call := ⟨"one", .claim ⟨"authorization", "digest"⟩ sampleStart, true⟩

def sampleEntry : IssueAgentLedgerEntry where
  authorizationId := "authorization"
  authorizationDigest := "digest"
  state := .claimed
  claimedAt := sampleStart.isoformat
  ownerInstanceId := some "one"
  leasedAt := some sampleStart.isoformat
  leaseExpiresAt := some sampleEnd.isoformat

def sampleLedger : Ledger := ⟨[sampleEntry], List.nodup_singleton _⟩

theorem sample_claimed : perform Table.empty "one" sampleClaim.operation = .ok sampleLedger := by
  have expires : leaseEnd sampleStart = .ok sampleEnd := by decide
  show (leaseEnd sampleStart >>= _) = _
  rw [expires]
  rfl

def sampleRecovery : Call := ⟨"two", .recoverExpiredOnStartup sampleLate, true⟩

theorem sample_recovered :
    Step sampleLedger sampleRecovery (sampleLedger.recoverExpiredOnStartup sampleLate).2 :=
  .accepted (by rw [sampleRecovery, perform]) (by rw [sampleRecovery])

theorem ledger_ownership_sample :
    Governed [sampleClaim] sampleLedger sampleRecovery
      (sampleLedger.recoverExpiredOnStartup sampleLate).2 "authorization" := by
  have run : Run Step Table.empty [sampleClaim] sampleLedger :=
    Run.nil.snoc (.accepted sample_claimed rfl)
  exact (ledger_ownership run "authorization").2 _ _ sample_recovered

end Hunter.Issuer
