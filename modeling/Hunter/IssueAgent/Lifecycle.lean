import Hunter.IssueAgent.Writing

/-!
The lifecycle law of a verified ledger. The invariants of one authorization speak
of its own records, and the ledger's of the whole chain; each is kept by every
admitted record, so they hold of the view of every chain that verifies.
-/

namespace Hunter.IssueAgent

def Record.evidence (record : Record) : Option Evidence :=
  match record.payload with
  | .transition evidence => some evidence
  | _ => none

/-- The authorization a record claims. -/
def Record.claims (record : Record) : Option AuthorizationId :=
  match record.payload with
  | .transition (.authorized _) => some record.authorizationId
  | _ => none

def Record.requests (stage : Stage) (record : Record) : Bool :=
  match record.payload with
  | .resumeRequested _ evidence => evidence.stage = stage
  | _ => false

/-- The records of one authorization, in the order of the chain. -/
def history (id : AuthorizationId) (records : List Record) : List Record :=
  records.filter fun record => record.authorizationId = id

def evidences (records : List Record) : List Evidence := records.filterMap Record.evidence

/-- The states its transition records enter. -/
def entered (records : List Record) : List State := (evidences records).map Evidence.state

/-- A path of legal transitions from a state, or from no record at all. -/
def LegalPath : Option State → List State → Prop
  | _, [] => True
  | previous, next :: states => next ∈ legalTransitions previous ∧ LegalPath (some next) states

theorem legalPath_snoc {previous : Option State} {states : List State} {next : State}
    (path : LegalPath previous states)
    (legal : next ∈ legalTransitions (states.getLast?.or previous)) :
    LegalPath previous (states ++ [next]) := by
  induction states generalizing previous with
  | nil => exact ⟨by simpa using legal, trivial⟩
  | cons state states ih =>
      refine ⟨path.1, ih path.2 ?_⟩
      cases states with
      | nil => simpa using legal
      | cons second states => simpa [List.getLast?_cons] using legal

theorem legalPath_append {previous : Option State} {before after : List State}
    (path : LegalPath previous (before ++ after)) :
    LegalPath (before.getLast?.or previous) after := by
  induction before generalizing previous with
  | nil => exact path
  | cons state before ih =>
      have rest := ih path.2
      cases before with
      | nil => simpa using rest
      | cons second before => simpa [List.getLast?_cons] using rest

/-- No legal path leaves a terminal state. -/
theorem legalPath_terminal_last {previous : Option State} {before after : List State} {state : State}
    (path : LegalPath previous (before ++ state :: after)) (terminal : state.terminal = true) :
    after = [] := by
  have tail := (legalPath_append path).2
  cases after with
  | nil => rfl
  | cons next after =>
      have legal := tail.1
      rw [legalTransitions_terminal terminal] at legal
      cases legal

/-- The execution identity an authorization binds for an attempt. -/
def AuthorizedEvidence.identity (id : AuthorizationId) (bound : AuthorizedEvidence)
    (attempt : ExecutionAttempt) : Sha64 :=
  executionIdentity id bound.authorizeRunId bound.controlSha bound.lineage.handoffSha256 attempt

/-- The publication identity of the bound fields and the validated ones. -/
def publicationOf (repositoryId issueNumber : Int) (id : AuthorizationId)
    (bound : AuthorizedEvidence) (executionId : Sha64) (validated : ValidatedEvidence)
    (writerLogin : Login) : Sha64 :=
  publicationIdentity repositoryId issueNumber id bound.baseSha bound.taskScopeSha256 executionId
    validated.resultSha256 validated.treeSha validated.unsignedCommitSha bound.controlSha
    writerLogin.val

namespace AuthorizationView

/-- No evidence of a state that lies ahead. -/
structure Reached (view : AuthorizationView) : Prop where
  fallback : view.fallbackAuthorized.isSome → 1 ≤ view.state.rank
  bound : view.resultBound.isSome → 2 ≤ view.state.rank
  validated : view.validated.isSome → 3 ≤ view.state.rank
  published : view.published.isSome → 4 ≤ view.state.rank
  completed : view.completed.isSome → 5 ≤ view.state.rank

/-- Each piece of evidence is bound to the pieces before it. -/
structure Bound (repositoryId issueNumber : Int) (view : AuthorizationView) : Prop where
  primary : view.authorized.executionId = view.authorized.identity view.authorizationId .primary
  offered : ∀ offer, view.authorized.fallback = some offer →
    offer.executionId = view.authorized.identity view.authorizationId .fallback
  fallback : ∀ admitted, view.fallbackAuthorized = some admitted →
    admitted.fallbackExecutionId = view.authorized.identity view.authorizationId .fallback
  validated : ∀ validated, view.validated = some validated → ∃ bound,
    view.resultBound = some bound ∧ validated.resultSha256 = bound.resultPlaintextSha256
  published : ∀ published, view.published = some published → ∃ validated,
    view.validated = some validated ∧ published.publicationIdentity =
      publicationOf repositoryId issueNumber view.authorizationId view.authorized view.executionId
        validated published.writerLogin
  completed : ∀ completed, view.completed = some completed → ∃ published,
    view.published = some published ∧ completed.pullRequestHeadSha = published.headSha
  complete : view.state = .completed → view.completed.isSome

/-- The evidence under a state, as the transition record carried it. -/
def evidence (view : AuthorizationView) : State → Option Evidence
  | .authorized => some (.authorized view.authorized)
  | .fallbackAuthorized => view.fallbackAuthorized.map .fallbackAuthorized
  | .resultBound => view.resultBound.map .resultBound
  | .validated => view.validated.map .validated
  | .published => view.published.map .published
  | .completed => view.completed.map .completed
  | .failed => view.failed.map .failed

theorem evidence_withEvidence (view : AuthorizationView) (evidence : Evidence) (state : State) :
    (view.withEvidence evidence).evidence state =
      if state = evidence.state then some evidence else view.evidence state := by
  cases evidence <;> cases state <;> rfl

/-- The view says what its own records say. -/
structure Recorded (view : AuthorizationView) : Prop where
  path : LegalPath none (entered view.records)
  last : (entered view.records).getLast? = some view.state
  carried : ∀ state evidence, view.evidence state = some evidence → evidence ∈ evidences view.records
  present : ∀ state, state ∈ entered view.records → (view.evidence state).isSome
  requested : ∀ stage, view.resumeAttempts stage = view.records.countP (Record.requests stage)

theorem reached_enter {view : AuthorizationView} {evidence : Evidence} (h : view.Reached)
    (legal : evidence.state ∈ legalTransitions (some view.state)) : (view.enter evidence).Reached := by
  obtain ⟨fallback, bound, validated, published, completed⟩ := h
  have climbs := rank_lt_of_legal legal
  have rise {n : Nat} (reached : n ≤ view.state.rank) : n ≤ evidence.state.rank :=
    Nat.le_trans reached (Nat.le_of_lt climbs)
  cases evidence with
  | authorized _ => cases mem_legalTransitions_authorized.mp legal
  | fallbackAuthorized _ =>
      exact ⟨fun _ => Nat.le_refl _, fun h => rise (bound h), fun h => rise (validated h),
        fun h => rise (published h), fun h => rise (completed h)⟩
  | resultBound _ =>
      exact ⟨fun h => rise (fallback h), fun _ => Nat.le_refl _, fun h => rise (validated h),
        fun h => rise (published h), fun h => rise (completed h)⟩
  | validated _ =>
      exact ⟨fun h => rise (fallback h), fun h => rise (bound h), fun _ => Nat.le_refl _,
        fun h => rise (published h), fun h => rise (completed h)⟩
  | published _ =>
      exact ⟨fun h => rise (fallback h), fun h => rise (bound h), fun h => rise (validated h),
        fun _ => Nat.le_refl _, fun h => rise (completed h)⟩
  | completed _ =>
      exact ⟨fun h => rise (fallback h), fun h => rise (bound h), fun h => rise (validated h),
        fun h => rise (published h), fun _ => Nat.le_refl _⟩
  | failed _ =>
      exact ⟨fun h => rise (fallback h), fun h => rise (bound h), fun h => rise (validated h),
        fun h => rise (published h), fun h => rise (completed h)⟩

theorem bound_enter {repositoryId issueNumber : Int} {view : AuthorizationView} {record : Record}
    {evidence : Evidence} (h : view.Bound repositoryId issueNumber) (reached : view.Reached)
    (repository : record.repositoryId.val = repositoryId)
    (issue : record.issueNumber.val = issueNumber)
    (legal : evidence.state ∈ legalTransitions (some view.state))
    (bindings : checkCrossBindings view record evidence = .ok ()) :
    (view.enter evidence).Bound repositoryId issueNumber := by
  have climbs := rank_lt_of_legal legal
  have none_of {α : Type} {field : Option α} {n : Nat} (at_ : field.isSome → n ≤ view.state.rank)
      (below : view.state.rank < n) : field = none := by
    cases field with
    | none => rfl
    | some value => exact absurd (at_ rfl) (by omega)
  cases evidence with
  | authorized bound => cases mem_legalTransitions_authorized.mp legal
  | fallbackAuthorized admitted =>
      have unpublished := none_of reached.published (Nat.lt_trans climbs (show 1 < 4 by decide))
      simp only [checkCrossBindings, checkFallbackAuthorized] at bindings
      split at bindings
      · cases bindings
      · rename_i offer offered
        simp only [check_ok, require_ok] at bindings
        exact { h with
          fallback := by
            rintro _ ⟨rfl⟩
            exact bindings.1.trans (h.offered offer offered)
          published := by
            intro published is_published
            cases unpublished.symm.trans is_published
          complete := nofun }
  | resultBound bound =>
      have unvalidated := none_of reached.validated (Nat.lt_trans climbs (show 2 < 3 by decide))
      exact { h with
        validated := by
          intro validated is_validated
          cases unvalidated.symm.trans is_validated
        complete := nofun }
  | validated validated =>
      have unpublished := none_of reached.published (Nat.lt_trans climbs (show 3 < 4 by decide))
      simp only [checkCrossBindings, bind_ok, require_ok] at bindings
      obtain ⟨bound, is_bound, digest⟩ := bindings
      exact { h with
        validated := by
          rintro _ ⟨rfl⟩
          refine ⟨bound, ?_, digest⟩
          cases found : view.resultBound <;> simp_all [item, enter, withEvidence]
        published := by
          intro published is_published
          cases unpublished.symm.trans is_published
        complete := nofun }
  | published published =>
      have incomplete := none_of reached.completed (Nat.lt_trans climbs (show 4 < 5 by decide))
      simp only [checkCrossBindings, checkPublished, bind_ok, require_ok] at bindings
      obtain ⟨validated, is_validated, identity⟩ := bindings
      exact { h with
        published := by
          rintro _ ⟨rfl⟩
          refine ⟨validated, ?_, ?_⟩
          · cases found : view.validated <;> simp_all [item, enter, withEvidence]
          · rw [repository, issue] at identity
            exact identity
        completed := by
          intro completed is_completed
          cases incomplete.symm.trans is_completed
        complete := nofun }
  | completed completed =>
      simp only [checkCrossBindings, bind_ok, require_ok] at bindings
      obtain ⟨published, is_published, head⟩ := bindings
      exact { h with
        completed := by
          rintro _ ⟨rfl⟩
          refine ⟨published, ?_, head⟩
          cases found : view.published <;> simp_all [item, enter, withEvidence]
        complete := fun _ => rfl }
  | failed failed => exact { h with complete := nofun }

structure Sound (repositoryId issueNumber : Int) (view : AuthorizationView) : Prop where
  reached : view.Reached
  bound : view.Bound repositoryId issueNumber
  recorded : view.Recorded

theorem evidences_transition {records : List Record} {record : Record} {evidence : Evidence}
    (payload : record.payload = .transition evidence) :
    evidences (records ++ [record]) = evidences records ++ [evidence] := by
  have carries : record.evidence = some evidence := by rw [Record.evidence, payload]
  rw [evidences, List.filterMap_append, List.filterMap_cons_some carries]
  rfl

theorem entered_transition {records : List Record} {record : Record} {evidence : Evidence}
    (payload : record.payload = .transition evidence) :
    entered (records ++ [record]) = entered records ++ [evidence.state] := by
  rw [entered, evidences_transition payload, List.map_append]
  rfl

theorem requests_transition {record : Record} {evidence : Evidence}
    (payload : record.payload = .transition evidence) (stage : Stage) :
    record.requests stage = false := by
  rw [Record.requests, payload]

theorem recorded_enter {view : AuthorizationView} {record : Record} {evidence : Evidence}
    (h : view.Recorded) (payload : record.payload = .transition evidence)
    (legal : evidence.state ∈ legalTransitions (some view.state)) :
    ((view.enter evidence).record record).Recorded := by
  have records : ((view.enter evidence).record record).records = view.records ++ [record] := by
    cases evidence <;> rfl
  have attempts : ((view.enter evidence).record record).resumeAttempts = view.resumeAttempts := by
    cases evidence <;> rfl
  have holds (state : State) : ((view.enter evidence).record record).evidence state =
      if state = evidence.state then some evidence else view.evidence state := by
    rw [← evidence_withEvidence]
    cases evidence <;> cases state <;> rfl
  refine ⟨?_, ?_, ?_, ?_, ?_⟩
  · rw [records, entered_transition payload]
    refine legalPath_snoc h.path ?_
    rw [h.last]
    exact legal
  · rw [records, entered_transition payload, List.getLast?_append]
    rfl
  · intro state carried
    rw [records, evidences_transition payload, holds]
    split
    · rintro ⟨rfl⟩
      exact List.mem_append_right _ (List.mem_singleton.mpr rfl)
    · intro before
      exact List.mem_append_left _ (h.carried state carried before)
  · intro state
    rw [records, entered_transition payload, holds]
    intro visited
    split
    · rfl
    · rename_i other
      cases List.mem_append.mp visited with
      | inl earlier => exact h.present state earlier
      | inr last => exact absurd (List.mem_singleton.mp last) other
  · intro stage
    rw [records, attempts, List.countP_append, ← h.requested stage,
      List.countP_singleton, requests_transition payload]
    rfl

/-- A resume record leaves the states and their evidence alone. -/
theorem sound_resume {repositoryId issueNumber : Int} {view : AuthorizationView} {record : Record}
    (h : view.Sound repositoryId issueNumber) (pending : Option PendingResume)
    (attempts : Stage → Nat) (silent : record.evidence = none)
    (counts : ∀ stage, attempts stage =
      view.resumeAttempts stage + if record.requests stage then 1 else 0) :
    (AuthorizationView.record
      { view with pendingResume := pending, resumeAttempts := attempts } record).Sound
      repositoryId issueNumber := by
  have same : evidences (view.records ++ [record]) = evidences view.records := by
    rw [evidences, List.filterMap_append, List.filterMap_cons_none silent, List.filterMap_nil,
      List.append_nil]
    rfl
  have states : entered (view.records ++ [record]) = entered view.records := by
    rw [entered, same]
    rfl
  obtain ⟨reached, bound, path, last, carried, present, requested⟩ := h
  refine ⟨{ reached with }, { bound with }, ?_, ?_, ?_, ?_, ?_⟩
  · exact states ▸ path
  · exact states ▸ last
  · intro state evidence holds
    change evidence ∈ evidences (view.records ++ [record])
    rw [same]
    refine carried state evidence ?_
    cases state <;> exact holds
  · intro state visited
    change state ∈ entered (view.records ++ [record]) at visited
    rw [states] at visited
    have before := present state visited
    cases state <;> exact before
  · intro stage
    change attempts stage = (view.records ++ [record]).countP (Record.requests stage)
    rw [counts, List.countP_append, requested stage, List.countP_singleton]

theorem sound_enter {repositoryId issueNumber : Int} {view : AuthorizationView} {record : Record}
    {evidence : Evidence} (h : view.Sound repositoryId issueNumber)
    (payload : record.payload = .transition evidence)
    (repository : record.repositoryId.val = repositoryId)
    (issue : record.issueNumber.val = issueNumber)
    (legal : evidence.state ∈ legalTransitions (some view.state))
    (bindings : checkCrossBindings view record evidence = .ok ()) :
    ((view.enter evidence).record record).Sound repositoryId issueNumber := by
  refine ⟨{ reached_enter h.reached legal with }, ?_, recorded_enter h.recorded payload legal⟩
  exact { bound_enter h.bound h.reached repository issue legal bindings with }

theorem sound_start {repositoryId issueNumber : Int} {ledger : LedgerView} {record : Record}
    {evidence : AuthorizedEvidence} (payload : record.payload = .transition (.authorized evidence))
    (bindings : checkAuthorizedBindings record evidence ledger = .ok ()) :
    ((start record.authorizationId evidence).record record).Sound repositoryId issueNumber := by
  have states : entered ([] ++ [record]) = [.authorized] := entered_transition payload
  have carries : evidences ([] ++ [record]) = [.authorized evidence] := evidences_transition payload
  simp only [checkAuthorizedBindings, check_ok, require_ok] at bindings
  obtain ⟨-, -, -, -, primary, -, offer⟩ := bindings
  have absent {α : Type} {value : α} (h : none = some value) {P : Prop} : P := by cases h
  refine ⟨⟨nofun, nofun, nofun, nofun, nofun⟩, ⟨primary, ?_, fun _ h => absent h,
    fun _ h => absent h, fun _ h => absent h, fun _ h => absent h, nofun⟩, ?_, ?_, ?_, ?_, ?_⟩
  · intro fallback offered
    have is_offered : evidence.fallback = some fallback := offered
    rw [is_offered] at offer
    simp only [checkFallbackOffer, check_ok, require_ok] at offer
    exact offer.1
  · change LegalPath none (entered ([] ++ [record]))
    rw [states]
    exact ⟨List.mem_singleton.mpr rfl, trivial⟩
  · change (entered ([] ++ [record])).getLast? = _
    rw [states]
    rfl
  · intro state carried holds
    change carried ∈ evidences ([] ++ [record])
    rw [carries]
    cases state with
    | authorized => exact List.mem_singleton.mpr (Option.some.inj holds).symm
    | _ => cases holds
  · intro state visited
    change state ∈ entered ([] ++ [record]) at visited
    rw [states] at visited
    cases List.mem_singleton.mp visited
    rfl
  · intro stage
    change 0 = ([] ++ [record]).countP (Record.requests stage)
    rw [List.nil_append, List.countP_singleton, requests_transition payload]
    rfl

end AuthorizationView

structure LedgerView.Sound (repositoryId issueNumber : Int) (records : List Record)
    (view : LedgerView) : Prop where
  repository : view.repositoryId = repositoryId
  issue : view.issueNumber = issueNumber
  each : ∀ id current, view.authorizations.get? id = some current →
    current.authorizationId = id ∧ current.records = history id records ∧
      current.Sound repositoryId issueNumber
  keys : view.claimed = view.authorizations.keys
  order : view.claimed = records.filterMap Record.claims
  unclaimed : ∀ id, id ∉ view.claimed → history id records = []
  active : ∀ id, view.active = some id ↔
    ∃ current, view.authorizations.get? id = some current ∧ current.terminal = false

theorem history_append (id : AuthorizationId) (records : List Record) (record : Record) :
    history id (records ++ [record]) =
      if record.authorizationId = id then history id records ++ [record]
      else history id records := by
  by_cases h : record.authorizationId = id <;> simp [history, h]

theorem claims_of_not_authorized {record : Record}
    (h : ∀ evidence, record.payload ≠ .transition (.authorized evidence)) :
    record.claims = none := by
  unfold Record.claims
  split
  · exact absurd ‹_› (h _)
  · rfl

variable {repositoryId issueNumber : Int} {records : List Record} {view : LedgerView}
  {record : Record}

theorem claimed_of_found (h : view.Sound repositoryId issueNumber records)
    {id : AuthorizationId} {current : AuthorizationView}
    (found : view.authorizations.get? id = some current) : id ∈ view.claimed := by
  rw [h.keys]
  exact Dict.mem_keys_of_get? found

/-- A record of an authorization that is on the ledger updates that one alone. -/
theorem sound_update (h : view.Sound repositoryId issueNumber records)
    {current current' : AuthorizationView} {active : Option AuthorizationId}
    (found : view.authorizations.get? record.authorizationId = some current)
    (same_id : current'.authorizationId = current.authorizationId)
    (same_records : current'.records = current.records)
    (sound : (current'.record record).Sound repositoryId issueNumber)
    (unclaiming : record.claims = none)
    (is_active : ∀ id, active = some id ↔ ∃ other,
      (view.authorizations.set record.authorizationId (current'.record record)).get? id =
        some other ∧ other.terminal = false) :
    (({ view with active := active } : LedgerView).append current' record).Sound
      repositoryId issueNumber (records ++ [record]) := by
  have claimed := claimed_of_found h found
  refine ⟨h.repository, h.issue, ?_, ?_, ?_, ?_, is_active⟩
  · intro id other is_other
    simp only [LedgerView.append, Dict.get?_set] at is_other
    rw [history_append]
    split at is_other
    · rename_i same
      cases is_other
      rw [if_pos same.symm]
      obtain ⟨owner, own, -⟩ := h.each _ _ found
      refine ⟨same_id.trans (owner.trans same.symm), ?_, sound⟩
      change current'.records ++ [record] = _
      rw [same_records, own, same]
    · rename_i differs
      rw [if_neg (Ne.symm differs)]
      exact h.each id other is_other
  · rw [h.keys] at claimed
    simp only [LedgerView.append, Dict.keys_set, if_pos claimed]
    exact h.keys
  · rw [List.filterMap_append, List.filterMap_cons_none unclaiming, List.filterMap_nil,
      List.append_nil]
    exact h.order
  · intro id absent
    rw [history_append, if_neg]
    · exact h.unclaimed id absent
    · intro same
      exact absent (same ▸ claimed)

theorem sound_authorize (h : view.Sound repositoryId issueNumber records)
    {evidence : AuthorizedEvidence} (payload : record.payload = .transition (.authorized evidence))
    (unclaimed : record.authorizationId ∉ view.claimed) (inactive : view.active = none)
    (bindings : checkAuthorizedBindings record evidence view = .ok ()) :
    (({ view with
        claimed := view.claimed ++ [record.authorizationId]
        active := some record.authorizationId } : LedgerView).append
      (.start record.authorizationId evidence) record).Sound
      repositoryId issueNumber (records ++ [record]) := by
  have absent : record.authorizationId ∉ view.authorizations.keys := h.keys ▸ unclaimed
  have claims : record.claims = some record.authorizationId := by rw [Record.claims, payload]
  refine ⟨h.repository, h.issue, ?_, ?_, ?_, ?_, ?_⟩
  · intro id other is_other
    simp only [LedgerView.append, Dict.get?_set] at is_other
    rw [history_append]
    split at is_other
    · rename_i same
      cases is_other
      rw [if_pos same.symm, h.unclaimed id (same ▸ unclaimed)]
      exact ⟨same.symm, rfl, AuthorizationView.sound_start payload bindings⟩
    · rename_i differs
      rw [if_neg (Ne.symm differs)]
      exact h.each id other is_other
  · simp only [LedgerView.append, Dict.keys_set, if_neg absent, h.keys]
  · rw [List.filterMap_append, List.filterMap_cons_some claims]
    exact congrArg (· ++ [record.authorizationId]) h.order
  · intro id missing
    simp only [LedgerView.append, List.mem_append, List.mem_singleton, not_or] at missing
    rw [history_append, if_neg (Ne.symm missing.2)]
    exact h.unclaimed id missing.1
  · intro id
    simp only [LedgerView.append, Dict.get?_set, Option.some.injEq]
    constructor
    · rintro rfl
      exact ⟨_, if_pos rfl, rfl⟩
    · rintro ⟨other, is_other, running⟩
      split at is_other
      · exact Eq.symm ‹_›
      · have before := (h.active id).mpr ⟨other, is_other, running⟩
        rw [inactive] at before
        cases before

theorem sound_empty (repositoryId issueNumber : Int) :
    (emptyView repositoryId issueNumber).Sound repositoryId issueNumber [] := by
  have nothing (id : AuthorizationId) :
      (emptyView repositoryId issueNumber).authorizations.get? id = none := Dict.get?_empty id
  refine ⟨rfl, rfl, ?_, rfl, rfl, fun _ _ => rfl, ?_⟩
  · intro id current found
    rw [nothing] at found
    cases found
  · intro id
    simp only [nothing, reduceCtorEq, false_and, exists_false, iff_false]
    exact nofun

theorem running_of_active (h : view.Sound repositoryId issueNumber records)
    {current : AuthorizationView}
    (found : view.authorizations.get? record.authorizationId = some current)
    (running : current.terminal = false) : view.active = some record.authorizationId :=
  (h.active _).mpr ⟨current, found, running⟩

/-- Updating the active authorization keeps it active unless it is over now. -/
theorem active_update (h : view.Sound repositoryId issueNumber records)
    {current current' : AuthorizationView}
    (found : view.authorizations.get? record.authorizationId = some current)
    (running : current.terminal = false) (id : AuthorizationId) :
    (if current'.terminal then none else view.active) = some id ↔ ∃ other,
      (view.authorizations.set record.authorizationId (current'.record record)).get? id =
        some other ∧ other.terminal = false := by
  have is_active := running_of_active h found running
  have terminal : (current'.record record).terminal = current'.terminal := rfl
  simp only [Dict.get?_set]
  by_cases same : id = record.authorizationId
  · subst same
    simp only [if_true, Option.some.injEq, exists_eq_left', terminal, is_active]
    cases current'.terminal <;> simp
  · simp only [if_neg same, ← h.active id, is_active, Option.some.injEq, Ne.symm same, iff_false]
    split <;> simp [Ne.symm same]

theorem nonterminal_of_legal {state next : State}
    (legal : next ∈ legalTransitions (some state)) : state.terminal = false := by
  cases terminal : state.terminal with
  | false => rfl
  | true =>
      rw [legalTransitions_terminal terminal] at legal
      cases legal

theorem enter_state (current : AuthorizationView) (evidence : Evidence) :
    (current.enter evidence).state = evidence.state := by
  cases evidence <;> rfl

theorem sound_admits {view' : LedgerView} (h : view.Sound repositoryId issueNumber records)
    (linked : Linked view record) (admits : Admits view record view') :
    view'.Sound repositoryId issueNumber (records ++ [record]) := by
  obtain ⟨-, -, repository, issue⟩ := linked
  have resume {current current' : AuthorizationView} {pending : Option PendingResume}
      {attempts : Stage → Nat} (found : activeForResume view record = .ok current)
      (update : current' = { current with pendingResume := pending, resumeAttempts := attempts })
      (silent : record.evidence = none)
      (counts : ∀ stage, attempts stage =
        current.resumeAttempts stage + if record.requests stage then 1 else 0) :
      (view.append current' record).Sound repositoryId issueNumber (records ++ [record]) := by
    subst update
    obtain ⟨is_current, ⟨running, -⟩, -⟩ := activeForResume_ok.mp found
    have sound := (h.each _ _ is_current).2.2
    refine sound_update h is_current rfl rfl
      (AuthorizationView.sound_resume sound pending attempts silent counts)
      (claims_of_not_authorized ?_) ?_
    · intro evidence payload
      rw [Record.evidence, payload] at silent
      cases silent
    · intro id
      rw [← active_update h is_current running id]
      have still : current.state.terminal = false := running
      simp only [AuthorizationView.terminal, still, Bool.false_eq_true, if_false]
  cases admits with
  | authorize evidence payload _ _ unclaimed inactive bindings =>
      exact sound_authorize h payload unclaimed inactive bindings
  | enter evidence current payload found legal _ _ bindings =>
      have running := nonterminal_of_legal legal
      refine sound_update h found ?_ ?_ (AuthorizationView.sound_enter (h.each _ _ found).2.2 payload
        (repository.trans h.repository) (issue.trans h.issue) legal bindings) ?_ ?_
      · cases evidence <;> rfl
      · cases evidence <;> rfl
      · refine claims_of_not_authorized fun bound authorizes => ?_
        rw [payload] at authorizes
        cases authorizes
        cases mem_legalTransitions_authorized.mp legal
      · intro id
        rw [← active_update h found running id, AuthorizationView.terminal, enter_state]
  | request state evidence current payload found stage none_pending next cap =>
      refine resume found rfl (by rw [Record.evidence, payload]) fun stage => ?_
      rw [Record.requests, payload]
      by_cases same : stage = evidence.stage <;> simp [same, eq_comm]
  | abandon state evidence current pending payload found _ _ =>
      refine resume found rfl (by rw [Record.evidence, payload]) fun stage => ?_
      rw [Record.requests, payload]
      rfl
  | bind state evidence current pending payload found _ _ _ _ =>
      refine resume found rfl (by rw [Record.evidence, payload]) fun stage => ?_
      rw [Record.requests, payload]
      rfl

theorem sound_run {repositoryId issueNumber : Int} {records : List Record} {view : LedgerView}
    (run : Run Extends (emptyView repositoryId issueNumber) records view) :
    view.Sound repositoryId issueNumber records := by
  refine run.invariant (fun records view => view.Sound repositoryId issueNumber records)
    (sound_empty repositoryId issueNumber) ?_
  intro records view record view' _ h step
  exact sound_admits h step.1 step.2

/-- What the chain of one Issue says about one of its authorizations. -/
structure AuthorizationLaw (repositoryId issueNumber : Int) (id : AuthorizationId)
    (records : List Record) (view : AuthorizationView) : Prop where
  path : LegalPath none (entered records)
  state : (entered records).getLast? = some view.state
  terminal_last : ∀ before state after, entered records = before ++ state :: after →
    state.terminal = true → after = []
  completed : view.state = .completed → ∃ bound validated published completed,
    (view.resultBound = some bound ∧ view.validated = some validated ∧
      view.published = some published ∧ view.completed = some completed) ∧
    ([.authorized view.authorized, .resultBound bound, .validated validated,
      .published published, .completed completed] ⊆ evidences records) ∧
    validated.resultSha256 = bound.resultPlaintextSha256 ∧
    published.publicationIdentity = publicationOf repositoryId issueNumber id view.authorized
      (view.authorized.identity id
        (if .fallbackAuthorized ∈ entered records then .fallback else .primary))
      validated published.writerLogin ∧
    completed.pullRequestHeadSha = published.headSha
  requested : ∀ stage, view.resumeAttempts stage = records.countP (Record.requests stage)

theorem executionId_of_sound {current : AuthorizationView}
    (h : current.Sound repositoryId issueNumber) :
    current.executionId = current.authorized.identity current.authorizationId
      (if .fallbackAuthorized ∈ entered current.records then .fallback else .primary) := by
  unfold AuthorizationView.executionId
  cases admitted : current.fallbackAuthorized with
  | some fallback =>
      have carried := h.recorded.carried .fallbackAuthorized (.fallbackAuthorized fallback)
        (by simp [AuthorizationView.evidence, admitted])
      have visited : State.fallbackAuthorized ∈ entered current.records :=
        List.mem_map.mpr ⟨_, carried, rfl⟩
      rw [if_pos visited]
      exact h.bound.fallback fallback admitted
  | none =>
      rw [if_neg]
      · exact h.bound.primary
      · intro visited
        have present := h.recorded.present _ visited
        simp [AuthorizationView.evidence, admitted] at present

theorem authorizationLaw_of_sound {id : AuthorizationId} {current : AuthorizationView}
    (owner : current.authorizationId = id) (h : current.Sound repositoryId issueNumber) :
    AuthorizationLaw repositoryId issueNumber id current.records current := by
  obtain ⟨path, last, carried, present, requested⟩ := h.recorded
  refine ⟨path, last, ?_, ?_, requested⟩
  · intro before state after parts terminal
    exact legalPath_terminal_last (parts ▸ path) terminal
  · intro is_completed
    obtain ⟨completed, has_completed⟩ := Option.isSome_iff_exists.mp (h.bound.complete is_completed)
    obtain ⟨published, has_published, head⟩ := h.bound.completed completed has_completed
    obtain ⟨validated, has_validated, identity⟩ := h.bound.published published has_published
    obtain ⟨bound, has_bound, digest⟩ := h.bound.validated validated has_validated
    refine ⟨bound, validated, published, completed,
      ⟨has_bound, has_validated, has_published, has_completed⟩, ?_, digest, ?_, head⟩
    · intro evidence listed
      simp only [List.mem_cons, List.not_mem_nil, or_false] at listed
      obtain rfl | rfl | rfl | rfl | rfl := listed
      · exact carried .authorized _ rfl
      · exact carried .resultBound _ (by simp [AuthorizationView.evidence, has_bound])
      · exact carried .validated _ (by simp [AuthorizationView.evidence, has_validated])
      · exact carried .published _ (by simp [AuthorizationView.evidence, has_published])
      · exact carried .completed _ (by simp [AuthorizationView.evidence, has_completed])
    · rw [identity, executionId_of_sound h, owner]

section Chain

variable [Ed25519] {trust : TrustRoots} {provenance : ProvenanceCheck}

/-- Every chain that verifies obeys the lifecycle law: one active authorization at
most, every authorization claimed once and in order, and each of them on a legal
path with its evidence bound. -/
theorem verifyChain_lifecycle {entries : List (Json × Option Json)}
    (verified : verifyChain trust provenance repositoryId issueNumber entries = .ok view) :
    ∃ records, Decoded entries records ∧
      (∀ id, view.active = some id ↔
        ∃ current, view.authorizations.get? id = some current ∧ current.terminal = false) ∧
      (view.claimed.Nodup ∧ view.claimed = records.filterMap Record.claims ∧
        ∀ id, id ∈ view.claimed ↔ (view.authorizations.get? id).isSome) ∧
      ∀ id current, view.authorizations.get? id = some current →
        current.records = history id records ∧
          AuthorizationLaw repositoryId issueNumber id (history id records) current := by
  obtain ⟨records, decoded, run⟩ := verifyChain_run verified
  have h := sound_run run
  refine ⟨records, decoded, h.active, ⟨?_, h.order, ?_⟩, ?_⟩
  · rw [h.keys]
    exact view.authorizations.nodup
  · intro id
    rw [h.keys, Dict.get?_isSome_iff]
  · intro id current found
    obtain ⟨owner, own, sound⟩ := h.each id current found
    exact ⟨own, own ▸ authorizationLaw_of_sound owner sound⟩

end Chain

section Sample

local instance : Ed25519 := checksumScheme

def digits (width : Nat) (digit : Char) : String := String.ofList (List.replicate width digit)

def sampleSha : Sha64 := ⟨digits 64 'd', by decide +kernel⟩

def sampleControl : Sha40 := ⟨digits 40 'c', by decide⟩

def sampleBase : Sha40 := ⟨digits 40 'b', by decide⟩

def sampleTime : Timestamp := ⟨"2026-01-01T00:00:00Z", by decide⟩

def sampleDeadline : Timestamp := ⟨"2026-01-01T06:00:00Z", by decide⟩

def sampleIdent : Ident := ⟨"sample", by decide⟩

def sampleLogin : Login := ⟨"owner", by decide⟩

def sampleId : AuthorizationId := ⟨authorizationIdPrefix ++ digits 64 'a', by decide +kernel⟩

def sampleIdentity (attempt : ExecutionAttempt) : Sha64 :=
  executionIdentity sampleId 7 sampleControl sampleSha attempt

/-- An artifact of a run, sealed to the recipient with this key. -/
def sampleArtifact (runId artifactId : Positive) (recipient : Sha64) : Artifact :=
  ⟨runId, artifactId, ⟨"sha256:" ++ digits 64 '1', by decide +kernel⟩, sampleSha, sampleSha, recipient⟩

def sampleAuthorized : AuthorizedEvidence where
  authorizationEnvelopeSha256 := sampleSha
  claims := ⟨sampleLogin, ⟨"hunter-run", by decide⟩, sampleTime, sampleIdent, sampleSha,
    sampleSha⟩
  taskScope := ⟨sampleIdent, ⟨"issue-*", by decide⟩, sampleBase,
    [⟨"src/", by decide⟩], []⟩
  taskScopeSha256 := sampleSha
  executionBranch := ⟨"issue-5-" ++ digits 16 'a', by decide⟩
  baseSha := sampleBase
  controlSha := sampleControl
  authorizeRunId := 7
  executionId := sampleIdentity .primary
  promptInputManifestSha256 := sampleSha
  compilerIdentitySha256 := sampleSha
  deadlinePublishedAt := sampleDeadline
  lineage := ⟨sampleIdent, sampleIdent, sampleIdent, sampleIdent, sampleSha, sampleSha, sampleSha, []⟩
  handoffArtifact := sampleArtifact 7 1 ⟨digits 64 '4', by decide +kernel⟩
  fallback := some ⟨sampleIdentity .fallback,
    sampleArtifact 7 2 ⟨digits 64 '5', by decide +kernel⟩⟩
  fallbackCanary := none
  remediation := none

def sampleBound : ResultBoundEvidence where
  resultArtifact := sampleArtifact 7 3 sampleSha
  resultPlaintextSha256 := sampleSha
  executorJobId := 8
  executorConclusion := .success
  executorAdvisoryCode := none
  fallback := none

def sampleValidated : ValidatedEvidence where
  receiptSha256 := sampleSha
  resultSha256 := sampleSha
  treeSha := sampleBase
  unsignedCommitSha := sampleBase
  validationDefinition := sampleSha
  toolchainSha256 := sampleSha
  validatorRunId := 9
  validationAttempts := 1
  remediation := none

def samplePublished : PublishedEvidence where
  writerLogin := sampleLogin
  publicationIdentity := publicationOf 1 5 sampleId sampleAuthorized (sampleIdentity .primary)
    sampleValidated sampleLogin
  headSha := sampleBase
  publishAttempts := 1
  deadlineCompletedAt := sampleDeadline

def sampleCompleted : CompletedEvidence where
  pullRequestNumber := 6
  pullRequestNodeId := ⟨"PR_1", by decide⟩
  pullRequestHeadSha := sampleBase
  preflightRunId := 10

/-- A record of the sample authorization by a job of one of its runs. -/
theorem control_workflow :
    Regex.fullmatch workflowPattern ".github/workflows/hunter-issue-agent-control.yml" = true := by
  decide

def sampleEntry (role : Role) (job : jobPattern.Matching) (runId : Positive) (payload : Payload) :
    Entry where
  by_ := ⟨⟨".github/workflows/hunter-issue-agent-control.yml", control_workflow⟩, job, role, runId, 1,
    sampleControl⟩
  authorizationId := sampleId
  payload := payload
  now := sampleTime

def sampleTrust : TrustRoots where
  stateKeys id := if id = publicKeyId (3 : Nat) then some (3 : Nat) else none
  repositoryId := 1

theorem sample_trusted : Trusted 1 (3 : Nat) sampleTrust (fun _ _ => .ok true) :=
  ⟨if_pos rfl, rfl, fun _ _ => rfl⟩

def sampleJob : jobPattern.Matching := ⟨"job", by decide⟩

theorem sample_fits {view : LedgerView} {role : Role} {runId : Positive} {payload : Payload}
    (numbers : Json.weight (.int view.nextSeq) + Json.weight (.int runId.val) ≤ 1000)
    (small : Json.weight (.obj payload.fields) ≤ 40000)
    (shallow : depth (.obj payload.fields) < maxDepth) :
    Fits ((sampleEntry role sampleJob runId payload).json 1 5 (3 : Nat) view) := by
  have units : Json.weight (.int (1 : Positive).val) + Json.weight (.int (5 : Positive).val) ≤ 100 := by
    decide
  refine fits_signedRecord (Writer.of_conforms _) ?_ shallow
  simp only [Entry.draft, Writer.of, sampleEntry]
  omega

def sampleAuthorize : Entry :=
  sampleEntry .authorize sampleJob 7 (.transition (.authorized sampleAuthorized))

/-- The ledger after the first record. -/
def sampleView : LedgerView :=
  ({ emptyView 1 5 with claimed := [sampleId], active := some sampleId } : LedgerView).append
    (.start sampleId sampleAuthorized) (sampleAuthorize.record 1 5 (3 : Nat) (emptyView 1 5))

theorem sample_authorizes :
    sampleAuthorize.Writes 1 5 (3 : Nat) (emptyView 1 5) sampleView := by
  have listable : sampleAuthorized.Listable := ⟨by decide, by decide, by decide, nofun⟩
  have bindings : checkAuthorizedBindings (sampleAuthorize.record 1 5 (3 : Nat) (emptyView 1 5))
      sampleAuthorized (emptyView 1 5) = .ok () := by
    simp only [checkAuthorizedBindings, check_ok, require_ok]
    refine ⟨require_of (by decide), rfl, ⟨rfl, rfl⟩, rfl, rfl, fun _ => rfl, ?_⟩
    change checkFallbackOffer sampleId sampleAuthorized _ = .ok ()
    simp only [checkFallbackOffer, check_ok, require_ok]
    exact ⟨rfl, by decide, by decide⟩
  refine ⟨listable, sample_fits (by decide) ?_ (by decide), foldRecord_of_admits
    (.authorize sampleAuthorized rfl rfl (by decide) List.not_mem_nil rfl bindings)⟩
  simp only [Payload.fields, Evidence.fields, AuthorizedEvidence.fields, sampleAuthorized,
    extraJson, FallbackOffer.json, List.cons_append, List.nil_append, Json.weight,
    Json.weightFields, sha64_length]
  decide

/-- The sample ledger says this, and its authorization stands here. -/
structure Standing (view : LedgerView) (said : List Payload) (current : AuthorizationView) :
    Prop where
  found : ∃ records, view.authorizations.get? sampleId = some { current with records := records } ∧
    records.map (·.payload) = said
  alone : view.authorizations.keys = [sampleId]
  active : view.active = some sampleId
  seq : view.nextSeq = said.length

theorem standing_start : Standing sampleView [.transition (.authorized sampleAuthorized)]
    (.start sampleId sampleAuthorized) :=
  ⟨⟨_, rfl, rfl⟩, rfl, rfl, rfl⟩

/-- A record of the sample moves its authorization. -/
theorem Standing.append {view : LedgerView} {said : List Payload}
    {current : AuthorizationView} {records : List Record} {active : Option AuthorizationId}
    (h : Standing view said current) (current' : AuthorizationView) (record : Record)
    (found : view.authorizations.get? sampleId = some { current with records := records })
    (listed : records.map (·.payload) = said) (owner : record.authorizationId = sampleId)
    (is_active : active = some sampleId) :
    Standing (({ view with active := active } : LedgerView).append
      { current' with records := records } record) (said ++ [record.payload]) current' := by
  refine ⟨⟨records ++ [record], ?_, ?_⟩, ?_, is_active, ?_⟩
  · exact (Dict.get?_set _ _ _ _).trans (if_pos owner.symm)
  · rw [List.map_append, listed]
    rfl
  · refine (Dict.keys_set _ _ _).trans ((if_pos ?_).trans h.alone)
    exact owner ▸ Dict.mem_keys_of_get? found
  · rw [List.length_append, ← h.seq]
    rfl

/-- The next transition of the sample can be written. -/
theorem Standing.enters {view : LedgerView} {said : List Payload} {current : AuthorizationView}
    (h : Standing view said current) (role : Role) (runId : Positive) (evidence : Evidence)
    (legal : evidence.state ∈ legalTransitions (some current.state))
    (writes : role ∈ writerRoles evidence.state) (left : checkFailed current evidence = .ok ())
    (bindings : ∀ record : Record, record.repositoryId = 1 → record.issueNumber = 5 →
      checkCrossBindings current record evidence = .ok ())
    (writable : evidence.Writable)
    (numbers : Json.weight (.int said.length) + Json.weight (.int runId.val) ≤ 1000)
    (small : Json.weight (.obj evidence.fields) ≤ 40000)
    (shallow : depth (.obj evidence.fields) < maxDepth) :
    ∃ view', (sampleEntry role sampleJob runId (.transition evidence)).Writes 1 5 (3 : Nat) view
        view' ∧ (evidence.state.terminal = false →
          Standing view' (said ++ [.transition evidence]) (current.enter evidence)) := by
  obtain ⟨records, found, listed⟩ := h.found
  have same (record : Record) : checkCrossBindings { current with records := records } record
      evidence = checkCrossBindings current record evidence := by
    cases evidence <;> rfl
  have checked : checkFailed { current with records := records } evidence = .ok () := by
    cases evidence <;> exact left
  have entered : ({ current with records := records } : AuthorizationView).enter evidence =
      { current.enter evidence with records := records } := by
    cases evidence <;> rfl
  refine ⟨_, ⟨writable, sample_fits (h.seq ▸ numbers) small shallow, foldRecord_of_admits
    (.enter evidence _ rfl found legal writes checked ((same _).trans (bindings _ rfl rfl)))⟩, ?_⟩
  intro running
  rw [entered]
  exact h.append _ _ found listed rfl ((if_neg (by simp [running])).trans h.active)

def sampleEntries : List Entry :=
  [sampleAuthorize,
    sampleEntry .bind sampleJob 8 (.transition (.resultBound sampleBound)),
    sampleEntry .recordValidation sampleJob 9 (.transition (.validated sampleValidated)),
    sampleEntry .finalize sampleJob 9 (.transition (.published samplePublished)),
    sampleEntry .candidatePrRecord sampleJob 10 (.transition (.completed sampleCompleted))]

/-- The sample authorization, completed. -/
structure Completed (view : LedgerView) (current : AuthorizationView) : Prop where
  inactive : view.active = none
  alone : view.authorizations.entries = [(sampleId, current)]
  state : current.state = .completed
  owner : current.authorizationId = sampleId
  authorized : current.authorized = sampleAuthorized
  published : current.published = some samplePublished

theorem Standing.completes {view view' : LedgerView} {said : List Payload}
    {current : AuthorizationView} (h : Standing view said current) (owner : current.authorizationId = sampleId)
    (authorized : current.authorized = sampleAuthorized)
    (published : current.published = some samplePublished)
    (writes : (sampleEntry .candidatePrRecord sampleJob 10
      (.transition (.completed sampleCompleted))).Writes 1 5 (3 : Nat) view view') :
    ∃ current', Completed view' current' := by
  obtain ⟨records, found, -⟩ := h.found
  cases admits_of_foldRecord writes.folds with
  | authorize _ payload _ _ _ _ _ => cases payload
  | request _ _ _ payload _ _ _ _ _ => cases payload
  | abandon _ _ _ _ payload _ _ _ => cases payload
  | bind _ _ _ _ payload _ _ _ _ _ => cases payload
  | enter evidence before payload here _ _ _ _ =>
      cases payload
      cases found.symm.trans here
      refine ⟨(({ current with records := records } : AuthorizationView).enter
        (.completed sampleCompleted)).record (Entry.record 1 5 (3 : Nat) view (sampleEntry
          .candidatePrRecord sampleJob 10 (.transition (.completed sampleCompleted)))),
        rfl, ?_, rfl, owner, authorized, published⟩
      obtain ⟨⟨id, old⟩, one⟩ := List.length_eq_one_iff.mp
        ((List.length_map (Prod.fst)).symm.trans (congrArg List.length h.alone))
      have same : id = sampleId := by
        have keys := h.alone
        rw [Dict.keys, one] at keys
        exact (List.cons.inj keys).1
      change Dict.put sampleId _ view.authorizations.entries = _
      rw [one, same]
      exact if_pos rfl

theorem sample_run : ∃ view, Run (fun view entry view' => entry.Writes 1 5 (3 : Nat) view view')
    (emptyView 1 5) sampleEntries view ∧ ∃ current, Completed view current := by
  have identity : Json.weight (.obj samplePublished.fields) ≤ 40000 := by
    simp only [PublishedEvidence.fields, Json.weight, Json.weightFields, sha64_length]
    decide
  have published (record : Record) (repository : record.repositoryId = 1)
      (issue : record.issueNumber = 5) : checkCrossBindings
        (((AuthorizationView.start sampleId sampleAuthorized).enter (.resultBound sampleBound)).enter
          (.validated sampleValidated)) record (.published samplePublished) = .ok () := by
    refine bind_ok.mpr ⟨sampleValidated, rfl, require_of ?_⟩
    rw [repository, issue]
    rfl
  obtain ⟨_, first, h⟩ := standing_start.enters .bind 8 (.resultBound sampleBound) (by decide)
    (by decide) rfl (fun _ _ _ => require_ok.mpr (by decide)) trivial (by decide)
    (by decide) (by decide)
  obtain ⟨_, second, h⟩ := (h rfl).enters .recordValidation 9 (.validated sampleValidated)
    (by decide) (by decide) rfl (fun _ _ _ => bind_ok.mpr ⟨sampleBound, rfl, require_of rfl⟩) (by rintro _ ⟨⟩)
    (by decide) (by decide) (by decide)
  obtain ⟨_, third, h⟩ := (h rfl).enters .finalize 9 (.published samplePublished) (by decide)
    (by decide) rfl published trivial (by decide) identity (by decide)
  obtain ⟨_, fourth, -⟩ := (h rfl).enters .candidatePrRecord 10 (.completed sampleCompleted)
    (by decide) (by decide) rfl (fun _ _ _ => bind_ok.mpr ⟨samplePublished, rfl, require_of rfl⟩)
    trivial (by decide) (by decide) (by decide)
  exact ⟨_, .cons sample_authorizes (.cons first (.cons second (.cons third (.cons fourth .nil)))),
    (h rfl).completes rfl rfl rfl fourth⟩

def sampleChain (entries : List Entry) : List (Json × Option Json) :=
  writeChain 1 5 (3 : Nat) (emptyView 1 5) entries

/-- A run of sample entries is a chain that verifies. -/
theorem sampleChain_verifies {entries : List Entry} {view : LedgerView}
    (run : Run (fun view entry view' => entry.Writes 1 5 (3 : Nat) view view') (emptyView 1 5)
      entries view) :
    verifyChain sampleTrust (fun _ _ => .ok true) 1 5 (sampleChain entries) = .ok view ∧
      ∃ records, Decoded (sampleChain entries) records ∧
        List.Forall₂ Entry.Describes entries records :=
  writeChain_verifies sample_trusted rfl rfl run

theorem sampleChain_everyStep {C : LedgerView → Record → Prop} {entries : List Entry}
    {view : LedgerView}
    (run : Run (fun view entry view' => entry.Writes 1 5 (3 : Nat) view view' ∧
      C view (entry.record 1 5 (3 : Nat) view)) (emptyView 1 5) entries view) :
    EveryStep sampleTrust (fun _ _ => .ok true) C (emptyView 1 5) (sampleChain entries) :=
  writeChain_everyStep sample_trusted rfl rfl run

/-- An authorization, bound, validated, published and completed. -/
theorem verifyChain_lifecycle_sample : ∃ (view : LedgerView) (records : List Record)
    (current : AuthorizationView),
    verifyChain sampleTrust (fun _ _ => .ok true) 1 5 (sampleChain sampleEntries) = .ok view ∧
      Decoded (sampleChain sampleEntries) records ∧ view.active = none ∧
      view.authorizations.get? sampleId = some current ∧ current.state = .completed ∧
      AuthorizationLaw 1 5 sampleId (history sampleId records) current := by
  obtain ⟨view, run, current, completed⟩ := sample_run
  obtain ⟨records, decoded, -, -, laws⟩ := verifyChain_lifecycle (sampleChain_verifies run).1
  have found : view.authorizations.get? sampleId = some current := by
    rw [Dict.get?_eq_some_iff, completed.alone]
    exact List.mem_singleton_self _
  exact ⟨view, records, current, (sampleChain_verifies run).1, decoded, completed.inactive, found,
    completed.state, (laws sampleId current found).2⟩

end Sample

end Hunter.IssueAgent
