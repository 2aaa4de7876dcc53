import Hunter.Automation.Locking

/-!
The outcomes that the repository records for a run. Every status of a run is a record
of its own and the scheduled one stays, so a cancellation, a recovery or a second call
may record a second outcome of a finished run; in every run without such a step each
run has one outcome, and it is read back after a restart as it was before.
-/

namespace Hunter.Automation

open Calendar Execution Fallible

variable {s t : System} {event : Event}

theorem transition_ok {run after : AutomationRun} {status : AutomationRunStatus} {at_ : Moment}
    {error warning : Option String} (made : transition run status at_ error warning = .ok after) :
    status ∈ transitions run.status ∧ after.status = status ∧
      after.automationRunId = run.automationRunId := by
  obtain ⟨allowed, made⟩ := require_bind_ok.mp made
  cases made
  exact ⟨allowed, rfl, rfl⟩

theorem saveRun_congr (same : t.records = s.records) (runner : RunnerId) (run : AutomationRun) :
    t.saveRun runner run = s.saveRun runner run := by
  unfold System.saveRun
  rw [same]

theorem saveRun_stored {runner : RunnerId} {run : AutomationRun} (stored : runner.repositories = true) :
    s.saveRun runner run = save s.records run :=
  if_pos stored

/-- A saved run is recorded under its content already, or it is appended. -/
theorem saveRun_ok {runner : RunnerId} {run : AutomationRun} {records : List AutomationRun}
    (saved : s.saveRun runner run = .ok records) :
    records = s.records ∧ (runner.repositories = true →
      ∃ record ∈ s.records, hashPayload record = hashPayload run) ∨
    existing s.records run = none ∧ runner.repositories = true ∧ records = s.records ++ [run] := by
  unfold System.saveRun at saved
  split at saved
  · rename_i stored
    unfold save at saved
    split at saved
    · rename_i record found
      split at saved
      · cases saved
        exact Or.inl ⟨rfl, fun _ => ⟨record, List.mem_of_find?_eq_some found, ‹_›⟩⟩
      · cases saved
    · cases saved
      exact Or.inr ⟨‹_›, stored, rfl⟩
  · cases saved
    exact Or.inl ⟨rfl, fun stored => absurd stored ‹_›⟩

theorem hashPayload_status {a b : AutomationRun} (same : hashPayload a = hashPayload b) :
    a.automationRunId = b.automationRunId ∧ a.status = b.status := by
  have ids := congrArg AutomationRun.automationRunId same
  have states := congrArg AutomationRun.status same
  exact ⟨ids, states⟩

theorem record_saved {runner : RunnerId} {run : AutomationRun} {records : List AutomationRun}
    (saved : s.saveRun runner run = .ok records) :
    s.record runner run = System.remember { s with records := records } runner run := by
  unfold System.record
  rw [saved]

theorem record_refused {runner : RunnerId} {run : AutomationRun} {exn : Exn}
    (refused : s.saveRun runner run = .error exn) : s.record runner run = s := by
  unfold System.record
  rw [refused]

/-- Every recorded outcome of the run is of this status. -/
def Only (records : List AutomationRun) (id : String) (status : AutomationRunStatus) : Prop :=
  ∀ record ∈ records, record.automationRunId = id → record.status.terminal → record.status = status

/-- No outcome of the run is recorded. -/
def Unfinished (records : List AutomationRun) (id : String) : Prop :=
  ∀ record ∈ records, record.automationRunId = id → ¬record.status.terminal

/-- A call that ends before execution, a completion or a cancellation meets no other outcome
of its run, and a completion none of other content either; recovery meets an unfinished
record only of a run without an outcome, unless what it would record is there. -/
def Settled (s : System) : Event → Prop
  | .acquire call _ => ∀ flight ∈ s.flights call, flight.runner.repositories = true →
      flight.phase = .scheduled →
      let id := flight.current.automationRunId
      (id ∈ (s.memory flight.runner).cancelledRunIds → Only s.records id .cancelled) ∧
      (id ∉ (s.memory flight.runner).cancelledRunIds → flight.job.preventOverlapping = true →
        flight.lock ∈ s.locks → Only s.records id .blocked)
  | .finish call execution checkedAt endedAt _ => ∀ flight ∈ s.flights call,
      flight.runner.repositories = true → flight.phase = .running →
      match outcome flight.job flight.current execution checkedAt endedAt with
      | .ok run => Only s.records run.automationRunId run.status ∧
          (run.status ≠ .failed → ∃ records, s.saveRun flight.runner run = .ok records)
      | .error _ => Only s.records flight.current.automationRunId .failed
  | .cancel runner run _ _ => runner.repositories = true → .cancelled ∈ transitions run.status →
      Only s.records run.automationRunId .cancelled
  | .cancelById runner run _ _ => runner.repositories = true → .cancelled ∈ transitions run.status →
      Only s.records run.automationRunId .cancelled
  | .recover _ run jobs now => ∀ after, recovered run (jobFor jobs run) now = .ok after →
      existing s.records after = none → Unfinished s.records run.automationRunId
  | _ => True

/-- What an event may do to the repository and to the memories. -/
inductive Effect (s t : System) (event : Event) : Prop where
  | quiet : t.records = s.records →
      (∀ runner, (t.memory runner).runs = (s.memory runner).runs ∨ (t.memory runner).runs = []) →
      Effect s t event
  | scheduled {run : AutomationRun} : run.status = .scheduled → t.records = s.records ++ [run] →
      t.memory = s.memory → Effect s t event
  | concluded {runner : RunnerId} {run : AutomationRun} : run.status.terminal →
      s.saveRun runner run = .ok t.records →
      (∀ other, (t.memory other).runs = (s.memory other).runs ∨
        other = runner ∧ (t.memory other).runs = (s.memory other).runs ++ [run]) →
      (Settled s event → runner.repositories = true → existing s.records run = none →
        Only s.records run.automationRunId run.status) → Effect s t event

/-- The calls under way and the locks change: nothing is recorded. -/
structure Beside (s base : System) : Prop where
  records : base.records = s.records
  memory : ∀ runner, (base.memory runner).runs = (s.memory runner).runs

theorem Beside.quiet {base : System} (beside : Beside s base) : Effect s base event :=
  .quiet beside.records fun runner => Or.inl (beside.memory runner)

theorem Beside.record {base : System} (beside : Beside s base) {runner : RunnerId}
    {run : AutomationRun} (terminal : run.status.terminal)
    (only : Settled s event → runner.repositories = true → existing s.records run = none →
      Only s.records run.automationRunId run.status) :
    Effect s (base.record runner run) event := by
  cases saved : base.saveRun runner run with
  | error exn =>
      rw [record_refused saved]
      exact beside.quiet
  | ok records =>
      rw [record_saved saved]
      rw [saveRun_congr beside.records] at saved
      refine .concluded terminal saved (fun other => ?_) only
      by_cases own : other = runner
      · subst own
        refine Or.inr ⟨rfl, ?_⟩
        show (Function.update base.memory other _ other).runs = _
        rw [Function.update_self, ← beside.memory other]
      · refine Or.inl ?_
        show (Function.update base.memory runner _ other).runs = _
        rw [Function.update_of_ne own, beside.memory other]

theorem Beside.conclude {base : System} (beside : Beside s base) {runner : RunnerId}
    {result : Except Exn AutomationRun}
    (terminal : ∀ run, result = .ok run → run.status.terminal)
    (only : ∀ run, result = .ok run → Settled s event → runner.repositories = true →
      existing s.records run = none → Only s.records run.automationRunId run.status) :
    Effect s (conclude base runner result) event := by
  cases result with
  | error exn => exact beside.quiet
  | ok run => exact beside.record (terminal run rfl) (only run rfl)

theorem Effect.free (effect : Effect s t event) (lock : Nat × String) (owner : String) :
    Effect s (t.free lock owner) event := by
  cases effect with
  | quiet records memory => exact .quiet records memory
  | scheduled unstarted records memory => exact .scheduled unstarted records memory
  | concluded terminal saved memory only => exact .concluded terminal saved memory only

theorem giveUp_effect {call : Nat} {flight : Flight} {status : AutomationRunStatus} {now : Moment}
    {warning : String} (terminal : status.terminal)
    (only : Settled s event → flight.runner.repositories = true →
      Only s.records flight.current.automationRunId status) :
    Effect s (giveUp s call flight status now warning) event := by
  have beside : Beside s (s.setFlight call none) := ⟨rfl, fun _ => rfl⟩
  unfold giveUp
  split
  · rename_i run made
    obtain ⟨-, state, id⟩ := transition_ok made
    refine beside.record (state ▸ terminal) fun settled stored _ => ?_
    rw [state, id]
    exact only settled stored
  · exact beside.quiet

theorem outcome_ok {job : AutomationJob} {running run : AutomationRun} {execution : ExecutorResult}
    {checkedAt endedAt : Moment} (made : outcome job running execution checkedAt endedAt = .ok run) :
    run.status.terminal ∧ run.automationRunId = running.automationRunId := by
  have ends : ∀ {before : AutomationRun} {status : AutomationRunStatus} {error : Option String},
      before.automationRunId = running.automationRunId → status.terminal →
      (transition before status endedAt error none).mapError Exn.summary = .ok run →
      run.status.terminal ∧ run.automationRunId = running.automationRunId := by
    intro before status error same terminal made
    cases step : transition before status endedAt error none with
    | error exn =>
        rw [step] at made
        cases made
    | ok after =>
        rw [step] at made
        cases made
        obtain ⟨-, state, id⟩ := transition_ok step
        exact ⟨state ▸ terminal, id.trans same⟩
  unfold outcome at made
  split at made
  · cases made
  · split at made
    · refine ends ?_ ?_ made
      · rfl
      · decide
    · refine ends ?_ ?_ made
      · rfl
      · split <;> decide

theorem failing_effect {base : System} (beside : Beside s base) {flight : Flight} {failedAt : Moment}
    {error : String} (only : Settled s event → flight.runner.repositories = true →
      Only s.records flight.current.automationRunId .failed) :
    Effect s (conclude base flight.runner (failure flight.current failedAt error)) event := by
  refine beside.conclude (fun run made => ?_) fun run made settled stored _ => ?_
  · rw [(transition_ok made).2.1]
    decide
  · obtain ⟨-, state, id⟩ := transition_ok made
    rw [state, id]
    exact only settled stored

theorem cancel_effect {runner : RunnerId} {run : AutomationRun} {job : AutomationJob} {now : Moment}
    (only : Settled s event → runner.repositories = true → .cancelled ∈ transitions run.status →
      Only s.records run.automationRunId .cancelled) :
    Effect s (cancel s runner run job now) event := by
  have beside : Beside s (s.note runner run.automationRunId) := by
    refine ⟨rfl, fun other => ?_⟩
    show (Function.update s.memory runner _ other).runs = _
    rw [Function.update_apply]
    split
    · rename_i own
      rw [own]
    · rfl
  unfold cancel
  split
  · exact .quiet rfl fun _ => Or.inl rfl
  · rename_i cancelled made
    obtain ⟨allowed, state, id⟩ := transition_ok made
    split
    · exact beside.quiet
    · refine Effect.free (beside.record ?_ fun settled stored _ => ?_) _ _
      · rw [state]
        decide
      · rw [state, id]
        exact only settled stored allowed

theorem recovered_ok {run after : AutomationRun} {job : Option AutomationJob} {now : Moment}
    (made : recovered run job now = .ok after) :
    after.status.terminal ∧ after.automationRunId = run.automationRunId := by
  have ends : ∀ {status : AutomationRunStatus} {error warning : Option String}, status.terminal →
      transition run status now error warning = .ok after →
      after.status.terminal ∧ after.automationRunId = run.automationRunId := by
    intro status error warning terminal made
    obtain ⟨-, state, id⟩ := transition_ok made
    exact ⟨state ▸ terminal, id⟩
  unfold recovered at made
  split at made
  · exact ends (by decide) made
  · split at made <;> exact ends (by decide) made

theorem recover_effect {runner : RunnerId} {run : AutomationRun} {jobs : List AutomationJob}
    {now : Moment} (step : recover s runner run jobs now = some t) :
    Effect s t (.recover runner run jobs now) := by
  unfold recover at step
  split at step
  case isFalse => cases step
  cases step
  refine Beside.conclude ?_ (fun after made => (recovered_ok made).1) ?_
  · split
    · split
      · exact ⟨rfl, fun _ => rfl⟩
      · exact ⟨rfl, fun _ => rfl⟩
    · exact ⟨rfl, fun _ => rfl⟩
  · intro after made settled _ absent record member same terminal
    rw [(recovered_ok made).2] at same
    exact absurd terminal (settled after made absent record member same)

theorem next_effect (step : next s event = some t) : Effect s t event := by
  have still : ∀ {flights}, Beside s { s with flights := flights } := ⟨rfl, fun _ => rfl⟩
  cases event with
  | schedule call runner job scheduledFor =>
      simp only [next, schedule] at step
      split at step
      · cases step
      · split at step
        · rename_i records saved
          cases step
          rcases saveRun_ok saved with ⟨rfl, -⟩ | ⟨-, -, rfl⟩
          · exact .quiet rfl fun _ => Or.inl rfl
          · exact .scheduled rfl rfl rfl
        · cases step
          exact .quiet rfl fun _ => Or.inl rfl
  | acquire call now =>
      simp only [next, acquire] at step
      split at step
      · rename_i flight present
        split_ifs at step with idle cancelled exclusive locked
        · cases step
          exact giveUp_effect (by decide) fun settled stored =>
            (settled flight present stored idle).1 cancelled
        · cases step
          exact giveUp_effect (by decide) fun settled stored =>
            (settled flight present stored idle).2 cancelled exclusive locked
        · cases step
          exact .quiet rfl fun _ => Or.inl rfl
        · cases step
          exact .quiet rfl fun _ => Or.inl rfl
      · cases step
  | begin_ call claimedAt startedAt =>
      simp only [next, begin_] at step
      split at step
      · split_ifs at step
        split at step
        · cases step
          exact .quiet rfl fun _ => Or.inl rfl
        · cases step
      · cases step
  | finish call execution checkedAt endedAt failedAt =>
      simp only [next, finish] at step
      split at step
      · rename_i flight present
        split_ifs at step with running
        have beside : Beside s (s.setFlight call (some { flight with phase := .ended })) :=
          ⟨rfl, fun _ => rfl⟩
        have settled_out := fun settled : Settled s (.finish call execution checkedAt endedAt failedAt) =>
          settled flight present
        split at step
        · rename_i run made
          obtain ⟨terminal, id⟩ := outcome_ok made
          split at step
          · cases step
            refine beside.record terminal fun settled stored _ => ?_
            have only := settled_out settled stored running
            rw [made] at only
            exact only.1
          · rename_i exn refused
            cases step
            refine failing_effect beside fun settled stored => ?_
            have only := settled_out settled stored running
            rw [made] at only
            have failed : run.status = .failed := by
              by_contra other
              obtain ⟨records, saved⟩ := only.2 other
              rw [saved] at refused
              cases refused
            rw [← failed, ← id]
            exact only.1
        · rename_i error made
          cases step
          refine failing_effect beside fun settled stored => ?_
          have only := settled_out settled stored running
          rw [made] at only
          exact only
      · cases step
  | release call =>
      simp only [next, release] at step
      split at step
      · split_ifs at step
        cases step
        exact .quiet rfl fun _ => Or.inl rfl
      · cases step
  | cancel runner run job now =>
      cases step
      exact cancel_effect fun settled => settled
  | cancelById runner run jobs now =>
      simp only [next, cancelById] at step
      split_ifs at step
      split at step
      · cases step
        exact cancel_effect fun settled => settled
      · cases step
        exact .quiet rfl fun _ => Or.inl rfl
  | recover runner run jobs now => exact recover_effect step
  | restart process =>
      cases step
      refine .quiet rfl fun runner => ?_
      by_cases lost : runner.process = process
      · exact Or.inr (congrArg Memory.runs (if_pos lost))
      · exact Or.inl (congrArg Memory.runs (if_neg lost))

def OneOutcome (records : List AutomationRun) : Prop :=
  ∀ first ∈ records, ∀ second ∈ records, first.automationRunId = second.automationRunId →
    first.status.terminal → second.status.terminal → first.status = second.status

theorem OneOutcome.append {records : List AutomationRun} (one : OneOutcome records)
    {run : AutomationRun}
    (only : run.status.terminal → Only records run.automationRunId run.status) :
    OneOutcome (records ++ [run]) := by
  intro first there second there' same terminal terminal'
  rcases List.mem_append.mp there with old | new <;> rcases List.mem_append.mp there' with old' | new'
  · exact one first old second old' same terminal terminal'
  · rw [List.mem_singleton.mp new'] at same terminal' ⊢
    exact only terminal' first old same terminal
  · rw [List.mem_singleton.mp new] at same terminal ⊢
    exact (only terminal second old' same.symm terminal').symm
  · rw [List.mem_singleton.mp new, List.mem_singleton.mp new']

/-- The repository has one outcome for each run, and it has those that its runners remember. -/
structure Faithful (s : System) : Prop where
  one : OneOutcome s.records
  recalled : ∀ runner, runner.repositories = true → ∀ run ∈ (s.memory runner).runs,
    run.status.terminal ∧ ∃ record ∈ s.records,
      record.automationRunId = run.automationRunId ∧ record.status = run.status

theorem faithful_start : Faithful (System.start []) where
  one _ there := absurd there List.not_mem_nil
  recalled _ _ _ there := absurd there List.not_mem_nil

theorem Faithful.step (faithful : Faithful s) (settled : Settled s event)
    (step : next s event = some t) : Faithful t := by
  cases next_effect step with
  | quiet records memory =>
      refine ⟨records ▸ faithful.one, fun runner stored run there => ?_⟩
      rw [records]
      rcases memory runner with same | lost
      · exact faithful.recalled runner stored run (same ▸ there)
      · rw [lost] at there
        exact absurd there List.not_mem_nil
  | @scheduled added unstarted records memory =>
      refine ⟨?_, fun runner stored run there => ?_⟩
      · rw [records]
        refine faithful.one.append fun terminal => ?_
        rw [unstarted] at terminal
        exact absurd terminal (by decide)
      · rw [memory] at there
        obtain ⟨terminal, record, recorded, same⟩ := faithful.recalled runner stored run there
        exact ⟨terminal, record, records ▸ List.mem_append_left _ recorded, same⟩
  | @concluded writer written terminal saved memory only =>
      have grown : ∀ record ∈ s.records, record ∈ t.records := by
        intro record there
        rcases saveRun_ok saved with ⟨records, -⟩ | ⟨-, -, records⟩
        · exact records ▸ there
        · exact records ▸ List.mem_append_left _ there
      refine ⟨?_, fun runner stored run there => ?_⟩
      · rcases saveRun_ok saved with ⟨records, -⟩ | ⟨absent, stored, records⟩
        · exact records ▸ faithful.one
        · rw [records]
          exact faithful.one.append fun _ => only settled stored absent
      · have before : run ∈ (s.memory runner).runs → run.status.terminal ∧ ∃ record ∈ t.records,
            record.automationRunId = run.automationRunId ∧ record.status = run.status := by
          intro there
          obtain ⟨terminal, record, recorded, same⟩ := faithful.recalled runner stored run there
          exact ⟨terminal, record, grown record recorded, same⟩
        rcases memory runner with same | ⟨rfl, added⟩
        · exact before (same ▸ there)
        · rw [added] at there
          rcases List.mem_append.mp there with old | new
          · exact before old
          · rw [List.mem_singleton.mp new]
            refine ⟨terminal, ?_⟩
            rcases saveRun_ok saved with ⟨records, equal⟩ | ⟨-, -, records⟩
            · obtain ⟨record, recorded, payload⟩ := equal stored
              exact ⟨record, grown record recorded, hashPayload_status payload⟩
            · exact ⟨written, records ▸ List.mem_append_right _ (List.mem_singleton_self _), rfl, rfl⟩

/-- Recovery records what it makes of the run, unless a record of that state is there. -/
theorem recover_recorded {runner : RunnerId} {run : AutomationRun} {jobs : List AutomationJob}
    {now : Moment} (step : next s (.recover runner run jobs now) = some t) :
    t.records = match recovered run (jobFor jobs run) now with
      | .error _ => s.records
      | .ok after => if existing s.records after = none then s.records ++ [after] else s.records := by
  simp only [next, recover] at step
  split at step
  case isFalse => cases step
  rename_i here
  cases step
  have concluded : ∀ {freed : System}, freed.records = s.records →
      (conclude freed runner (recovered run (jobFor jobs run) now)).records =
        match recovered run (jobFor jobs run) now with
        | .error _ => s.records
        | .ok after => if existing s.records after = none then s.records ++ [after] else s.records := by
    intro freed same
    cases recovered run (jobFor jobs run) now with
    | error exn => exact same
    | ok after =>
        have saving : freed.saveRun runner after = save s.records after :=
          (saveRun_congr same runner after).trans (saveRun_stored here.1)
        cases found : existing s.records after with
        | none =>
            rw [save, found] at saving
            rw [conclude, record_saved saving]
            exact (if_pos found).symm
        | some record =>
            rw [save, found] at saving
            refine Eq.trans ?_ (if_neg (found ▸ Option.some_ne_none record)).symm
            dsimp only at saving
            split at saving
            · rw [conclude, record_saved saving]
              rfl
            · rw [conclude, record_refused saving, same]
  refine concluded ?_
  split
  · split <;> rfl
  · rfl

/-- Recovery is settled exactly where what it records is the first outcome of the run. -/
theorem recover_records {runner : RunnerId} {run : AutomationRun} {jobs : List AutomationJob}
    {now : Moment} (step : next s (.recover runner run jobs now) = some t) :
    Settled s (.recover runner run jobs now) ↔
      ∀ record ∈ t.records, record ∉ s.records → Unfinished s.records record.automationRunId := by
  rw [recover_recorded step]
  cases made : recovered run (jobFor jobs run) now with
  | error exn =>
      exact iff_of_true (fun after same => by cases made.symm.trans same)
        fun _ there fresh => absurd there fresh
  | ok after =>
      have id := (recovered_ok made).2
      constructor
      · intro settled record there fresh
        dsimp only at there
        split at there
        · rename_i absent
          rw [List.mem_singleton.mp ((List.mem_append.mp there).resolve_left fresh), id]
          exact settled after made absent
        · exact absurd there fresh
      · intro first other same absent
        cases made.symm.trans same
        dsimp only at first
        rw [if_pos absent] at first
        have fresh : after ∉ s.records := fun there =>
          absurd (decide_eq_true rfl) (List.find?_eq_none.mp absent after there)
        rw [← id]
        exact first after (List.mem_append_right _ (List.mem_singleton_self _)) fresh

theorem AutomationRun.upTo_antisymm {run other : AutomationRun} (le : run.upTo other)
    (ge : other.upTo run) : run.status = other.status := by
  rcases le with lt | ⟨same, le⟩ <;> rcases ge with gt | ⟨same, ge⟩
  · exact absurd gt (lt_asymm lt)
  · exact absurd lt (by rw [same]; exact lt_irrefl _)
  · exact absurd gt (by rw [same]; exact lt_irrefl _)
  · exact AutomationRunStatus.text_inj (le_antisymm le ge)

theorem restart_candidates {runner : RunnerId} (stored : runner.repositories = true) :
    (restart s runner.process).candidates runner = s.records := by
  unfold System.candidates
  rw [if_pos stored]
  show (if runner.process = runner.process then (⟨[], []⟩ : Memory) else s.memory runner).runs ++ _ = _
  rw [if_pos rfl]
  rfl

theorem Faithful.restarted (faithful : Faithful s) {runner : RunnerId}
    (stored : runner.repositories = true) {id : String} {before after : AutomationRun}
    (first : LatestRun s runner id before) (last : LatestRun (restart s runner.process) runner id after)
    (kept : after.status.terminal ∨
      ∀ run ∈ (s.memory runner).runs, run.automationRunId = id → run ∈ s.records) :
    before.status = after.status := by
  unfold LatestRun at last
  rw [restart_candidates stored] at last
  obtain ⟨⟨there, named⟩, latest⟩ := first
  obtain ⟨⟨recorded, named'⟩, latest'⟩ := last
  have recorded_case : before ∈ s.records → before.status = after.status := by
    intro there
    refine AutomationRun.upTo_antisymm (latest' before there named) (latest after ?_ named')
    rw [System.candidates, if_pos stored]
    exact List.mem_append_right _ recorded
  rw [System.candidates, if_pos stored] at there
  rcases List.mem_append.mp there with remembered | there
  · rcases kept with finished | kept
    · obtain ⟨terminal, record, inside, same, state⟩ := faithful.recalled runner stored before remembered
      rw [← state]
      exact faithful.one record inside after recorded (by rw [same, named, named'])
        (state ▸ terminal) finished
    · exact recorded_case (kept before remembered named)
  · exact recorded_case there

/-- In every run of settled steps from an empty repository each run has one outcome at most, a
recovery records for runs without one exactly where it is settled, and the status of a latest
run is the same before and after a restart. -/
theorem single_outcome {events : List Event}
    (run : Run (fun s event t => next s event = some t ∧ Settled s event) (System.start []) events s) :
    OneOutcome s.records ∧
    (∀ runner unfinished jobs now t, next s (.recover runner unfinished jobs now) = some t →
      (Settled s (.recover runner unfinished jobs now) ↔
        ∀ record ∈ t.records, record ∉ s.records → Unfinished s.records record.automationRunId)) ∧
    (∀ runner, runner.repositories = true → ∀ id before after, LatestRun s runner id before →
      LatestRun (restart s runner.process) runner id after →
      (after.status.terminal ∨
        ∀ run ∈ (s.memory runner).runs, run.automationRunId = id → run ∈ s.records) →
      before.status = after.status) := by
  have faithful : Faithful s := run.preserves Faithful
    (fun _ _ _ faithful step => faithful.step step.2 step.1) faithful_start
  refine ⟨faithful.one, fun _ _ _ _ _ step => recover_records step, ?_⟩
  exact fun _ stored _ _ _ first last kept => faithful.restarted stored first last kept

theorem save_new {records : List AutomationRun} {run : AutomationRun}
    (fresh : ∀ record ∈ records, stateId record ≠ stateId run) :
    save records run = .ok (records ++ [run]) := by
  have absent : existing records run = none :=
    List.find?_eq_none.mpr fun record there same => fresh record there (of_decide_eq_true same)
  rw [save, absent]

def sampleStored : RunnerId := ⟨0, 0, true⟩

def sampleScheduled : AutomationRun := scheduledRun sampleJob sampleMoment

def sampleSucceeded : AutomationRun :=
  { sampleScheduled with
    status := .succeeded
    pipelineRunId := some "pipeline-run:test"
    startedAt := some sampleMoment
    finishedAt := some sampleMoment }

def sampleBlocked : AutomationRun :=
  { sampleScheduled with
    status := .blocked
    finishedAt := some sampleMoment
    warningSummary := some "scheduled run blocked during recovery" }

theorem sample_runId : runId sampleJob sampleMoment = "automation-run:analytical-identity-v1:" ++
    "121c9fccaf9ca2d0aa4dfdb14cc4bd98c0fdcfb2a0eb559b70ed9e5949302384" := by
  rw [runId]
  refine Eq.trans (identity_text ?_) rfl
  decide +kernel

/-- The states of the run, by the digests of their identities. -/
def sampleStates : List (AutomationRunStatus × String) :=
  [(.scheduled, "90ff5646533a002488dbcb8cd6f7741730f562454065e8dd61e7caa7565eac24"),
    (.succeeded, "a298559fa88716e39b2c83520961235b9bd0b881c124c817210823a07ee8f27e"),
    (.blocked, "b31fcf0c4706c3f3bcbae4b5318631ed656d085b2a50e9c4b3af290dbdb0edd1")]

theorem sample_stateId : ∀ state ∈ sampleStates, stateId { sampleScheduled with status := state.1 } =
    "automation-run-state:" ++ identitySchemaVersion ++ ":" ++ state.2 := by
  intro state member
  rw [stateId, show AutomationRun.automationRunId _ = _ from sample_runId]
  refine Eq.trans (identity_text ?_) rfl
  revert state
  decide +kernel

theorem finish_saved {call : Nat} {flight : Flight} {execution : ExecutorResult}
    {checkedAt endedAt failedAt : Moment} {run : AutomationRun} {records : List AutomationRun}
    (present : s.flights call = some flight) (running : flight.phase = .running)
    (made : outcome flight.job flight.current execution checkedAt endedAt = .ok run)
    (saved : s.saveRun flight.runner run = .ok records) :
    next s (.finish call execution checkedAt endedAt failedAt) =
      some ((s.setFlight call (some { flight with phase := .ended })).record flight.runner run) := by
  simp only [next, finish, present, if_pos running, made, saved]

theorem sample_saved (records : s.records = [sampleScheduled]) :
    s.saveRun sampleStored sampleSucceeded = .ok [sampleScheduled, sampleSucceeded] := by
  have different : stateId sampleScheduled ≠ stateId sampleSucceeded := by
    have scheduled := sample_stateId _ List.mem_cons_self
    have succeeded := sample_stateId _ (List.mem_cons_of_mem _ List.mem_cons_self)
    intro same
    exact absurd (scheduled.symm.trans (same.trans succeeded)) (by decide)
  rw [saveRun_stored rfl, records]
  exact save_new fun record there => List.mem_singleton.mp there ▸ different

def sampleStarted : List Event :=
  [.schedule 0 sampleStored sampleJob sampleMoment, .acquire 0 sampleMoment,
    .begin_ 0 sampleMoment sampleMoment]

def sampleExecuting : Flight where
  runner := sampleStored
  job := sampleJob
  current := { sampleScheduled with status := .running, startedAt := some sampleMoment }
  phase := .running
  holding := true

def sampleFinish : Event :=
  .finish 0 (.returned (some "pipeline-run:test") none false) sampleMoment sampleMoment sampleMoment

theorem only_scheduled {records : List AutomationRun} (scheduled : records = [sampleScheduled])
    (id : String) (status : AutomationRunStatus) : Only records id status := by
  intro record there _ terminal
  rw [scheduled] at there
  rw [List.mem_singleton.mp there] at terminal
  exact absurd terminal (by decide)

theorem sample_started : ∃ s, Run (fun s event t => next s event = some t ∧ Settled s event)
    (System.start []) sampleStarted s ∧ s.records = [sampleScheduled] ∧
      s.flights 0 = some sampleExecuting := by
  refine ⟨_, Run.cons ⟨rfl, trivial⟩ (Run.cons ⟨rfl, ?_⟩ (Run.cons ⟨rfl, trivial⟩ Run.nil)), rfl, rfl⟩
  intro flight _ _ _
  exact ⟨fun _ => only_scheduled rfl _ _, fun _ _ _ => only_scheduled rfl _ _⟩

theorem sample_finished (records : s.records = [sampleScheduled])
    (present : s.flights 0 = some sampleExecuting) : ∃ t, next s sampleFinish = some t ∧
      Settled s sampleFinish ∧ t.records = [sampleScheduled, sampleSucceeded] := by
  have saved := sample_saved records
  refine ⟨_, finish_saved present rfl rfl saved, ?_, ?_⟩
  · intro flight there _ _
    cases present.symm.trans there
    exact ⟨only_scheduled records _ _, fun _ => ⟨_, saved⟩⟩
  · rw [record_saved (by exact saved)]
    rfl

theorem single_outcome_sample : ∃ s : System, s.records = [sampleScheduled, sampleSucceeded] ∧
    OneOutcome s.records := by
  obtain ⟨s, started, records, present⟩ := sample_started
  obtain ⟨t, step, settled, finished⟩ := sample_finished records present
  exact ⟨t, finished, (single_outcome (started.snoc ⟨step, settled⟩)).1⟩

theorem recover_saved {runner : RunnerId} {run after : AutomationRun} {jobs : List AutomationJob}
    {now : Moment} {records : List AutomationRun} (stored : runner.repositories = true)
    (there : run ∈ s.records) (unstarted : run.status = .scheduled)
    (made : recovered run (jobFor jobs run) now = .ok after)
    (saved : s.saveRun runner after = .ok records) :
    ∃ t, next s (.recover runner run jobs now) = some t ∧ t.records = records := by
  have unfinished : ¬run.status.terminal := by
    rw [unstarted]
    decide
  refine ⟨_, if_pos ⟨stored, there, unfinished⟩, ?_⟩
  rw [made]
  split
  · rw [if_pos unstarted, conclude, record_saved saved]
    rfl
  · rw [conclude, record_saved saved]
    rfl

/-- The scheduled record of a run that succeeded is recovered as blocked. -/
theorem single_outcome_fails : ∃ events s, Run (fun s event t => next s event = some t)
    (System.start []) events s ∧ ¬OneOutcome s.records := by
  obtain ⟨s, started, records, present⟩ := sample_started
  obtain ⟨t, step, -, finished⟩ := sample_finished records present
  have saved : (restart t 0).saveRun sampleStored sampleBlocked =
      .ok [sampleScheduled, sampleSucceeded, sampleBlocked] := by
    have different : stateId sampleScheduled ≠ stateId sampleBlocked ∧
        stateId sampleSucceeded ≠ stateId sampleBlocked := by
      have scheduled := sample_stateId _ List.mem_cons_self
      have succeeded := sample_stateId _ (List.mem_cons_of_mem _ List.mem_cons_self)
      have blocked := sample_stateId _ (List.mem_cons_of_mem _ (List.mem_cons_of_mem _ List.mem_cons_self))
      refine ⟨fun same => ?_, fun same => ?_⟩
      · exact absurd (scheduled.symm.trans (same.trans blocked)) (by decide)
      · exact absurd (succeeded.symm.trans (same.trans blocked)) (by decide)
    rw [saveRun_stored rfl, show (restart t 0).records = _ from finished]
    refine save_new fun record there => ?_
    rcases List.mem_cons.mp there with rfl | there
    · exact different.1
    · rw [List.mem_singleton.mp there]
      exact different.2
  have there : sampleScheduled ∈ (restart t 0).records := by
    rw [show (restart t 0).records = _ from finished]
    exact List.mem_cons_self
  have made : recovered sampleScheduled (jobFor [sampleJob] sampleScheduled) sampleMoment =
      .ok sampleBlocked := rfl
  obtain ⟨u, recovery, added⟩ := recover_saved rfl there rfl made saved
  have run := (((started.imp fun _ _ _ step => step.1).snoc step).snoc
    (rfl : next t (.restart 0) = some (restart t 0))).snoc recovery
  refine ⟨_, u, run, fun one => ?_⟩
  rw [added] at one
  have same := one sampleSucceeded (by simp) sampleBlocked (by simp) rfl (by decide) (by decide)
  exact absurd same (by decide)

end Hunter.Automation
