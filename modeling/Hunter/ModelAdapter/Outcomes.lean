import Hunter.Data.Supersession
import Hunter.Machine.Run
import Hunter.ModelAdapter.Store

/-!
The outcome that governs an attempt at a cutoff. The outcomes of an attempt are a line
when every correction supersedes the last one and none of them stands above the new one
and its own predecessor in time. Then at most one outcome governs at every cutoff, and
the read returns it.
-/

namespace Hunter.ModelAdapter

open Calendar Fallible ResponseValidator

/-- The outcomes of an attempt in the order in which they were appended. -/
def recorded (repository : Repository) (attemptId : String) : List ModelAttemptOutcomeRecord :=
  (repository.outcomes.filter fun row => row.attemptId = some attemptId).map OutcomeRow.payload

/-- Nothing is recorded for the attempt yet, or the outcome supersedes something that is. -/
def Named (outcomes : List ModelAttemptOutcomeRecord) (outcome : ModelAttemptOutcomeRecord) : Prop :=
  (outcomes = [] ∧ outcome.supersedesOutcomeId = none) ∨
    ∃ p ∈ outcomes, outcome.supersedesOutcomeId = some p.outcomeId

/-- The outcome has no row. -/
def Repository.Fresh (repository : Repository) (outcome : ModelAttemptOutcomeRecord) : Prop :=
  ∀ row ∈ repository.outcomes, row.outcomeId ≠ outcome.outcomeId

/-- The artifact has no row. -/
def Repository.Unseen (repository : Repository) (artifact : ProviderResponseArtifact) : Prop :=
  ∀ row ∈ repository.artifacts, row.responseArtifactId ≠ artifact.responseArtifactIdentity

/-- The outcomes and the captures, each an artifact under an outcome, that a repository
holds. A capture has its artifact and its outcome to itself. -/
structure Stored (outcomes : List ModelAttemptOutcomeRecord)
    (captures : List (ProviderResponseArtifact × ModelAttemptOutcomeRecord))
    (repository : Repository) : Prop where
  rows : repository.outcomes = outcomes.map OutcomeRow.of
  distinct : (outcomes.map ModelAttemptOutcomeRecord.outcomeId).Nodup
  artifacts : repository.artifacts = captures.map fun capture => .of capture.1 capture.2.outcomeId
  identities : (captures.map fun capture => capture.1.responseArtifactIdentity).Nodup
  owners : (captures.map fun capture => capture.2.outcomeId).Nodup
  owned : ∀ capture ∈ captures,
    capture.2 ∈ outcomes ∧ capture.2.attemptId = some capture.1.attemptId

theorem stored_empty : Stored [] [] emptyRepository :=
  ⟨rfl, List.nodup_nil, rfl, List.nodup_nil, List.nodup_nil, by simp⟩

/-- The outcomes of an attempt among all of them. -/
def outcomesOf (outcomes : List ModelAttemptOutcomeRecord) (attemptId : String) :
    List ModelAttemptOutcomeRecord :=
  outcomes.filter fun outcome => outcome.attemptId = some attemptId

section

variable {outcomes : List ModelAttemptOutcomeRecord}
  {captures : List (ProviderResponseArtifact × ModelAttemptOutcomeRecord)}
  {repository after : Repository} {outcome : ModelAttemptOutcomeRecord}
  {artifact : Option ProviderResponseArtifact} {authority : AttemptAuthority}

theorem Stored.recorded_eq (stored : Stored outcomes captures repository) (attemptId : String) :
    recorded repository attemptId = outcomesOf outcomes attemptId := by
  rw [recorded, stored.rows, List.filter_map, List.map_map]
  exact List.map_id _

theorem Stored.fresh_iff (stored : Stored outcomes captures repository) :
    repository.Fresh outcome ↔
      outcome.outcomeId ∉ outcomes.map ModelAttemptOutcomeRecord.outcomeId := by
  rw [Repository.Fresh, stored.rows]
  simp [OutcomeRow.of]

theorem requireSupersession_ok (stored : Stored outcomes captures repository)
    (ok : requireSupersession repository outcome = .ok ()) {attemptId : String}
    (own : outcome.attemptId = some attemptId) : Named (outcomesOf outcomes attemptId) outcome := by
  rw [requireSupersession.eq_def, own] at ok
  obtain ⟨first, ok⟩ := require_bind_ok.mp ok
  have known := require_ok.mp ok
  have prior : (repository.outcomes.filter fun row => row.attemptId = some attemptId) =
      (outcomesOf outcomes attemptId).map OutcomeRow.of := by
    rw [stored.rows, List.filter_map]
    rfl
  rw [prior] at first known
  cases supersedes : outcome.supersedesOutcomeId with
  | none =>
      rcases first with empty | named
      · exact Or.inl ⟨List.map_eq_nil_iff.mp empty, supersedes⟩
      · exact absurd supersedes named
  | some superseded =>
      have inside := known superseded (by rw [supersedes]; rfl)
      rw [List.map_map] at inside
      obtain ⟨p, member, same⟩ := List.mem_map.mp inside
      exact Or.inr ⟨p, member, by rw [supersedes, ← same]; rfl⟩

theorem insertArtifact_ok {outcomeId : String}
    (ok : insertArtifact repository outcomeId artifact = .ok after) :
    after.outcomes = repository.outcomes ∧
      ((∃ capture, artifact = some capture ∧ repository.Unseen capture ∧
          after.artifacts = repository.artifacts ++ [.of capture outcomeId]) ∨
        ((∀ capture ∈ artifact, ¬ repository.Unseen capture) ∧
          after.artifacts = repository.artifacts)) := by
  cases artifact with
  | none =>
      cases ok
      exact ⟨rfl, Or.inr ⟨fun _ given => absurd given (Option.not_mem_none _), rfl⟩⟩
  | some capture =>
      rw [insertArtifact.eq_def] at ok
      dsimp only at ok
      cases search : repository.artifacts.find? (fun row =>
          row.responseArtifactId = capture.responseArtifactIdentity) with
      | none =>
          rw [search] at ok
          cases ok
          refine ⟨rfl, Or.inl ⟨capture, rfl, fun row member => ?_, rfl⟩⟩
          simpa using List.find?_eq_none.mp search row member
      | some row =>
          rw [search] at ok
          obtain ⟨-, done⟩ := require_bind_ok.mp ok
          cases done
          have own := List.find?_some search
          refine ⟨rfl, Or.inr ⟨fun other same unseen => ?_, rfl⟩⟩
          cases same
          exact unseen row (List.mem_of_find?_eq_some search) (of_decide_eq_true own)

/-- An append finds the outcome and changes nothing, or it adds it with its artifact,
unless the artifact has been seen. -/
theorem appendOutcome_ok (stored : Stored outcomes captures repository)
    (ok : appendOutcome repository outcome artifact authority = .ok ((), after)) :
    requireLineage outcome artifact = .ok () ∧
    ((¬ repository.Fresh outcome ∧ after = repository) ∨
      (repository.Fresh outcome ∧
        (∀ attemptId, outcome.attemptId = some attemptId →
          Named (outcomesOf outcomes attemptId) outcome) ∧
        after.outcomes = repository.outcomes ++ [.of outcome] ∧
        ((∃ capture, artifact = some capture ∧ repository.Unseen capture ∧
            after.artifacts = repository.artifacts ++ [.of capture outcome.outcomeId]) ∨
          ((∀ capture ∈ artifact, ¬ repository.Unseen capture) ∧
            after.artifacts = repository.artifacts)))) := by
  rw [appendOutcome.eq_def] at ok
  obtain ⟨lineage, ok⟩ := check_ok.mp ok
  obtain ⟨-, ok⟩ := check_ok.mp ok
  obtain ⟨-, ok⟩ := check_ok.mp ok
  refine ⟨lineage, ?_⟩
  cases search : repository.outcomes.find? (fun row => row.outcomeId = outcome.outcomeId) with
  | some row =>
      rw [search] at ok
      obtain ⟨-, done⟩ := require_bind_ok.mp ok
      cases done
      have own := List.find?_some search
      refine Or.inl ⟨fun fresh => ?_, rfl⟩
      exact fresh row (List.mem_of_find?_eq_some search) (of_decide_eq_true own)
  | none =>
      rw [search] at ok
      obtain ⟨supersession, ok⟩ := check_ok.mp ok
      obtain ⟨inserted, insertion, done⟩ := bind_ok.mp ok
      cases done
      obtain ⟨same, artifacts⟩ := insertArtifact_ok insertion
      refine Or.inr ⟨fun row member => ?_, fun attemptId own => ?_, same, artifacts⟩
      · simpa using List.find?_eq_none.mp search row member
      · exact requireSupersession_ok stored supersession own

/-- The store after a call: what was there stays, and what is new comes last. -/
structure Extended (outcomes outcomes' : List ModelAttemptOutcomeRecord)
    (captures captures' : List (ProviderResponseArtifact × ModelAttemptOutcomeRecord))
    (after : Repository) : Prop where
  stored : Stored outcomes' captures' after
  outcomes : outcomes <+: outcomes'
  captures : captures <+: captures'

theorem Extended.refl (stored : Stored outcomes captures repository) :
    Extended outcomes outcomes captures captures repository :=
  ⟨stored, List.prefix_rfl, List.prefix_rfl⟩

/-- A new outcome that comes without an artifact of its own. -/
theorem Stored.append (stored : Stored outcomes captures repository)
    (fresh : repository.Fresh outcome)
    (rows : after.outcomes = repository.outcomes ++ [.of outcome])
    (same : after.artifacts = repository.artifacts) :
    Stored (outcomes ++ [outcome]) captures after where
  rows := by rw [rows, stored.rows, List.map_append]; rfl
  distinct := by
    rw [List.map_append]
    exact List.concat_eq_append ▸ List.Nodup.concat (stored.fresh_iff.mp fresh) stored.distinct
  artifacts := same.trans stored.artifacts
  identities := stored.identities
  owners := stored.owners
  owned := fun capture member =>
    ⟨List.mem_append_left _ (stored.owned capture member).1, (stored.owned capture member).2⟩

/-- A new outcome with an artifact that nobody has seen. -/
theorem Stored.append_capture {capture : ProviderResponseArtifact}
    (stored : Stored outcomes captures repository) (fresh : repository.Fresh outcome)
    (rows : after.outcomes = repository.outcomes ++ [.of outcome])
    (unseen : repository.Unseen capture)
    (artifacts : after.artifacts = repository.artifacts ++ [.of capture outcome.outcomeId])
    (own : outcome.attemptId = some capture.attemptId) :
    Stored (outcomes ++ [outcome]) (captures ++ [(capture, outcome)]) after where
  rows := by rw [rows, stored.rows, List.map_append]; rfl
  distinct := by
    rw [List.map_append]
    exact List.concat_eq_append ▸ List.Nodup.concat (stored.fresh_iff.mp fresh) stored.distinct
  artifacts := by rw [artifacts, stored.artifacts, List.map_append]; rfl
  identities := by
    rw [List.map_append]
    refine List.concat_eq_append ▸ List.Nodup.concat (fun member => ?_) stored.identities
    obtain ⟨old, inside, same⟩ := List.mem_map.mp member
    refine unseen (.of old.1 old.2.outcomeId) ?_ same
    rw [stored.artifacts]
    exact List.mem_map_of_mem inside
  owners := by
    rw [List.map_append]
    refine List.concat_eq_append ▸ List.Nodup.concat (fun member => ?_) stored.owners
    obtain ⟨old, inside, same⟩ := List.mem_map.mp member
    refine stored.fresh_iff.mp fresh ?_
    exact List.mem_map.mpr ⟨old.2, (stored.owned old inside).1, same⟩
  owned := fun pair member => by
    rcases List.mem_append.mp member with old | new
    · exact ⟨List.mem_append_left _ (stored.owned pair old).1, (stored.owned pair old).2⟩
    · rw [List.mem_singleton.mp new]
      exact ⟨List.mem_append_right _ (List.mem_singleton_self _), own⟩

theorem requireLineage_own {capture : ProviderResponseArtifact}
    (ok : requireLineage outcome (some capture) = .ok ()) :
    outcome.attemptId = some capture.attemptId := (require_bind_ok.mp ok).1

theorem appendOutcome_extends (stored : Stored outcomes captures repository)
    (ok : appendOutcome repository outcome artifact authority = .ok ((), after)) :
    ∃ outcomes' captures', Extended outcomes outcomes' captures captures' after := by
  obtain ⟨lineage, ⟨-, rfl⟩ | ⟨fresh, -, rows, change⟩⟩ := appendOutcome_ok stored ok
  · exact ⟨_, _, .refl stored⟩
  · rcases change with ⟨capture, rfl, unseen, artifacts⟩ | ⟨-, same⟩
    · exact ⟨_, _, stored.append_capture fresh rows unseen artifacts (requireLineage_own lineage),
        List.prefix_append _ _, List.prefix_append _ _⟩
    · exact ⟨_, _, stored.append fresh rows same, List.prefix_append _ _, List.prefix_rfl⟩

theorem insertAttempt_keeps {attempt : ModelAttemptRecord}
    (ok : insertAttempt repository attempt = .ok after) :
    after.outcomes = repository.outcomes ∧ after.artifacts = repository.artifacts := by
  rw [insertAttempt.eq_def] at ok
  split at ok
  · cases ok
    exact ⟨rfl, rfl⟩
  · obtain ⟨-, done⟩ := require_bind_ok.mp ok
    cases done
    exact ⟨rfl, rfl⟩

theorem insertHandoff_keeps {attempt : ModelAttemptRecord} {handoff : ModelHandoffRecord}
    {evidence : ProviderRequestEvidence}
    (ok : insertHandoff repository attempt handoff evidence = .ok after) :
    after.outcomes = repository.outcomes ∧ after.artifacts = repository.artifacts := by
  rw [insertHandoff.eq_def] at ok
  obtain ⟨-, ok⟩ := check_ok.mp ok
  split at ok
  · cases ok
    exact ⟨rfl, rfl⟩
  · obtain ⟨-, done⟩ := require_bind_ok.mp ok
    cases done
    exact ⟨rfl, rfl⟩

theorem persistAttemptAndHandoff_keeps {attempt : ModelAttemptRecord} {handoff : ModelHandoffRecord}
    {evidence : ProviderRequestEvidence}
    (ok : persistAttemptAndHandoff repository attempt handoff evidence authority = .ok ((), after)) :
    after.outcomes = repository.outcomes ∧ after.artifacts = repository.artifacts := by
  rw [persistAttemptAndHandoff] at ok
  replace ok := (require_bind_ok.mp ok).2
  replace ok := (require_bind_ok.mp ok).2
  replace ok := (require_bind_ok.mp ok).2
  replace ok := (require_bind_ok.mp ok).2
  obtain ⟨-, ok⟩ := check_ok.mp ok
  obtain ⟨middle, first, ok⟩ := bind_ok.mp ok
  obtain ⟨last, second, done⟩ := bind_ok.mp ok
  cases done
  have before := insertAttempt_keeps first
  have later := insertHandoff_keeps second
  exact ⟨later.1.trans before.1, later.2.trans before.2⟩

theorem consumeHandoffOnce_keeps {handoffId : String} {consumedAt : Moment}
    (ok : consumeHandoffOnce repository handoffId consumedAt = .ok ((), after)) :
    after.outcomes = repository.outcomes ∧ after.artifacts = repository.artifacts := by
  rw [consumeHandoffOnce] at ok
  cases (require_bind_ok.mp (require_bind_ok.mp ok).2).2
  exact ⟨rfl, rfl⟩

theorem Stored.keep (stored : Stored outcomes captures repository)
    (keeps : after.outcomes = repository.outcomes ∧ after.artifacts = repository.artifacts) :
    Stored outcomes captures after :=
  ⟨keeps.1.trans stored.rows, stored.distinct, keeps.2.trans stored.artifacts, stored.identities,
    stored.owners, stored.owned⟩

theorem Stored.call {call : StoreCall} (stored : Stored outcomes captures repository)
    (step : StoreCalls repository call after) :
    ∃ outcomes' captures', Extended outcomes outcomes' captures captures' after := by
  rw [StoreCalls] at step
  subst step
  refine committed_cases (P := fun after => ∃ outcomes' captures',
    Extended outcomes outcomes' captures captures' after) ⟨_, _, .refl stored⟩ ?_
  intro _ after ok
  cases call with
  | persist attempt handoff evidence authority =>
      exact ⟨_, _, .refl (stored.keep (persistAttemptAndHandoff_keeps ok))⟩
  | consume handoffId consumedAt =>
      exact ⟨_, _, .refl (stored.keep (consumeHandoffOnce_keeps ok))⟩
  | append outcome artifact authority => exact appendOutcome_extends stored ok

theorem Stored.run {calls : List StoreCall} (stored : Stored outcomes captures repository)
    (run : Run StoreCalls repository calls after) :
    ∃ outcomes' captures', Extended outcomes outcomes' captures captures' after := by
  induction run with
  | nil => exact ⟨_, _, .refl stored⟩
  | snoc _ step ih =>
      obtain ⟨_, _, before⟩ := ih
      obtain ⟨_, _, last⟩ := before.stored.call step
      exact ⟨_, _, last.stored, before.outcomes.trans last.outcomes,
        before.captures.trans last.captures⟩

end

/-- The outcome is known at the cutoff and superseded by none that is. -/
abbrev Governing (outcomes : List ModelAttemptOutcomeRecord) (cutoff : Moment)
    (outcome : ModelAttemptOutcomeRecord) : Prop :=
  Supersession.Governs ModelAttemptOutcomeRecord.outcomeId
    ModelAttemptOutcomeRecord.supersedesOutcomeId ModelAttemptOutcomeRecord.recordedAt
    outcomes cutoff outcome

/-- At most one outcome governs at every cutoff. -/
abbrev SoleGoverning (outcomes : List ModelAttemptOutcomeRecord) : Prop :=
  Supersession.Sole ModelAttemptOutcomeRecord.outcomeId
    ModelAttemptOutcomeRecord.supersedesOutcomeId ModelAttemptOutcomeRecord.recordedAt outcomes

/-- The outcome starts the line of its attempt, or it supersedes the outcome that none
supersedes yet and no correction stands above both it and what that one corrects. -/
abbrev ExtendsLine (outcomes : List ModelAttemptOutcomeRecord)
    (outcome : ModelAttemptOutcomeRecord) : Prop :=
  Supersession.Extends ModelAttemptOutcomeRecord.outcomeId
    ModelAttemptOutcomeRecord.supersedesOutcomeId ModelAttemptOutcomeRecord.recordedAt
    outcomes outcome

abbrev OutcomeChain (outcomes : List ModelAttemptOutcomeRecord) : Prop :=
  Supersession.Chain ModelAttemptOutcomeRecord.outcomeId
    ModelAttemptOutcomeRecord.supersedesOutcomeId ModelAttemptOutcomeRecord.recordedAt outcomes

theorem outcomeFromRow_of (outcome : ModelAttemptOutcomeRecord) :
    outcomeFromRow (.of outcome) = .ok outcome := by
  have hash : sha256 (OutcomeRow.of outcome).payload.json.dumps =
      (OutcomeRow.of outcome).payloadHash := rfl
  rw [outcomeFromRow, require_of hash, ok_bind]
  rfl

theorem OutcomeRow.recorded_by {outcome : ModelAttemptOutcomeRecord} {cutoff : Moment} :
    (OutcomeRow.of outcome).recordedAt ≤ cutoff.isoformat ↔ outcome.recordedAt ≤ cutoff := by
  have column : (OutcomeRow.of outcome).recordedAt = outcome.recordedAt.isoformat := rfl
  rw [column, isoformat_le_iff]

theorem mem_outcomesOf {outcomes : List ModelAttemptOutcomeRecord} {attemptId : String}
    {outcome : ModelAttemptOutcomeRecord} :
    outcome ∈ outcomesOf outcomes attemptId ↔
      outcome ∈ outcomes ∧ outcome.attemptId = some attemptId := by
  simp [outcomesOf]

section

variable {outcomes : List ModelAttemptOutcomeRecord}
  {captures : List (ProviderResponseArtifact × ModelAttemptOutcomeRecord)}
  {repository after : Repository}

/-- The rows that the read considers are those of the outcomes that govern. -/
theorem mem_governingRows (stored : Stored outcomes captures repository) {attemptId : String}
    {cutoff : Moment} {row : OutcomeRow} :
    row ∈ governingRows repository attemptId cutoff.isoformat ↔
      ∃ outcome, row = .of outcome ∧ Governing (outcomesOf outcomes attemptId) cutoff outcome := by
  rw [governingRows, List.mem_filter, decide_eq_true_eq, stored.rows]
  constructor
  · rintro ⟨member, own, known, unnamed⟩
    obtain ⟨outcome, inside, rfl⟩ := List.mem_map.mp member
    refine ⟨outcome, rfl, mem_outcomesOf.mpr ⟨inside, own⟩, OutcomeRow.recorded_by.mp known, ?_⟩
    intro other other_in visible names
    obtain ⟨listed, other_own⟩ := mem_outcomesOf.mp other_in
    refine unnamed (List.any_eq_true.mpr ⟨.of other, List.mem_map_of_mem listed, ?_⟩)
    exact decide_eq_true ⟨other_own.trans own.symm, OutcomeRow.recorded_by.mpr visible, names⟩
  · rintro ⟨outcome, rfl, inside, visible, unnamed⟩
    obtain ⟨listed, own⟩ := mem_outcomesOf.mp inside
    refine ⟨List.mem_map_of_mem listed, own, OutcomeRow.recorded_by.mpr visible, fun named => ?_⟩
    obtain ⟨row, member, holds⟩ := List.any_eq_true.mp named
    obtain ⟨other, other_in, rfl⟩ := List.mem_map.mp member
    obtain ⟨same, known, names⟩ := of_decide_eq_true holds
    exact unnamed other (mem_outcomesOf.mpr ⟨other_in, same.trans own⟩)
      (OutcomeRow.recorded_by.mp known) names

/-- The read answers with an outcome that governs, if there is one. -/
theorem authoritativeOutcome_spec (stored : Stored outcomes captures repository)
    (attemptId : String) (cutoff : Moment) :
    ∃ governing, authoritativeOutcome repository attemptId cutoff = .ok governing ∧
      (∀ outcome ∈ governing, Governing (outcomesOf outcomes attemptId) cutoff outcome) ∧
      (governing = none →
        ∀ outcome, ¬ Governing (outcomesOf outcomes attemptId) cutoff outcome) := by
  cases first : ((governingRows repository attemptId cutoff.isoformat).mergeSort
      OutcomeRow.after).head? with
  | none =>
      refine ⟨none, by rw [authoritativeOutcome, first], fun _ member => ?_, fun _ outcome governs => ?_⟩
      · exact absurd member (Option.not_mem_none _)
      · have listed := (mem_governingRows stored).mpr ⟨outcome, rfl, governs⟩
        have sorted := (List.mergeSort_perm _ OutcomeRow.after).mem_iff.mpr listed
        rw [List.head?_eq_none_iff.mp first] at sorted
        exact absurd sorted List.not_mem_nil
  | some row =>
      have sorted := List.mem_of_mem_head? first
      have listed := (List.mergeSort_perm _ OutcomeRow.after).mem_iff.mp sorted
      obtain ⟨outcome, rfl, governs⟩ := (mem_governingRows stored).mp listed
      refine ⟨some outcome, ?_, fun other same => ?_, nofun⟩
      · rw [authoritativeOutcome, first]
        dsimp only
        rw [outcomeFromRow_of]
        rfl
      · cases same
        exact governs

/-- Where at most one outcome governs, the read answers with it. -/
theorem authoritativeOutcome_iff (stored : Stored outcomes captures repository)
    {attemptId : String} (sole : SoleGoverning (outcomesOf outcomes attemptId)) (cutoff : Moment) :
    ∃ governing, authoritativeOutcome repository attemptId cutoff = .ok governing ∧
      ∀ outcome, outcome ∈ governing ↔ Governing (outcomesOf outcomes attemptId) cutoff outcome := by
  obtain ⟨governing, read, governs, none_governs⟩ :=
    authoritativeOutcome_spec stored attemptId cutoff
  refine ⟨governing, read, fun outcome => ⟨governs outcome, fun other => ?_⟩⟩
  cases governing with
  | none => exact absurd other (none_governs rfl outcome)
  | some chosen =>
      rw [sole cutoff outcome chosen other (governs chosen rfl)]
      rfl

/-- An outcome that is recorded after the cutoff is not seen there. -/
theorem governingRows_later {row : OutcomeRow} (rows : after.outcomes = repository.outcomes ++ [row])
    {moment : String} (later : ¬ row.recordedAt ≤ moment) (attemptId : String) :
    governingRows after attemptId moment = governingRows repository attemptId moment := by
  have named : ∀ other : OutcomeRow, (after.outcomes.any fun next => next.attemptId = other.attemptId ∧
        next.recordedAt ≤ moment ∧ next.supersedesOutcomeId = some other.outcomeId) =
      repository.outcomes.any fun next => next.attemptId = other.attemptId ∧
        next.recordedAt ≤ moment ∧ next.supersedesOutcomeId = some other.outcomeId := by
    intro other
    rw [rows, List.any_append]
    simp [later]
  rw [governingRows, governingRows]
  simp only [named]
  rw [rows, List.filter_append, List.filter_singleton]
  simp [later]

end

/-- A correction that the store takes extends the line of its attempt. -/
def StoreCall.Conforms (repository : Repository) : StoreCall → Prop
  | .append outcome _ _ => repository.Fresh outcome →
      ∀ attemptId, outcome.attemptId = some attemptId →
        Named (recorded repository attemptId) outcome →
        ExtendsLine (recorded repository attemptId) outcome
  | _ => True

def ConformingCalls (repository : Repository) (call : StoreCall) (after : Repository) : Prop :=
  StoreCalls repository call after ∧ call.Conforms repository

/-- A store in which the outcomes of every attempt are a line. -/
structure Lined (outcomes : List ModelAttemptOutcomeRecord)
    (captures : List (ProviderResponseArtifact × ModelAttemptOutcomeRecord))
    (repository : Repository) : Prop where
  stored : Stored outcomes captures repository
  chain : ∀ attemptId, OutcomeChain (outcomesOf outcomes attemptId)

theorem outcomesOf_append (outcomes : List ModelAttemptOutcomeRecord)
    (outcome : ModelAttemptOutcomeRecord) (attemptId : String) :
    outcomesOf (outcomes ++ [outcome]) attemptId =
      outcomesOf outcomes attemptId ++ if outcome.attemptId = some attemptId then [outcome] else [] := by
  rw [outcomesOf, List.filter_append, List.filter_singleton]
  simp [outcomesOf]

theorem not_mem_of_fresh {outcomes : List ModelAttemptOutcomeRecord}
    {outcome : ModelAttemptOutcomeRecord} {attemptId : String}
    (fresh : outcome.outcomeId ∉ outcomes.map ModelAttemptOutcomeRecord.outcomeId) :
    outcome.outcomeId ∉ (outcomesOf outcomes attemptId).map ModelAttemptOutcomeRecord.outcomeId :=
  fun member => fresh ((List.filter_sublist.map _).subset member)

section

variable {outcomes : List ModelAttemptOutcomeRecord}
  {captures : List (ProviderResponseArtifact × ModelAttemptOutcomeRecord)}
  {repository after : Repository} {outcome : ModelAttemptOutcomeRecord}
  {artifact : Option ProviderResponseArtifact} {authority : AttemptAuthority}

/-- The outcomes that are stored after an append, in terms of those before it. -/
theorem appendOutcome_stored (stored : Stored outcomes captures repository)
    (ok : appendOutcome repository outcome artifact authority = .ok ((), after))
    (fresh : repository.Fresh outcome) :
    ∃ captures', Stored (outcomes ++ [outcome]) captures' after := by
  obtain ⟨lineage, ⟨known, -⟩ | ⟨-, -, rows, change⟩⟩ := appendOutcome_ok stored ok
  · exact absurd fresh known
  · rcases change with ⟨capture, rfl, unseen, artifacts⟩ | ⟨-, same⟩
    · exact ⟨_, stored.append_capture fresh rows unseen artifacts (requireLineage_own lineage)⟩
    · exact ⟨_, stored.append fresh rows same⟩

theorem Lined.append (lined : Lined outcomes captures repository)
    (conforms : (StoreCall.append outcome artifact authority).Conforms repository)
    (ok : appendOutcome repository outcome artifact authority = .ok ((), after)) :
    ∃ outcomes' captures', Lined outcomes' captures' after := by
  obtain ⟨-, ⟨-, rfl⟩ | ⟨fresh, named, -⟩⟩ := appendOutcome_ok lined.stored ok
  · exact ⟨_, _, lined⟩
  obtain ⟨captures', stored⟩ := appendOutcome_stored lined.stored ok fresh
  refine ⟨_, _, stored, fun attemptId => ?_⟩
  rw [outcomesOf_append]
  by_cases own : outcome.attemptId = some attemptId
  · rw [if_pos own]
    have follows := conforms fresh attemptId own
    rw [lined.stored.recorded_eq] at follows
    exact (lined.chain attemptId).append
      (not_mem_of_fresh (lined.stored.fresh_iff.mp fresh)) (follows (named attemptId own))
  · rw [if_neg own, List.append_nil]
    exact lined.chain attemptId

theorem Lined.call {call : StoreCall} (lined : Lined outcomes captures repository)
    (step : ConformingCalls repository call after) :
    ∃ outcomes' captures', Lined outcomes' captures' after := by
  obtain ⟨called, conforms⟩ := step
  rw [StoreCalls] at called
  subst called
  refine committed_cases (P := fun after => ∃ outcomes' captures', Lined outcomes' captures' after)
    ⟨_, _, lined⟩ ?_
  intro _ after ok
  cases call with
  | persist attempt handoff evidence authority =>
      exact ⟨_, _, lined.stored.keep (persistAttemptAndHandoff_keeps ok), lined.chain⟩
  | consume handoffId consumedAt =>
      exact ⟨_, _, lined.stored.keep (consumeHandoffOnce_keeps ok), lined.chain⟩
  | append outcome artifact authority => exact lined.append conforms ok

end

theorem Lined.run {calls : List StoreCall} {repository : Repository}
    (run : Run ConformingCalls emptyRepository calls repository) :
    ∃ outcomes captures, Lined outcomes captures repository := by
  refine run.preserves (fun repository => ∃ outcomes captures, Lined outcomes captures repository)
    ?_ ⟨[], [], stored_empty, fun _ => Supersession.Chain.nil⟩
  rintro before call after ⟨_, _, lined⟩ step
  exact lined.call step

/-- In every state that conforming calls reach, at most one outcome of an attempt governs
at a cutoff and the read returns it, and a further outcome keeps this so exactly when it
extends the line of its attempt. In every state at all, an outcome that is recorded
after a cutoff does not change the answer there. -/
theorem authoritativeOutcome_sole {calls : List StoreCall} {repository : Repository}
    (attemptId : String) :
    (Run ConformingCalls emptyRepository calls repository →
      (∀ cutoff, ∃ governing, authoritativeOutcome repository attemptId cutoff = .ok governing ∧
        ∀ outcome, outcome ∈ governing ↔ Governing (recorded repository attemptId) cutoff outcome) ∧
      ∀ outcome artifact authority after,
        appendOutcome repository outcome artifact authority = .ok ((), after) →
        repository.Fresh outcome → outcome.attemptId = some attemptId →
        (SoleGoverning (recorded after attemptId) ↔
          ExtendsLine (recorded repository attemptId) outcome)) ∧
    (Run StoreCalls emptyRepository calls repository →
      ∀ outcome artifact authority after,
        appendOutcome repository outcome artifact authority = .ok ((), after) →
        ∀ cutoff, cutoff < outcome.recordedAt →
          authoritativeOutcome after attemptId cutoff =
            authoritativeOutcome repository attemptId cutoff) := by
  constructor
  · intro run
    obtain ⟨outcomes, captures, lined⟩ := Lined.run run
    have stored := lined.stored
    have chain := lined.chain attemptId
    refine ⟨fun cutoff => ?_, fun outcome artifact authority after ok fresh own => ?_⟩
    · rw [stored.recorded_eq]
      exact authoritativeOutcome_iff stored chain.sole cutoff
    · obtain ⟨captures', stored'⟩ := appendOutcome_stored stored ok fresh
      rw [stored'.recorded_eq, stored.recorded_eq, outcomesOf_append, if_pos own]
      have new : outcome.outcomeId ∉
          (outcomesOf outcomes attemptId).map ModelAttemptOutcomeRecord.outcomeId :=
        not_mem_of_fresh (stored.fresh_iff.mp fresh)
      have named : Named (outcomesOf outcomes attemptId) outcome := by
        obtain ⟨-, ⟨known, -⟩ | ⟨-, named, -⟩⟩ := appendOutcome_ok stored ok
        · exact absurd fresh known
        · exact named attemptId own
      exact ⟨chain.extends_of_sole new named, fun follows => (chain.append new follows).sole⟩
  · intro run outcome artifact authority after ok cutoff later
    obtain ⟨_, _, extended⟩ := stored_empty.run run
    obtain ⟨-, ⟨-, rfl⟩ | ⟨-, -, rows, -⟩⟩ := appendOutcome_ok extended.stored ok
    · rfl
    · have unseen : ¬ (OutcomeRow.of outcome).recordedAt ≤ cutoff.isoformat := by
        rw [OutcomeRow.recorded_by]
        exact Fin.not_le.mpr later
      rw [authoritativeOutcome, authoritativeOutcome, governingRows_later rows unseen]

def sampleMoment (seconds : Fin 100) : Moment := ⟨seconds, Nat.lt_trans seconds.isLt (by decide)⟩

def sampleDecision : Decision := ⟨"fact", "policy", "registry", "rule", "ALLOW", "DENY", .obj []⟩

def sampleAuthority : AttemptAuthority := ⟨sampleMoment 5, .ok sampleDecision⟩

def sampleEvidence : ProviderRequestEvidence where
  state := .unavailableByPolicy
  reasonCode := some "REQUEST_CONTENT_RETENTION_PROHIBITED"
  contentHash := none
  measuredSizeBytes := none
  contentDerivedIdentity := none
  withheld := fun _ => ⟨rfl, rfl, rfl, _, rfl, by decide⟩

def sampleAttempt : ModelAttemptRecord where
  executionOwnerId := "owner"
  buildRecordId := "build"
  promptArtifactId := "prompt"
  executionProfileIdentity := "profile"
  requestEvidenceIdentity := "provider-request-evidence:" ++
    "892d9e7599299a1a422e0ef43d7852dc910832cffe4910f8737bcfa93d817428"
  requestEvidenceState := .unavailableByPolicy
  attemptOrdinal := 1
  buildCutoff := sampleMoment 4
  attemptCutoff := sampleMoment 5
  recordedAt := sampleMoment 5
  idempotencyCapability := .unknown
  predecessorAttemptId := none
  ordinal_pos := Nat.le_refl 1
  lineage := by decide

def sampleHandoff : ModelHandoffRecord where
  attemptId := sampleAttempt.attemptId
  buildRecordId := "build"
  promptArtifactId := "prompt"
  executionProfileIdentity := "profile"
  requestEvidenceIdentity := sampleAttempt.requestEvidenceIdentity
  factRecordId := "fact"
  policyRecordId := "policy"
  fieldCategoryRegistryId := "registry"
  authorizationRuleId := "rule"
  attemptCutoff := sampleMoment 5
  durableDispositionIdentity := dispositionIdentity sampleDecision
  dispatchCapabilityIdentity := none
  expiresAt := none
  expires_later := by simp
  resolved := by decide

def sampleAttemptId : String :=
  "model-attempt:" ++ "cecbd335ee9eb0e3bbc272204a96e10e1b8b9bd65f1f994234840d1d489673f0"

def sampleOutcome (recordedAt : Moment) (supersedes : Option String) : ModelAttemptOutcomeRecord where
  buildRecordId := "build"
  promptArtifactId := "prompt"
  executionProfileIdentity := "profile"
  transportIdentity := "transport"
  transportVersion := "1"
  outcome := .succeededTransport
  deliveryCertainty := .answered
  executionEvidence := .returnedCompletion
  retryAuthorization := .notApplicable
  attemptCutoff := sampleMoment 5
  recordedAt := recordedAt
  reasonCode := "RESPONSE_RECEIVED"
  attemptId := some sampleAttemptId
  handoffId := none
  predecessorAttemptId := none
  supersedesOutcomeId := supersedes
  dispatchedAt := none
  responseArtifactIdentity := none
  responseEvidenceState := some .unavailableByPolicy
  correlationIdentity := none
  idempotencyIdentity := none
  reason_ne := by decide
  certain := by simp [requiredDeliveryCertainty]
  not_transmitted := fun _ => rfl
  authorized := fun _ => rfl
  captured := fun named => absurd named (by decide)
  delivered := fun _ => rfl
  retried := fun claimed => absurd claimed (by decide)

def sampleFirstId : String :=
  "model-attempt-outcome:" ++ "836f9f5f12c298ecede9ccb12459af3363ab3cf132bac7f0ea0db6d1f61ffa6e"

def sampleFirst : ModelAttemptOutcomeRecord := sampleOutcome (sampleMoment 6) none

def sampleSecond : ModelAttemptOutcomeRecord := sampleOutcome (sampleMoment 7) (some sampleFirstId)

def sampleThird : ModelAttemptOutcomeRecord := sampleOutcome (sampleMoment 8) (some sampleFirstId)

/-- The identities are digests, each evaluated once. -/
theorem sample_identities :
    sampleEvidence.requestEvidenceIdentity = sampleAttempt.requestEvidenceIdentity ∧
    sampleAttempt.attemptId = sampleAttemptId ∧
    sampleFirst.outcomeId = sampleFirstId ∧
    sampleSecond.outcomeId = "model-attempt-outcome:" ++
      "425d30a6e5d2a87a1f4ffd2a0e4e6b22725598796fd51406b102f65d0f99f926" ∧
    sampleThird.outcomeId = "model-attempt-outcome:" ++
      "29a161dce0e44f52ba7a4664cb69d8bf5911cf6dc94e82d73af75dc6146ebb31" := by
  refine ⟨?evidence, ?attempt, ?first, ?second, ?third⟩
  case evidence => exact identity_text (by decide)
  case attempt => exact identity_text (by decide)
  case first => exact identity_text (by decide)
  case second => exact identity_text (by decide)
  case third => exact identity_text (by decide +kernel)

theorem sampleEvidence_identity :
    sampleEvidence.requestEvidenceIdentity = sampleAttempt.requestEvidenceIdentity :=
  sample_identities.1

theorem sampleAttempt_id : sampleAttempt.attemptId = sampleAttemptId :=
  sample_identities.2.1

theorem sampleFirst_id : sampleFirst.outcomeId = sampleFirstId :=
  sample_identities.2.2.1

theorem sampleSecond_id : sampleSecond.outcomeId = "model-attempt-outcome:" ++
    "425d30a6e5d2a87a1f4ffd2a0e4e6b22725598796fd51406b102f65d0f99f926" :=
  sample_identities.2.2.2.1

theorem sampleThird_id : sampleThird.outcomeId = "model-attempt-outcome:" ++
    "29a161dce0e44f52ba7a4664cb69d8bf5911cf6dc94e82d73af75dc6146ebb31" :=
  sample_identities.2.2.2.2

theorem sampleSecond_corrects : sampleSecond.supersedesOutcomeId = some sampleFirst.outcomeId :=
  congrArg some sampleFirst_id.symm

theorem sampleSecond_ne : sampleSecond.outcomeId ≠ sampleFirst.outcomeId := by
  rw [sampleSecond_id, sampleFirst_id]
  decide

def sampleStored (outcomes : List ModelAttemptOutcomeRecord) (artifacts : List ArtifactRow) :
    Repository where
  attempts := [.of sampleAttempt]
  handoffs := [.of sampleAttempt sampleHandoff sampleEvidence]
  outcomes := outcomes.map .of
  artifacts := artifacts

theorem sample_verified :
    verifyAuthority sampleAttempt sampleHandoff sampleEvidence sampleAuthority = .ok () := by
  have decision : rederived sampleAuthority = .ok sampleDecision := rfl
  have disposition : sampleHandoff.durableDispositionIdentity = dispositionIdentity sampleDecision :=
    rfl
  have permitted : permittedRequestEvidenceState sampleDecision = .unavailableByPolicy := rfl
  rw [verifyAuthority, decision, ok_bind]
  dsimp only
  rw [require_of disposition, permitted]
  rfl

theorem sample_persisted : persistAttemptAndHandoff emptyRepository sampleAttempt sampleHandoff
    sampleEvidence sampleAuthority = .ok ((), sampleStored [] []) := by
  have owner : sampleHandoff.attemptId = sampleAttempt.attemptId := rfl
  rw [persistAttemptAndHandoff, require_of owner, ok_bind, require_of sampleEvidence_identity,
    sample_verified]
  rfl

/-- An outcome of the sample attempt is appended, as what it supersedes and the artifact
that comes with it allow. -/
theorem sample_appends (outcomes : List ModelAttemptOutcomeRecord) (recordedAt : Moment)
    (supersedes : Option String) (artifact : Option ProviderResponseArtifact)
    (artifacts artifacts' : List ArtifactRow)
    (others : ∀ other ∈ outcomes, other.attemptId = some sampleAttemptId)
    (fresh : ∀ other ∈ outcomes, other.outcomeId ≠ (sampleOutcome recordedAt supersedes).outcomeId)
    (named : Named outcomes (sampleOutcome recordedAt supersedes))
    (lineage : requireLineage (sampleOutcome recordedAt supersedes) artifact = .ok ())
    (verified : verifyOutcome (sampleOutcome recordedAt supersedes) artifact sampleAuthority = .ok ())
    (inserted : insertArtifact
      (sampleStored (outcomes ++ [sampleOutcome recordedAt supersedes]) artifacts)
      (sampleOutcome recordedAt supersedes).outcomeId artifact =
        .ok (sampleStored (outcomes ++ [sampleOutcome recordedAt supersedes]) artifacts')) :
    appendOutcome (sampleStored outcomes artifacts) (sampleOutcome recordedAt supersedes) artifact
        sampleAuthority =
      .ok ((), sampleStored (outcomes ++ [sampleOutcome recordedAt supersedes]) artifacts') := by
  have attempt : requireAttempt (sampleStored outcomes artifacts)
      (sampleOutcome recordedAt supersedes).attemptId = .ok () :=
    require_of (List.any_eq_true.mpr
      ⟨_, List.mem_singleton_self _, decide_eq_true sampleAttempt_id⟩)
  have unknown : (sampleStored outcomes artifacts).outcomes.find? (fun row =>
      row.outcomeId = (sampleOutcome recordedAt supersedes).outcomeId) = none := by
    apply List.find?_eq_none.mpr
    intro row member
    obtain ⟨other, listed, rfl⟩ := List.mem_map.mp member
    exact fun same => fresh other listed (of_decide_eq_true same)
  have prior : (sampleStored outcomes artifacts).outcomes.filter (fun row =>
      row.attemptId = some sampleAttemptId) = outcomes.map OutcomeRow.of := by
    apply List.filter_eq_self.mpr
    intro row member
    obtain ⟨other, listed, rfl⟩ := List.mem_map.mp member
    exact decide_eq_true (others other listed)
  have supersession : requireSupersession (sampleStored outcomes artifacts)
      (sampleOutcome recordedAt supersedes) = .ok () := by
    rw [requireSupersession.eq_def]
    show (require _ _ >>= fun _ => require _ _) = _
    rw [prior]
    rcases named with ⟨empty, none⟩ | ⟨p, member, names⟩
    · have first : outcomes.map OutcomeRow.of = [] := by rw [empty]; rfl
      rw [require_of (Or.inl first), ok_bind, none]
      exact require_of (by simp)
    · have corrects : (sampleOutcome recordedAt supersedes).supersedesOutcomeId ≠ none := by
        simp [names]
      rw [require_of (Or.inr corrects), ok_bind]
      apply require_of
      intro superseded same
      cases names.symm.trans same
      rw [List.map_map]
      exact List.mem_map.mpr ⟨p, member, rfl⟩
  have rows : (sampleStored outcomes artifacts).outcomes ++ [.of (sampleOutcome recordedAt supersedes)] =
      (sampleStored (outcomes ++ [sampleOutcome recordedAt supersedes]) artifacts).outcomes :=
    by rw [sampleStored, sampleStored, List.map_append]; rfl
  rw [appendOutcome.eq_def, lineage, ok_bind, verified, ok_bind, attempt, ok_bind, unknown]
  dsimp only
  rw [supersession, ok_bind, rows]
  show (insertArtifact (sampleStored _ artifacts) _ artifact >>= _) = _
  rw [inserted]
  rfl

theorem sample_first : appendOutcome (sampleStored [] []) sampleFirst none sampleAuthority =
    .ok ((), sampleStored [sampleFirst] []) :=
  sample_appends [] _ none none [] [] (by simp) (by simp) (Or.inl ⟨rfl, rfl⟩) rfl rfl rfl

theorem sample_second : appendOutcome (sampleStored [sampleFirst] []) sampleSecond none
    sampleAuthority = .ok ((), sampleStored [sampleFirst, sampleSecond] []) := by
  refine sample_appends [sampleFirst] _ _ none [] [] (by simp [sampleFirst, sampleOutcome]) ?_
    (Or.inr ⟨_, List.mem_singleton_self _, congrArg some sampleFirst_id.symm⟩) rfl rfl rfl
  intro other member
  rw [List.mem_singleton.mp member]
  exact sampleSecond_ne.symm

theorem sample_third : appendOutcome (sampleStored [sampleFirst, sampleSecond] []) sampleThird none
    sampleAuthority = .ok ((), sampleStored [sampleFirst, sampleSecond, sampleThird] []) := by
  refine sample_appends [sampleFirst, sampleSecond] _ _ none [] []
    (by simp [sampleFirst, sampleSecond, sampleOutcome]) ?_
    (Or.inr ⟨_, List.mem_cons_self, congrArg some sampleFirst_id.symm⟩) rfl rfl rfl
  rw [← sampleThird, sampleThird_id]
  simp only [List.mem_cons, List.not_mem_nil, or_false, forall_eq_or_imp, forall_eq, sampleFirst_id,
    sampleSecond_id]
  decide

theorem StoreCalls.of_ok {repository after : Repository} {call : StoreCall}
    (done : call.result repository = .ok ((), after)) : StoreCalls repository call after := by
  rw [StoreCalls, done]
  rfl

theorem sample_run : Run StoreCalls emptyRepository
    [.persist sampleAttempt sampleHandoff sampleEvidence sampleAuthority,
      .append sampleFirst none sampleAuthority] (sampleStored [sampleFirst] []) :=
  .cons (StoreCalls.of_ok sample_persisted) (.cons (StoreCalls.of_ok sample_first) .nil)

/-- Two corrections supersede the same outcome, and both of them govern. -/
theorem authoritativeOutcome_forked : ∃ repository,
    Run StoreCalls emptyRepository
      [.persist sampleAttempt sampleHandoff sampleEvidence sampleAuthority,
        .append sampleFirst none sampleAuthority, .append sampleSecond none sampleAuthority,
        .append sampleThird none sampleAuthority] repository ∧
    Governing (recorded repository sampleAttemptId) (sampleMoment 8) sampleSecond ∧
    Governing (recorded repository sampleAttemptId) (sampleMoment 8) sampleThird ∧
    sampleSecond ≠ sampleThird := by
  have listed : recorded (sampleStored [sampleFirst, sampleSecond, sampleThird] [])
      sampleAttemptId = [sampleFirst, sampleSecond, sampleThird] := rfl
  have unnamed : ∀ outcome : ModelAttemptOutcomeRecord, outcome.outcomeId ≠ sampleFirstId →
      ∀ other ∈ [sampleFirst, sampleSecond, sampleThird],
        other.supersedesOutcomeId ≠ some outcome.outcomeId := by
    intro outcome different other member
    rcases List.mem_cons.mp member with rfl | corrections
    · exact (Option.some_ne_none _).symm
    · have names : other.supersedesOutcomeId = some sampleFirstId := by
        simp only [List.mem_cons, List.not_mem_nil, or_false] at corrections
        rcases corrections with rfl | rfl <;> rfl
      rw [names]
      exact fun same => different (Option.some.inj same).symm
  refine ⟨sampleStored [sampleFirst, sampleSecond, sampleThird] [], ?_, ?_, ?_, by decide⟩
  · exact .cons (StoreCalls.of_ok sample_persisted) (.cons (StoreCalls.of_ok sample_first)
      (.cons (StoreCalls.of_ok sample_second) (.cons (StoreCalls.of_ok sample_third) .nil)))
  · rw [listed]
    refine ⟨by simp, by decide, fun other member _ => unnamed _ ?_ other member⟩
    rw [sampleSecond_id]
    decide
  · rw [listed]
    refine ⟨by simp, by decide, fun other member _ => unnamed _ ?_ other member⟩
    rw [sampleThird_id]
    decide

/-- One outcome governs, and its correction leaves the answer of earlier cutoffs. -/
theorem authoritativeOutcome_sole_sample :
    (∃ governing, authoritativeOutcome (sampleStored [sampleFirst] []) sampleAttemptId
        (sampleMoment 6) = .ok governing ∧
      ∀ outcome, outcome ∈ governing ↔ Governing
        (recorded (sampleStored [sampleFirst] []) sampleAttemptId) (sampleMoment 6) outcome) ∧
    authoritativeOutcome (sampleStored [sampleFirst, sampleSecond] []) sampleAttemptId
      (sampleMoment 6) =
      authoritativeOutcome (sampleStored [sampleFirst] []) sampleAttemptId (sampleMoment 6) := by
  have first : ConformingCalls (sampleStored [] []) (.append sampleFirst none sampleAuthority)
      (sampleStored [sampleFirst] []) :=
    ⟨StoreCalls.of_ok sample_first, fun _ _ _ _ => Or.inl ⟨rfl, rfl⟩⟩
  have conforming : Run ConformingCalls emptyRepository
      [.persist sampleAttempt sampleHandoff sampleEvidence sampleAuthority,
        .append sampleFirst none sampleAuthority] (sampleStored [sampleFirst] []) :=
    .cons ⟨StoreCalls.of_ok sample_persisted, trivial⟩ (.cons first .nil)
  exact ⟨((authoritativeOutcome_sole sampleAttemptId).1 conforming).1 _,
    (authoritativeOutcome_sole sampleAttemptId).2 sample_run _ _ _ _ sample_second _ (by decide)⟩

end Hunter.ModelAdapter
