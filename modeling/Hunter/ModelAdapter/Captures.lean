import Hunter.ModelAdapter.Outcomes

/-!
Response captures. An artifact that comes with a new outcome, recorded no later than it
and never seen before, is what every read of the attempt resolves to wherever that
outcome governs. An artifact that was stored under another outcome stays there, so a
correction that attaches it again is not resolved.
-/

namespace Hunter.ModelAdapter

open Calendar Fallible ResponseValidator

/-- The artifact is recorded no later than the outcome, and either both are new or both
are there, the artifact under the outcome. -/
def Attaches (repository : Repository) (outcome : ModelAttemptOutcomeRecord)
    (artifact : ProviderResponseArtifact) : Prop :=
  artifact.recordedAt ≤ outcome.recordedAt ∧
    ((repository.Fresh outcome ∧ repository.Unseen artifact) ∨
      (OutcomeRow.of outcome ∈ repository.outcomes ∧
        ArtifactRow.of artifact outcome.outcomeId ∈ repository.artifacts))

/-- The outcome and the artifact are durable, and from then on both reads answer with
them at every cutoff at which the outcome governs. -/
structure Resolves (after : Repository) (outcome : ModelAttemptOutcomeRecord)
    (artifact : ProviderResponseArtifact) : Prop where
  outcome_stored : OutcomeRow.of outcome ∈ after.outcomes
  artifact_stored : ∃ row ∈ after.artifacts, row.payload = artifact
  reads : ∀ later final, Run StoreCalls after later final → ∀ cutoff,
    authoritativeOutcome final artifact.attemptId cutoff = .ok (some outcome) →
    strictKnownResponseArtifact final artifact.attemptId cutoff = .ok (some artifact) ∧
    strictKnownResponseCapture final artifact.responseArtifactIdentity cutoff =
      .ok (some (artifact, outcome))

theorem artifactFromRow_of (artifact : ProviderResponseArtifact) (outcomeId : String) :
    artifactFromRow (.of artifact outcomeId) = .ok artifact := by
  have hash : sha256 (ArtifactRow.of artifact outcomeId).payload.json.dumps =
      (ArtifactRow.of artifact outcomeId).payloadHash := rfl
  rw [artifactFromRow, require_of hash, ok_bind]
  rfl

theorem ArtifactRow.recorded_by {artifact : ProviderResponseArtifact} {outcomeId : String}
    {cutoff : Moment} :
    (ArtifactRow.of artifact outcomeId).recordedAt ≤ cutoff.isoformat ↔
      artifact.recordedAt ≤ cutoff := by
  have column : (ArtifactRow.of artifact outcomeId).recordedAt = artifact.recordedAt.isoformat := rfl
  rw [column, isoformat_le_iff]

section

variable {outcomes : List ModelAttemptOutcomeRecord}
  {captures : List (ProviderResponseArtifact × ModelAttemptOutcomeRecord)}
  {repository : Repository} {outcome : ModelAttemptOutcomeRecord}
  {artifact : ProviderResponseArtifact}

/-- The rows of a store are those of its captures. -/
theorem Stored.mem_artifacts (stored : Stored outcomes captures repository) {row : ArtifactRow} :
    row ∈ repository.artifacts ↔
      ∃ capture ∈ captures, row = .of capture.1 capture.2.outcomeId := by
  rw [stored.artifacts, List.mem_map]
  exact exists_congr fun _ => and_congr_right fun _ => eq_comm

theorem Stored.mem_outcomes (stored : Stored outcomes captures repository) :
    OutcomeRow.of outcome ∈ repository.outcomes ↔ outcome ∈ outcomes := by
  rw [stored.rows, List.mem_map]
  constructor
  · rintro ⟨other, member, same⟩
    have payload : other = outcome := congrArg OutcomeRow.payload same
    exact payload ▸ member
  · exact fun member => ⟨outcome, member, rfl⟩

/-- An artifact that stands under an outcome is a capture of the two. -/
theorem Stored.mem_captures (stored : Stored outcomes captures repository)
    (outcome_in : outcome ∈ outcomes)
    (row : ArtifactRow.of artifact outcome.outcomeId ∈ repository.artifacts) :
    (artifact, outcome) ∈ captures := by
  obtain ⟨capture, member, same⟩ := stored.mem_artifacts.mp row
  have first : artifact = capture.1 := congrArg ArtifactRow.payload same
  have ids : outcome.outcomeId = capture.2.outcomeId := congrArg ArtifactRow.outcomeId same
  have second : outcome = capture.2 :=
    List.inj_on_of_nodup_map stored.distinct outcome_in (stored.owned capture member).1 ids
  rw [first, second]
  exact member

/-- The row of an artifact is the one that its identity finds. -/
theorem Stored.find_artifact (stored : Stored outcomes captures repository)
    (member : (artifact, outcome) ∈ captures) {cutoff : Moment}
    (visible : artifact.recordedAt ≤ cutoff) :
    (repository.artifacts.find? fun row =>
      row.responseArtifactId = artifact.responseArtifactIdentity ∧
        row.recordedAt ≤ cutoff.isoformat) = some (.of artifact outcome.outcomeId) := by
  refine Lineage.find?_of_unique (stored.mem_artifacts.mpr ⟨_, member, rfl⟩)
    (decide_eq_true ⟨rfl, ArtifactRow.recorded_by.mpr visible⟩) fun row inside accepted => ?_
  obtain ⟨capture, listed, rfl⟩ := stored.mem_artifacts.mp inside
  have ids : capture.1.responseArtifactIdentity = artifact.responseArtifactIdentity :=
    (of_decide_eq_true accepted).1
  rw [List.inj_on_of_nodup_map stored.identities listed member ids]

theorem Stored.find_outcome (stored : Stored outcomes captures repository)
    (member : outcome ∈ outcomes) {cutoff : Moment} (visible : outcome.recordedAt ≤ cutoff) :
    (repository.outcomes.find? fun row => row.outcomeId = outcome.outcomeId ∧
      row.recordedAt ≤ cutoff.isoformat) = some (.of outcome) := by
  refine Lineage.find?_of_unique (stored.mem_outcomes.mpr member)
    (decide_eq_true ⟨rfl, OutcomeRow.recorded_by.mpr visible⟩) fun row inside accepted => ?_
  rw [stored.rows] at inside
  obtain ⟨other, listed, rfl⟩ := List.mem_map.mp inside
  have ids : other.outcomeId = outcome.outcomeId := (of_decide_eq_true accepted).1
  rw [List.inj_on_of_nodup_map stored.distinct listed member ids]

/-- An outcome that the read answers with is known at the cutoff. -/
theorem authoritativeOutcome_known (stored : Stored outcomes captures repository)
    {attemptId : String} {cutoff : Moment}
    (read : authoritativeOutcome repository attemptId cutoff = .ok (some outcome)) :
    outcome ∈ outcomes ∧ outcome.recordedAt ≤ cutoff := by
  obtain ⟨governing, answer, governs, -⟩ := authoritativeOutcome_spec stored attemptId cutoff
  rw [answer] at read
  obtain ⟨member, visible, -⟩ := governs outcome (Except.ok.inj read)
  exact ⟨(mem_outcomesOf.mp member).1, visible⟩

/-- The artifact of the governing outcome is the only one that the first search sees. -/
theorem Stored.own_artifact (stored : Stored outcomes captures repository)
    (member : (artifact, outcome) ∈ captures) {cutoff : Moment}
    (visible : artifact.recordedAt ≤ cutoff) :
    latestArtifact repository artifact.attemptId cutoff.isoformat
      (fun row => row.outcomeId = outcome.outcomeId) = some (.of artifact outcome.outcomeId) := by
  rw [latestArtifact]
  generalize selected : repository.artifacts.filter (fun row =>
    row.attemptId = artifact.attemptId && decide (row.outcomeId = outcome.outcomeId) &&
      row.recordedAt ≤ cutoff.isoformat) = rows
  have inside : ArtifactRow.of artifact outcome.outcomeId ∈ rows := by
    rw [← selected, List.mem_filter]
    refine ⟨stored.mem_artifacts.mpr ⟨_, member, rfl⟩, ?_⟩
    rw [Bool.and_eq_true, Bool.and_eq_true, decide_eq_true_eq, decide_eq_true_eq,
      decide_eq_true_eq, ArtifactRow.recorded_by]
    exact ⟨⟨rfl, rfl⟩, visible⟩
  have only : ∀ row ∈ rows, row = ArtifactRow.of artifact outcome.outcomeId := by
    intro row listed
    rw [← selected, List.mem_filter, Bool.and_eq_true, Bool.and_eq_true, decide_eq_true_eq,
      decide_eq_true_eq] at listed
    obtain ⟨known, ⟨-, own⟩, -⟩ := listed
    obtain ⟨capture, capture_in, rfl⟩ := stored.mem_artifacts.mp known
    rw [List.inj_on_of_nodup_map stored.owners capture_in member own]
  cases first : (rows.mergeSort ArtifactRow.after).head? with
  | none =>
      have sorted := (List.mergeSort_perm rows ArtifactRow.after).mem_iff.mpr inside
      rw [List.head?_eq_none_iff.mp first] at sorted
      exact absurd sorted List.not_mem_nil
  | some row =>
      have listed := (List.mergeSort_perm rows ArtifactRow.after).mem_iff.mp
        (List.mem_of_mem_head? first)
      rw [only row listed]

/-- The read of a capture comes down to the outcome that governs its attempt. -/
theorem Stored.capture_eq (stored : Stored outcomes captures repository)
    (member : (artifact, outcome) ∈ captures) {cutoff : Moment}
    (visible : artifact.recordedAt ≤ cutoff) (known : outcome.recordedAt ≤ cutoff) :
    strictKnownResponseCapture repository artifact.responseArtifactIdentity cutoff = (do
      let governing ← authoritativeOutcome repository artifact.attemptId cutoff
      require (governing.map (·.outcomeId) = some outcome.outcomeId) (.persistenceCorruption
        "response capture is not attached to the strict-known authoritative attempt outcome")
      .ok (some (artifact, outcome))) := by
  have own := stored.owned _ member
  have column : (ArtifactRow.of artifact outcome.outcomeId).outcomeId = outcome.outcomeId := rfl
  have identity_column : (ArtifactRow.of artifact outcome.outcomeId).responseArtifactId =
      artifact.responseArtifactIdentity := rfl
  have attempt_column : (ArtifactRow.of artifact outcome.outcomeId).attemptId =
      artifact.attemptId := rfl
  rw [strictKnownResponseCapture, stored.find_artifact member visible]
  dsimp only
  rw [column, stored.find_outcome own.1 known]
  dsimp only
  rw [artifactFromRow_of, ok_bind, identity_column, require_of rfl, ok_bind, outcomeFromRow_of,
    ok_bind, require_of rfl, ok_bind, attempt_column, require_of ⟨rfl, own.2⟩, ok_bind]

/-- Where an outcome governs, the reads answer with it and its capture. -/
theorem Stored.reads (stored : Stored outcomes captures repository)
    (member : (artifact, outcome) ∈ captures) (early : artifact.recordedAt ≤ outcome.recordedAt)
    {cutoff : Moment}
    (governs : authoritativeOutcome repository artifact.attemptId cutoff = .ok (some outcome)) :
    strictKnownResponseArtifact repository artifact.attemptId cutoff = .ok (some artifact) ∧
      strictKnownResponseCapture repository artifact.responseArtifactIdentity cutoff =
        .ok (some (artifact, outcome)) := by
  have known := (authoritativeOutcome_known stored governs).2
  have visible := early.trans known
  constructor
  · rw [strictKnownResponseArtifact, governs, ok_bind]
    dsimp only
    rw [Option.bind_some, stored.own_artifact member visible, Option.some_or]
    dsimp only
    rw [artifactFromRow_of]
    rfl
  · rw [stored.capture_eq member visible known, governs, ok_bind,
      require_of (Option.map_some ..), ok_bind]

/-- Where another outcome governs, the capture is refused. -/
theorem Stored.stranded {other : ModelAttemptOutcomeRecord}
    (stored : Stored outcomes captures repository) (member : (artifact, outcome) ∈ captures)
    {cutoff : Moment} (visible : artifact.recordedAt ≤ cutoff) (known : outcome.recordedAt ≤ cutoff)
    (governs : authoritativeOutcome repository artifact.attemptId cutoff = .ok (some other))
    (different : other.outcomeId ≠ outcome.outcomeId) :
    strictKnownResponseCapture repository artifact.responseArtifactIdentity cutoff =
      .error (.persistenceCorruption
        "response capture is not attached to the strict-known authoritative attempt outcome") := by
  have refused : ¬ (some other).map (·.outcomeId) = some outcome.outcomeId :=
    fun same => different (Option.some.inj same)
  rw [stored.capture_eq member visible known, governs, ok_bind, require, if_neg refused]
  rfl

end

/-- What a capture answers with stands under one outcome, and is known at the cutoff. -/
theorem strictKnownResponseCapture_known {outcomes : List ModelAttemptOutcomeRecord}
    {captures : List (ProviderResponseArtifact × ModelAttemptOutcomeRecord)}
    {repository : Repository} {outcome : ModelAttemptOutcomeRecord}
    {artifact : ProviderResponseArtifact} (stored : Stored outcomes captures repository)
    {capture : String} {cutoff : Moment}
    (read : strictKnownResponseCapture repository capture cutoff = .ok (some (artifact, outcome))) :
    (artifact, outcome) ∈ captures ∧ artifact.recordedAt ≤ cutoff := by
  rw [strictKnownResponseCapture.eq_def] at read
  cases search : repository.artifacts.find? (fun row =>
      row.responseArtifactId = capture ∧ row.recordedAt ≤ cutoff.isoformat) with
  | none =>
      rw [search] at read
      cases read
  | some row =>
      rw [search] at read
      have accepted := List.find?_some search
      obtain ⟨pair, member, rfl⟩ := stored.mem_artifacts.mp (List.mem_of_find?_eq_some search)
      dsimp only at read
      cases found : repository.outcomes.find? (fun other =>
          other.outcomeId = (ArtifactRow.of pair.1 pair.2.outcomeId).outcomeId ∧
            other.recordedAt ≤ cutoff.isoformat) with
      | none =>
          rw [found] at read
          cases read
      | some outcomeRow =>
          rw [found] at read
          have met := List.find?_some found
          have own := (of_decide_eq_true met).1
          have listed := List.mem_of_find?_eq_some found
          rw [stored.rows] at listed
          obtain ⟨other, other_in, rfl⟩ := List.mem_map.mp listed
          have same : other = pair.2 := List.inj_on_of_nodup_map stored.distinct other_in
            (stored.owned pair member).1 own
          dsimp only at read
          rw [artifactFromRow_of, ok_bind] at read
          replace read := (require_bind_ok.mp read).2
          rw [outcomeFromRow_of, ok_bind] at read
          replace read := (require_bind_ok.mp (require_bind_ok.mp read).2).2
          obtain ⟨governing, -, read⟩ := bind_ok.mp read
          cases (require_bind_ok.mp read).2
          subst same
          exact ⟨member, ArtifactRow.recorded_by.mp (of_decide_eq_true accepted).2⟩

/-- An append of an outcome with an artifact, in every state that the store reaches: both
are durable and both reads answer with them wherever the outcome governs, if the artifact
attaches to the outcome, and only then if the outcome governs at its own time. -/
theorem responseCapture_resolves {calls : List StoreCall} {repository after : Repository}
    (run : Run StoreCalls emptyRepository calls repository) {outcome : ModelAttemptOutcomeRecord}
    {artifact : ProviderResponseArtifact} {authority : AttemptAuthority}
    (ok : appendOutcome repository outcome (some artifact) authority = .ok ((), after)) :
    (Attaches repository outcome artifact → Resolves after outcome artifact) ∧
    (authoritativeOutcome after artifact.attemptId outcome.recordedAt = .ok (some outcome) →
      Resolves after outcome artifact → Attaches repository outcome artifact) := by
  obtain ⟨outcomes, captures, extended⟩ := stored_empty.run run
  have stored := extended.stored
  obtain ⟨lineage, change⟩ := appendOutcome_ok stored ok
  constructor
  · rintro ⟨early, attached⟩
    have captured : ∃ outcomes' captures', Stored outcomes' captures' after ∧
        (artifact, outcome) ∈ captures' := by
      rcases attached with ⟨fresh, unseen⟩ | ⟨outcome_in, artifact_in⟩
      · rcases change with ⟨known, -⟩ | ⟨-, -, rows, ⟨capture, same, -, artifacts⟩ | ⟨seen, -⟩⟩
        · exact absurd fresh known
        · cases same
          exact ⟨_, _, stored.append_capture fresh rows unseen artifacts
            (requireLineage_own lineage), List.mem_append_right _ (List.mem_singleton_self _)⟩
        · exact absurd unseen (seen artifact rfl)
      · have member := stored.mem_captures (stored.mem_outcomes.mp outcome_in) artifact_in
        rcases change with ⟨-, rfl⟩ | ⟨fresh, -⟩
        · exact ⟨_, _, stored, member⟩
        · exact absurd rfl (fresh _ outcome_in)
    obtain ⟨outcomes', captures', stored', member⟩ := captured
    refine ⟨stored'.mem_outcomes.mpr (stored'.owned _ member).1,
      ⟨_, stored'.mem_artifacts.mpr ⟨_, member, rfl⟩, rfl⟩, fun later final rest cutoff governs => ?_⟩
    obtain ⟨_, _, onward⟩ := stored'.run rest
    exact onward.stored.reads (onward.captures.subset member) early governs
  · intro governs resolves
    obtain ⟨outcomes', captures', next⟩ := appendOutcome_extends stored ok
    have capture := (resolves.reads [] after .nil outcome.recordedAt governs).2
    obtain ⟨member, early⟩ := strictKnownResponseCapture_known next.stored capture
    refine ⟨early, ?_⟩
    have row := next.stored.mem_artifacts.mpr ⟨_, member, rfl⟩
    rcases change with ⟨-, rfl⟩ | ⟨fresh, -, rows, ⟨other, same, unseen, -⟩ | ⟨-, artifacts⟩⟩
    · exact Or.inr ⟨resolves.outcome_stored, row⟩
    · cases same
      exact Or.inl ⟨fresh, unseen⟩
    · -- the artifact was stored before its outcome
      rw [artifacts] at row
      obtain ⟨old, inside, same⟩ := stored.mem_artifacts.mp row
      have ids : outcome.outcomeId = old.2.outcomeId := congrArg ArtifactRow.outcomeId same
      refine absurd ids.symm (fresh (.of old.2) ?_)
      exact stored.mem_outcomes.mpr (stored.owned old inside).1

def sampleArtifact : ProviderResponseArtifact where
  attemptId := sampleAttemptId
  handoffId := sampleHandoff.handoffId
  executionProfileIdentity := "profile"
  requestEvidenceIdentity := sampleAttempt.requestEvidenceIdentity
  requestEvidenceState := .unavailableByPolicy
  responseProtocolIdentity := "protocol"
  responseProtocolVersion := "1"
  transportIdentity := "transport"
  transportVersion := "1"
  state := .unavailableByPolicy
  recordedAt := sampleMoment 6
  reasonCode := some "RESPONSE_CONTENT_RETENTION_PROHIBITED"
  content := none
  contentHash := none
  measuredSizeBytes := none
  contentDerivedIdentity := none
  providerStatusMetadata := []
  durable := fun claimed => absurd claimed (by decide)
  withheld := fun _ => ⟨rfl, rfl, rfl, rfl, _, rfl, by decide⟩
  screened := List.Pairwise.nil

theorem sample_captured : appendOutcome (sampleStored [] []) sampleFirst (some sampleArtifact)
    sampleAuthority =
      .ok ((), sampleStored [sampleFirst] [.of sampleArtifact sampleFirst.outcomeId]) :=
  sample_appends [] _ none _ [] _ (by simp) (by simp) (Or.inl ⟨rfl, rfl⟩) rfl rfl rfl

theorem sample_captured_run : Run StoreCalls emptyRepository
    [.persist sampleAttempt sampleHandoff sampleEvidence sampleAuthority,
      .append sampleFirst (some sampleArtifact) sampleAuthority]
    (sampleStored [sampleFirst] [.of sampleArtifact sampleFirst.outcomeId]) :=
  .cons (.of_ok sample_persisted) (.cons (.of_ok sample_captured) .nil)

/-- The correction comes with the artifact that its predecessor came with. -/
theorem sample_attached_again : appendOutcome
    (sampleStored [sampleFirst] [.of sampleArtifact sampleFirst.outcomeId]) sampleSecond
    (some sampleArtifact) sampleAuthority = .ok ((), sampleStored [sampleFirst, sampleSecond]
      [.of sampleArtifact sampleFirst.outcomeId]) := by
  have found : (sampleStored [sampleFirst, sampleSecond]
      [.of sampleArtifact sampleFirst.outcomeId]).artifacts.find? (fun row =>
        row.responseArtifactId = sampleArtifact.responseArtifactIdentity) =
      some (.of sampleArtifact sampleFirst.outcomeId) :=
    List.find?_cons_of_pos (decide_eq_true rfl)
  have same : (ArtifactRow.of sampleArtifact sampleFirst.outcomeId).payloadHash =
      sha256 sampleArtifact.json.dumps := rfl
  refine sample_appends [sampleFirst] _ _ _ _ _ (by simp [sampleFirst, sampleOutcome])
    (fun other member => ?_) (Or.inr ⟨_, List.mem_singleton_self _, sampleSecond_corrects⟩)
    rfl rfl ?_
  · rw [List.mem_singleton.mp member]
    exact sampleSecond_ne.symm
  · show insertArtifact (sampleStored [sampleFirst, sampleSecond] _) _ _ = _
    rw [insertArtifact, found]
    dsimp only
    rw [require_of same]
    rfl

theorem sample_stored : Stored [sampleFirst, sampleSecond] [(sampleArtifact, sampleFirst)]
    (sampleStored [sampleFirst, sampleSecond] [.of sampleArtifact sampleFirst.outcomeId]) := by
  refine ⟨rfl, by simpa using sampleSecond_ne.symm, rfl, List.nodup_singleton _,
    List.nodup_singleton _, fun capture member => ?_⟩
  rw [List.mem_singleton.mp member]
  exact ⟨List.mem_cons_self, rfl⟩

theorem sample_chain : OutcomeChain [sampleFirst, sampleSecond] := by
  have first : OutcomeChain [sampleFirst] :=
    Supersession.Chain.nil.append List.not_mem_nil (Or.inl ⟨rfl, rfl⟩)
  refine first.append (by simpa using sampleSecond_ne)
    (Or.inr ⟨sampleFirst, List.mem_singleton_self _, sampleSecond_corrects, ?_, ?_⟩)
  · intro other member
    rw [List.mem_singleton.mp member]
    exact (Option.some_ne_none _).symm
  · intro other member _ _ names
    rw [List.mem_singleton.mp member] at names
    exact absurd names (Option.some_ne_none _).symm

/-- The correction governs from its own time on. -/
theorem sample_corrected : authoritativeOutcome (sampleStored [sampleFirst, sampleSecond]
    [.of sampleArtifact sampleFirst.outcomeId]) sampleAttemptId (sampleMoment 7) =
      .ok (some sampleSecond) := by
  have own : outcomesOf [sampleFirst, sampleSecond] sampleAttemptId = [sampleFirst, sampleSecond] :=
    rfl
  have sole : SoleGoverning (outcomesOf [sampleFirst, sampleSecond] sampleAttemptId) :=
    own ▸ sample_chain.sole
  obtain ⟨governing, read, answers⟩ :=
    authoritativeOutcome_iff sample_stored sole (sampleMoment 7)
  have governs : Governing [sampleFirst, sampleSecond] (sampleMoment 7) sampleSecond := by
    refine ⟨by simp, by decide, fun other member _ => ?_⟩
    rcases List.mem_cons.mp member with rfl | second
    · exact (Option.some_ne_none _).symm
    · rw [List.mem_singleton.mp second, sampleSecond_corrects]
      exact fun same => sampleSecond_ne (Option.some.inj same).symm
  rw [read]
  exact congrArg Except.ok ((answers sampleSecond).mpr (own ▸ governs))

/-- The correction governs, and the capture that was appended with it is refused. -/
theorem responseCapture_stranded : ∃ repository after,
    Run StoreCalls emptyRepository
      [.persist sampleAttempt sampleHandoff sampleEvidence sampleAuthority,
        .append sampleFirst (some sampleArtifact) sampleAuthority] repository ∧
    appendOutcome repository sampleSecond (some sampleArtifact) sampleAuthority = .ok ((), after) ∧
    authoritativeOutcome after sampleAttemptId (sampleMoment 7) = .ok (some sampleSecond) ∧
    strictKnownResponseCapture after sampleArtifact.responseArtifactIdentity (sampleMoment 7) =
      .error (.persistenceCorruption
        "response capture is not attached to the strict-known authoritative attempt outcome") :=
  ⟨_, _, sample_captured_run, sample_attached_again, sample_corrected,
    sample_stored.stranded (List.mem_singleton_self _) (by decide) (by decide) sample_corrected
      sampleSecond_ne⟩

/-- The artifact that comes with the first outcome is what the reads resolve to. -/
theorem responseCapture_resolves_sample :
    Resolves (sampleStored [sampleFirst] [.of sampleArtifact sampleFirst.outcomeId]) sampleFirst
      sampleArtifact := by
  have persisted : Run StoreCalls emptyRepository
      [.persist sampleAttempt sampleHandoff sampleEvidence sampleAuthority] (sampleStored [] []) :=
    .cons (.of_ok sample_persisted) .nil
  refine (responseCapture_resolves persisted sample_captured).1 ⟨by decide, Or.inl ⟨?_, ?_⟩⟩
  · exact fun row member => absurd member List.not_mem_nil
  · exact fun row member => absurd member List.not_mem_nil

end Hunter.ModelAdapter
