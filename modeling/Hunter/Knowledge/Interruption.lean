import Hunter.Knowledge.Batching

/-!
A run that dies in the middle of its records. Between two sightings it leaves what a
smaller batch would have left, and the next run continues as a second batch does. Before
a classification it leaves a finding that the next run takes for known.
-/

namespace Hunter.Knowledge

open IssueAgent

/-- A part of the records of a batch ends between two sightings, or before the
classification of one. -/
theorem evidences_cut {view : KnowledgeView} {a : Intake} {before sightings : List Sighting}
    {done : List Evidence} (h : done <+: evidences view a before sightings) :
    (∃ first second, sightings = first ++ second ∧ done = evidences view a before first) ∨
      ∃ first s second c, sightings = first ++ s :: second ∧
        verdict view a (before ++ first) s = some c ∧
        done = evidences view a before first ++ [.findingIngested s.evidence] := by
  induction sightings generalizing before done with
  | nil => exact .inl ⟨[], [], rfl, List.prefix_nil.mp h⟩
  | cons s sightings ih =>
      have later {tail : List Evidence} (part : tail <+: evidences view a (before ++ [s]) sightings)
          (same : done = s.evidences (verdict view a before s) ++ tail) :
          (∃ first second, s :: sightings = first ++ second ∧ done = evidences view a before first) ∨
            ∃ first t second c, s :: sightings = first ++ t :: second ∧
              verdict view a (before ++ first) t = some c ∧
              done = evidences view a before first ++ [.findingIngested t.evidence] := by
        cases ih part with
        | inl boundary =>
            obtain ⟨first, second, rfl, rfl⟩ := boundary
            exact .inl ⟨s :: first, second, rfl, same⟩
        | inr between =>
            obtain ⟨first, t, second, c, rfl, verdicts, rfl⟩ := between
            refine .inr ⟨s :: first, t, second, c, rfl, ?_, ?_⟩
            · rw [List.append_assoc] at verdicts
              exact verdicts
            · rw [same, evidences, List.append_assoc]
      rw [evidences, Sighting.evidences, List.cons_append, List.prefix_cons_iff] at h
      cases h with
      | inl empty => exact .inl ⟨[], s :: sightings, rfl, empty⟩
      | inr started =>
          obtain ⟨tail, same, part⟩ := started
          cases verdicts : verdict view a before s with
          | none =>
              rw [verdicts] at part later
              exact later part same
          | some c =>
              rw [verdicts] at part later
              cases List.prefix_cons_iff.mp part with
              | inl empty =>
                  refine .inr ⟨[], s, sightings, c, rfl, ?_, ?_⟩
                  · rw [List.append_nil]
                    exact verdicts
                  · rw [same, empty]
                    rfl
              | inr both =>
                  obtain ⟨rest, rfl, rest_part⟩ := both
                  exact later rest_part same

/-- The number of records tells how many sightings they are of. -/
theorem evidences_length {view : KnowledgeView} {a : Intake} {before first second : List Sighting} :
    (evidences view a before (first ++ second)).length =
      (evidences view a before first).length +
        (evidences view a (before ++ first) second).length := by
  rw [evidences_append, List.length_append]

theorem evidences_eq_nil {view : KnowledgeView} {a : Intake} {before sightings : List Sighting}
    (h : (evidences view a before sightings).length = 0) : sightings = [] := by
  cases sightings with
  | nil => rfl
  | cons s sightings =>
      rw [evidences, Sighting.evidences] at h
      cases h

theorem evidences_comparable {view : KnowledgeView} {a : Intake} {first second all : List Sighting}
    (one : first <+: all) (two : second <+: all)
    (same : (evidences view a [] first).length = (evidences view a [] second).length) :
    first = second := by
  cases List.prefix_or_prefix_of_prefix one two with
  | inl shorter =>
      obtain ⟨more, rfl⟩ := shorter
      rw [evidences_length] at same
      have none : more = [] := evidences_eq_nil (Nat.add_left_cancel same).symm
      rw [none, List.append_nil]
  | inr longer =>
      obtain ⟨more, rfl⟩ := longer
      rw [evidences_length] at same
      have none : more = [] := evidences_eq_nil (Nat.add_left_cancel same)
      rw [none, List.append_nil]

/-- No first part of a batch has the records that end before a classification. -/
theorem evidences_between {view : KnowledgeView} {a : Intake} {first second part : List Sighting}
    {s : Sighting} {c : FindingClassified} (verdicts : verdict view a first s = some c)
    (h : part <+: first ++ s :: second) :
    (evidences view a [] part).length ≠ (evidences view a [] first).length + 1 := by
  intro same
  have here : first <+: first ++ s :: second := List.prefix_append _ _
  cases List.prefix_or_prefix_of_prefix h here with
  | inl shorter =>
      obtain ⟨more, rfl⟩ := shorter
      rw [evidences_length] at same
      omega
  | inr longer =>
      obtain ⟨more, rfl⟩ := longer
      rw [List.prefix_append_right_inj] at h
      rw [evidences_length, Nat.add_left_cancel_iff] at same
      cases more with
      | nil => cases same
      | cons t more =>
          obtain ⟨rfl, -⟩ := List.cons_prefix_cons.mp h
          rw [evidences, List.nil_append, verdicts, Sighting.evidences] at same
          simp at same

/-- A first part of the observations gives a first part of the records. -/
theorem ingestionWrites_first {view : KnowledgeView} {a : Intake}
    {first second : List Observation} {result : List Write × List String}
    (h : ingestionWrites view a (first ++ second) = .ok result) :
    ∃ writes refusals, ingestionWrites view a first = .ok (writes, refusals) := by
  obtain ⟨batch, looped, -⟩ := bind_ok.mp h
  rw [List.foldlM_append] at looped
  obtain ⟨part, start, -⟩ := bind_ok.mp looped
  exact ⟨part.writes, part.refusals, by rw [ingestionWrites, start]; rfl⟩

theorem newSightings_first (view : KnowledgeView) (a : Intake) (first second : List Observation) :
    newSightings view a first <+: newSightings view a (first ++ second) :=
  ⟨_, firstSightings_append.symm⟩

section Append

variable [Ed25519] {trust : TrustRoots} {provenance : ProvenanceCheck}

/-- A batch that was interrupted and is ingested again teaches what it teaches in one run
exactly if the run died between two sightings and the plain ones after are settled. -/
theorem ingestion_resumes {view reread once twice : KnowledgeView} {a : Intake}
    {observations : List Observation} {writes writes₂ : List Write}
    {refusals refusals₂ : List String} {job job₁ job₂ : Job} {fates fates₁ fates₂ : List Fate}
    {branch whole interrupted final h h₂ : Branch} {n n₂ : Nat}
    {outcome : Py (Branch × KnowledgeView × Nat)} (seen : read trust provenance branch = .ok view)
    (apart : Apart view (newSightings view a observations))
    (batch : ingestionWrites view a observations = .ok (writes, refusals))
    (uncut : append trust provenance job writes fates branch = (whole, .ok (h, once, n)))
    (cut : append trust provenance job₁ writes fates₁ branch = (interrupted, outcome))
    (again : read trust provenance interrupted = .ok reread)
    (rebatch : ingestionWrites reread a observations = .ok (writes₂, refusals₂))
    (rerun : append trust provenance job₂ writes₂ fates₂ interrupted =
      (final, .ok (h₂, twice, n₂))) :
    SameLearning once twice ↔ ∃ first second writes₁ refusals₁, observations = first ++ second ∧
      ingestionWrites view a first = .ok (writes₁, refusals₁) ∧
      interrupted.length = branch.length + writes₁.length ∧
      ∀ before s after,
        newSightings view a observations = newSightings view a first ++ before ++ s :: after →
          a.Plain s → Choice.Settled (view.mapped s.print)
            (a.tagged s.print (newSightings view a first)) (a.tagged s.print before) := by
  obtain ⟨records, -, history⟩ := read_run seen
  have named := Run.named history
  obtain ⟨distinct, fresh⟩ := newSightings_fresh view a observations
  obtain ⟨whole_learns, -⟩ := ingestion_learns seen batch apart uncut
  obtain ⟨done, view', commits, part, all, -⟩ := ingestion_commits seen batch apart cut
  cases (commits.read seen).symm.trans again
  have length := commits.length
  -- the records that were committed, as evidences
  obtain ⟨evs, done_eq, evs_part⟩ : ∃ evs, done = evs.map Write.of ∧
      evs <+: evidences view a [] (newSightings view a observations) := by
    obtain ⟨evs, part, same⟩ := List.prefix_map_iff.mp (all ▸ part)
    exact ⟨evs, same, part⟩
  subst done_eq
  rw [List.length_map] at length
  cases evidences_cut evs_part with
  | inl boundary =>
      obtain ⟨done, rest, parts, rfl⟩ := boundary
      rw [parts] at apart whole_learns distinct fresh
      have part_learns : Learns view a done reread := by
        refine .of_commits ?_ (fun s member => fresh s (List.mem_append_left _ member)) commits
        rw [List.map_append] at distinct
        exact (List.nodup_append.mp distinct).1
      have new := part_learns.seen.newSightings parts
      have rest_apart := part_learns.seen.apart apart
      rw [← new] at rest_apart
      obtain ⟨others, -⟩ := ingestion_learns again rebatch rest_apart rerun
      rw [new] at others
      rw [whole_learns.sameLearning_iff part_learns others]
      constructor
      · intro settled
        obtain ⟨first, second, rfl, same⟩ := firstSightings_cut parts
        change newSightings view a first = done at same
        obtain ⟨writes₁, refusals₁, batch₁⟩ := ingestionWrites_first batch
        refine ⟨first, second, writes₁, refusals₁, rfl, batch₁, ?_, fun before s after split => ?_⟩
        · rw [length, ingestionWrites_ok named batch₁, same, List.length_map]
        · rw [same] at split ⊢
          rw [parts, List.append_assoc, List.append_cancel_left_eq] at split
          exact settled before s after split
      · rintro ⟨first, second, writes₁, refusals₁, rfl, batch₁, here, settled⟩ before s after split
        have same : newSightings view a first = done := by
          have lengths : (evidences view a [] (newSightings view a first)).length =
              (evidences view a [] done).length := by
            rw [ingestionWrites_ok named batch₁, List.length_map] at here
            omega
          refine evidences_comparable (newSightings_first view a first second) ?_ lengths
          exact ⟨rest, parts.symm⟩
        rw [same] at settled
        refine settled before s after ?_
        rw [parts, split, List.append_assoc]
  | inr between =>
      obtain ⟨done, s, rest, c, parts, verdicts, rfl⟩ := between
      rw [List.nil_append] at verdicts
      refine iff_of_false (fun same => ?_) ?_
      · have joined : newSightings view a observations = (done ++ [s]) ++ rest := by
          rw [parts, List.append_assoc]
          rfl
        rw [parts] at distinct fresh
        rw [List.map_append] at commits
        obtain ⟨middle, mid, first, last⟩ := commits.append_inv
        have part_learns : Learns view a done mid := by
          refine .of_commits ?_ (fun t member => fresh t (List.mem_append_left _ member)) first
          rw [List.map_append] at distinct
          exact (List.nodup_append.mp distinct).1
        obtain ⟨_, seen', ended, started⟩ := commits_ingested last
        cases ended
        have saw : Saw view (done ++ [s]) reread := by
          funext id
          rw [started, List.any_append, ← Bool.or_assoc, ← congrFun part_learns.seen id]
          by_cases here : id = s.evidence.findingId
          · simp [here, Sighting.id]
          · simp [here, Sighting.id]
        have new := saw.newSightings joined
        have rest_apart := saw.apart (joined ▸ apart)
        rw [← new] at rest_apart
        obtain ⟨others, -⟩ := ingestion_learns again rebatch rest_apart rerun
        rw [new] at others
        have absent : s.id ∉ rest.map Sighting.id := by
          rw [List.map_append, List.map_cons] at distinct
          exact (List.nodup_cons.mp (List.nodup_append.mp distinct).2.1).1
        have lost := same s.id
        have bare : reread.findings.get? s.id = some (.start s.evidence) :=
          (started s.id).trans (if_pos rfl)
        rw [whole_learns.found done s rest parts, others.others s.id absent, bare,
          Option.map_some, Option.map_some, verdict_deterministic.1, verdicts] at lost
        cases (Prod.mk.inj (Option.some.inj lost)).2
      · rintro ⟨first, second, writes₁, refusals₁, rfl, batch₁, here, -⟩
        rw [ingestionWrites_ok named batch₁, List.length_map] at here
        rw [List.length_append, List.length_singleton] at length
        refine evidences_between verdicts (parts ▸ newSightings_first view a first second) ?_
        omega

end Append

section Sample

local instance : Ed25519 := checksumScheme

/-- A run that dies between a finding and its classification, and the run after it. -/
theorem ingestion_resumes_fails : ∃ whole interrupted once reread outcome,
    read sampleTrust sampleProvenance [] = .ok (.empty 1) ∧
    ingestionWrites (.empty 1) sampleIntake [sampleTagged] = .ok (sampleWrites, []) ∧
    append sampleTrust sampleProvenance sampleJob sampleWrites [] [] =
      (whole, .ok (whole, once, 2)) ∧
    append sampleTrust sampleProvenance sampleJob sampleWrites [.acknowledged, .refused sampleLost]
      [] = (interrupted, outcome) ∧
    read sampleTrust sampleProvenance interrupted = .ok reread ∧
    ingestionWrites reread sampleIntake [sampleTagged] = .ok ([], []) ∧
    append sampleTrust sampleProvenance sampleJob [] [] interrupted =
      (interrupted, .ok (interrupted, reread, 0)) ∧
    ¬SameLearning once reread := by
  have start : read sampleTrust sampleProvenance [] = .ok (.empty 1) := rfl
  obtain ⟨whole, uncut, -⟩ := @sample_appends _ [] _ _ 0 ((Run.nil.snoc sample_ingests).snoc sample_matches)
  let first := sampleNode (.empty 1) (.findingIngested (sampleFinding 1))
  have after_first : read sampleTrust sampleProvenance [first] = .ok sampleFirst :=
    (read_snoc start (.empty 1)).trans sample_first
  have cut : append sampleTrust sampleProvenance sampleJob sampleWrites
      [.acknowledged, .refused sampleLost] [] = ([first], .error sampleLost) := by
    rw [append, start]
    refine (appendWrites_new (@named_of (.findingIngested (sampleFinding 1)) trivial) rfl
      sample_first).trans ?_
    exact appendWrites_new (named_of (sampleMatch_writable _ _)) sample_second_fresh sample_second
  have known : ingest sampleFirst sampleIntake .empty sampleTagged = .ok .empty := by
    rw [ingest, if_pos sample_events.1, show sampleIntake.repositoryId = 1 from rfl, sample_tagged]
    refine if_pos (.inl ?_)
    rw [Sighting.id, sample_first_finding]
    rfl
  have empty : ingestionWrites sampleFirst sampleIntake [sampleTagged] = .ok ([], []) := by
    rw [ingestionWrites, List.foldlM_cons, known]
    rfl
  have rerun : append sampleTrust sampleProvenance sampleJob [] [] [first] =
      ([first], .ok ([first], sampleFirst, 0)) := by
    rw [append, after_first]
    rfl
  refine ⟨whole, [first], sampleSecond, sampleFirst, _, start, sample_batch, ?_, cut, after_first,
    empty, rerun, fun same => ?_⟩
  · rw [append, start]
    exact uncut
  · have here := same (sampleFinding 1).findingId
    rw [sample_first_finding] at here
    have present : sampleSecond.findings.get? (sampleFinding 1).findingId =
        some ((Finding.start (sampleFinding 1)).classify
          (sampleMatch (sampleFinding 1).findingId sampleFamily)) := by
      simp [sampleSecond, sampleNext]
    rw [present] at here
    cases (Prod.mk.inj (Option.some.inj here)).2

/-- A batch of the sample job that loses the lease before one of its records. -/
theorem sample_cut {done more : List Evidence} {evidence : Evidence} {branch : Branch}
    {view view' next : KnowledgeView} {n : Nat} (run : Run SampleStep view done view')
    (step : SampleStep view' evidence next) :
    ∃ branch', appendWrites sampleTrust sampleProvenance sampleJob
        ((done ++ evidence :: more).map Write.of)
        (List.replicate done.length .acknowledged ++ [.refused sampleLost]) branch view n =
        (branch', .error sampleLost) ∧
      (read sampleTrust sampleProvenance branch = .ok view →
        read sampleTrust sampleProvenance branch' = .ok view') ∧
      branch'.length = branch.length + done.length := by
  induction done generalizing branch view n with
  | nil =>
      cases Run.nil_inv run
      exact ⟨branch, appendWrites_new (named_of step.writable) step.fresh step.applies, id, rfl⟩
  | cons first done ih =>
      obtain ⟨mid, one, rest⟩ := Run.cons_inv run
      obtain ⟨branch', cut, kept, length⟩ := @ih (branch ++ [sampleNode view first]) mid (n + 1) rest
      refine ⟨branch', ?_, fun seen => kept ((read_snoc seen view).trans one.applies), ?_⟩
      · exact (appendWrites_new (named_of one.writable) one.fresh one.applies).trans cut
      · rw [length, List.length_append, List.length_singleton, List.length_cons]
        omega

/-- A run that dies after the tagged finding, and the run after it. -/
theorem ingestion_resumes_sample : ∃ whole interrupted final once twice,
    append sampleTrust sampleProvenance sampleJob
        ((sampleMatched 1 sampleFamily ++ sampleMatched 3 sampleFamily).map Write.of) [] [] =
      (whole, .ok (whole, once, 4)) ∧
    append sampleTrust sampleProvenance sampleJob
        ((sampleMatched 1 sampleFamily ++ sampleMatched 3 sampleFamily).map Write.of)
        [.acknowledged, .acknowledged, .refused sampleLost] [] =
      (interrupted, .error sampleLost) ∧
    append sampleTrust sampleProvenance sampleJob ((sampleMatched 3 sampleFamily).map Write.of) []
        interrupted = (final, .ok (final, twice, 2)) ∧
    SameLearning once twice := by
  obtain ⟨fifth, sixth⟩ := sample_fifth_sixth rfl (by decide)
    (sample_second_free sample_other_ids.2.1 sample_other_keys.2.1)
  obtain ⟨whole, -, -, at_once, -⟩ := samplePair_appends
  have start : read sampleTrust sampleProvenance [] = .ok (.empty 1) := rfl
  obtain ⟨interrupted, lost, kept, length⟩ := @sample_cut _
    [.findingClassified (sampleMatch (sampleFinding 3).findingId sampleFamily)] _ [] _ _ _ 0
    ((Run.nil.snoc sample_ingests).snoc sample_matches) fifth
  obtain ⟨final, rest, -⟩ := @sample_appends _ interrupted _ _ 0 ((Run.nil.snoc fifth).snoc sixth)
  have cut : append sampleTrust sampleProvenance sampleJob
      ((sampleMatched 1 sampleFamily ++ sampleMatched 3 sampleFamily).map Write.of)
      [.acknowledged, .acknowledged, .refused sampleLost] [] = (interrupted, .error sampleLost) := by
    rw [append, start]
    exact lost
  have rerun : append sampleTrust sampleProvenance sampleJob
      ((sampleMatched 3 sampleFamily).map Write.of) [] interrupted =
        (final, .ok (final, sampleSixth sampleSecond, 2)) := by
    rw [append, kept start]
    exact rest
  have known : ingest sampleSecond sampleIntake .empty sampleTagged = .ok .empty := by
    rw [ingest, if_pos sample_events.1, show sampleIntake.repositoryId = 1 from rfl, sample_tagged]
    refine if_pos (.inl ?_)
    simp [Sighting.id, sampleSecond, sampleNext]
  have rebatch : ingestionWrites sampleSecond sampleIntake ([sampleTagged] ++ [samplePlain]) =
      .ok ((sampleMatched 3 sampleFamily).map Write.of, []) := by
    rw [ingestionWrites, List.singleton_append, List.foldlM_cons, known]
    exact sample_plain_second
  refine ⟨whole, interrupted, final, _, _, at_once, cut, rerun, ?_⟩
  refine (ingestion_resumes start (samplePair_new ▸ samplePair_apart) samplePair_batch at_once cut
    (kept start) rebatch rerun).mpr ⟨[sampleTagged], [samplePlain], sampleWrites, [], rfl,
      sample_batch, length, fun before s after split plain => ?_⟩
  rw [samplePair_new, sample_first_new] at split
  obtain ⟨nothing, rfl⟩ := samplePair_split split plain
  have none : before = [] := List.append_cancel_left (nothing.trans (List.append_nil _).symm)
  subst none
  rw [sample_first_new]
  refine .inr ?_
  have single : Choice.sole ((KnowledgeView.empty 1).mapped (sampleFinding 3).fingerprint ++
      sampleIntake.tagged (sampleFinding 3).fingerprint
        [⟨sampleFinding 1, some sampleFamily⟩]) = some sampleFamily := by decide +kernel
  have unmapped : Choice.sole ((KnowledgeView.empty 1).mapped (sampleFinding 3).fingerprint) = none :=
    rfl
  rw [Sighting.print, unmapped, single]
  rintro last ⟨⟩

end Sample

end Hunter.Knowledge
