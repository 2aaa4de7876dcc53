import Hunter.Knowledge.Batching

/-!
A finding only grows. What has been recorded of it stays, so a key that is taken is
that of an evidence the view still shows, and an evidence the view does not show has
a key that is free, digests apart.
-/

namespace Hunter.Knowledge

open IssueAgent

/-- What is recorded of a finding later on. -/
structure Finding.Grows (item item' : Finding) : Prop where
  ingested : item'.ingested = item.ingested
  classifications : ∀ basis c, item.classifications basis = some c →
    item'.classifications basis = some c
  remediations : item.remediations <+: item'.remediations
  proven : item.proven.isSome → item'.proven.isSome
  resolved : item.resolved.isSome → item'.resolved.isSome
  assessed : item.historicalAssessment.isSome → item'.historicalAssessment.isSome

theorem Finding.Grows.refl (item : Finding) : item.Grows item :=
  ⟨rfl, fun _ _ kept => kept, List.prefix_rfl, id, id, id⟩

/-- The view holds what the evidence says. -/
def KnowledgeView.Shows (view : KnowledgeView) : Evidence → Prop
  | .findingIngested e => (view.findings.get? e.findingId).isSome
  | .findingClassified e => ∃ item, view.findings.get? e.findingId = some item ∧
      item.classifications e.basis = some e
  | .historicalEvidenceAssessed e => ∃ item, view.findings.get? e.findingId = some item ∧
      item.historicalAssessment.isSome
  | .familyCandidate e => (view.candidates.get? e.candidateId).isSome
  | .remediationRequested e => ∃ item, view.findings.get? e.findingId = some item ∧
      e ∈ item.remediations
  | .findingProven e => ∃ item, view.findings.get? e.findingId = some item ∧ item.proven.isSome
  | .threadResolved e => ∃ item, view.findings.get? e.findingId = some item ∧ item.resolved.isSome
  | .recurrence e => (e.familyId, e.findingId) ∈ view.recurrences

/-- A key that is taken is that of an evidence the view shows. -/
def Shown (view : KnowledgeView) : Prop :=
  ∀ kind key, view.Taken kind key → ∃ evidence : Evidence, evidence.kind = kind ∧
    evidence.key = key ∧ view.Shows evidence

namespace Extends

variable {view view' : KnowledgeView} {record : Record}

theorem grows (h : Extends view record view') (linked : Linked view) {id : Sha64} {item : Finding}
    (found : view.findings.get? id = some item) :
    ∃ item', view'.findings.get? id = some item' ∧ item.Grows item' := by
  have untaken := h.untaken
  have links := linked id item found
  obtain ⟨folded, admits, rfl⟩ := h.folds
  rw [KnowledgeView.append_findings]
  rw [Record.kind] at untaken
  generalize record.evidence = evidence at admits untaken
  cases admits with
  | candidate _ _ _ => exact ⟨item, found, .refl item⟩
  | recur _ _ _ _ _ => exact ⟨item, found, .refl item⟩
  | @finding _ other left leaves =>
      rw [KnowledgeView.get?_setFinding]
      by_cases same : id = other
      · subst same
        refine ⟨left, if_pos rfl, ?_⟩
        cases leaves with
        | ingest e source identity print => exact absurd links.ingested.2 untaken
        | assess e before here source tests =>
            cases found.symm.trans here
            exact ⟨rfl, fun _ _ kept => kept, List.prefix_rfl, fun p => p, fun r => r, fun _ => rfl⟩
        | classify e before here family candidate basis =>
            cases found.symm.trans here
            refine ⟨rfl, fun b c kept => ?_, List.prefix_rfl, fun p => p, fun r => r, fun a => a⟩
            rw [Finding.classifications_classify, if_neg, kept]
            intro same
            have taken := (links.classified b c kept).2
            rw [same] at taken
            exact untaken taken
        | request e before here is_open unproven next budget pull pull_budget =>
            cases found.symm.trans here
            exact ⟨rfl, fun _ _ kept => kept, List.prefix_append _ _, fun p => p, fun r => r,
              fun a => a⟩
        | prove e before proven here classified authorization tests =>
            cases found.symm.trans here
            exact ⟨rfl, fun _ _ kept => kept, List.prefix_rfl, fun _ => rfl, fun r => r, fun a => a⟩
        | resolve e before proven here is_proven head =>
            cases found.symm.trans here
            exact ⟨rfl, fun _ _ kept => kept, List.prefix_rfl, fun p => p, fun _ => rfl, fun a => a⟩
      · exact ⟨item, (if_neg same).trans found, .refl item⟩

theorem still_shows (h : Extends view record view') (linked : Linked view) {evidence : Evidence}
    (shows_ : view.Shows evidence) : view'.Shows evidence := by
  have grows {id : Sha64} {item : Finding} (found : view.findings.get? id = some item) :=
    h.grows linked found
  cases evidence with
  | findingIngested e => exact h.keeps shows_
  | findingClassified e =>
      obtain ⟨item, found, kept⟩ := shows_
      obtain ⟨item', present, grown⟩ := grows found
      exact ⟨item', present, grown.classifications _ _ kept⟩
  | historicalEvidenceAssessed e =>
      obtain ⟨item, found, kept⟩ := shows_
      obtain ⟨item', present, grown⟩ := grows found
      exact ⟨item', present, grown.assessed kept⟩
  | remediationRequested e =>
      obtain ⟨item, found, kept⟩ := shows_
      obtain ⟨item', present, grown⟩ := grows found
      exact ⟨item', present, grown.remediations.subset kept⟩
  | findingProven e =>
      obtain ⟨item, found, kept⟩ := shows_
      obtain ⟨item', present, grown⟩ := grows found
      exact ⟨item', present, grown.proven kept⟩
  | threadResolved e =>
      obtain ⟨item, found, kept⟩ := shows_
      obtain ⟨item', present, grown⟩ := grows found
      exact ⟨item', present, grown.resolved kept⟩
  | familyCandidate e =>
      obtain ⟨folded, admits, rfl⟩ := h.folds
      generalize record.evidence = evidence at admits
      cases admits with
      | finding leaves => exact shows_
      | recur _ _ _ _ _ => exact shows_
      | candidate other id sources =>
          change ((view.candidates.set other.candidateId other).get? e.candidateId).isSome
          rw [Dict.get?_set]
          split
          · rfl
          · exact shows_
  | recurrence e =>
      obtain ⟨folded, admits, rfl⟩ := h.folds
      generalize record.evidence = evidence at admits
      cases admits with
      | finding leaves => exact shows_
      | candidate _ _ _ => exact shows_
      | recur other item found proven family => exact List.mem_insert_of_mem shows_

/-- What was recorded last is shown. -/
theorem now_shows (h : Extends view record view') : view'.Shows record.evidence := by
  obtain ⟨folded, admits, rfl⟩ := h.folds
  generalize record.evidence = evidence at admits
  cases admits with
  | candidate e id sources =>
      change ((view.candidates.set e.candidateId e).get? e.candidateId).isSome
      rw [Dict.get?_set, if_pos rfl]
      rfl
  | recur e item found proven family => exact List.mem_insert_self
  | @finding _ id left leaves =>
      have here : ((view.setFinding id left).append record).findings.get? id = some left := by
        rw [KnowledgeView.append_findings, KnowledgeView.get?_setFinding, if_pos rfl]
      cases leaves with
      | ingest e source identity print => exact Option.isSome_of_eq_some here
      | assess e before found source tests => exact ⟨_, here, rfl⟩
      | classify e before found family candidate basis =>
          refine ⟨_, here, ?_⟩
          rw [Finding.classifications_classify, if_pos rfl]
      | request e before found is_open unproven next budget pull pull_budget =>
          exact ⟨_, here, List.mem_append_right _ (List.mem_singleton_self e)⟩
      | prove e before proven found classified authorization tests => exact ⟨_, here, rfl⟩
      | resolve e before proven found is_proven head => exact ⟨_, here, rfl⟩

theorem shown (h : Extends view record view') (linked : Linked view) (shown : Shown view) :
    Shown view' := by
  intro kind key taken
  rw [KnowledgeView.Taken, h.keys, Dict.get?_set] at taken
  split at taken
  · rename_i same
    have slot := Prod.mk.inj same
    exact ⟨record.evidence, slot.1.symm, Regex.Matching.ext (h.key ▸ slot.2.symm), h.now_shows⟩
  · obtain ⟨evidence, same_kind, same_key, before⟩ := shown kind key taken
    exact ⟨evidence, same_kind, same_key, h.still_shows linked before⟩

end Extends

theorem Run.shown {repositoryId : Int} {records : List Record} {view : KnowledgeView}
    (h : Run Extends (.empty repositoryId) records view) : Shown view := by
  have both : Linked view ∧ Shown view := by
    refine h.preserves (fun view => Linked view ∧ Shown view) ?_ ⟨linked_empty repositoryId, ?_⟩
    · intro view record view' before step
      exact ⟨step.linked before.1, step.shown before.1 before.2⟩
    · intro kind key taken
      cases taken
  exact both.2

end Hunter.Knowledge
