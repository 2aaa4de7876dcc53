import Hunter.Knowledge.Append

/-!
The invariant of the knowledge ledger. What has been recorded of a finding is under
a key that is taken, so it is never recorded again. The budgets and the chain from
a proven classification to a resolved thread hold in every view. That a proof and a
deterministic match name one family is checked only when the proof comes second.
-/

namespace Hunter.Knowledge

open IssueAgent

namespace KnowledgeView

/-- A sum over the findings changes by the finding that is set. -/
theorem remediationsForPr_setFinding (view : KnowledgeView) {id : Sha64} (item : Finding)
    (n : Int) :
    (view.setFinding id item).remediationsForPr n +
        (view.findings.get? id).elim 0 (fun old =>
          if old.pullRequestNumber = n then old.remediations.length else 0) =
      view.remediationsForPr n + if item.pullRequestNumber = n then item.remediations.length else 0 := by
  have counted (items : List Finding) :
      ((items.filter fun item => item.pullRequestNumber = n).map
        fun item => item.remediations.length).sum =
      (items.map fun item => if item.pullRequestNumber = n then item.remediations.length else 0).sum := by
    induction items with
    | nil => rfl
    | cons item items ih =>
        by_cases here : item.pullRequestNumber = n <;> simp [here, ih]
  simp only [remediationsForPr, counted]
  exact Dict.sum_values_set _ _ _ _

end KnowledgeView

/-- What is recorded of a finding is about it and under a key that is taken. -/
structure Finding.Linked (view : KnowledgeView) (id : Sha64) (item : Finding) : Prop where
  ingested : item.ingested.findingId = id ∧ view.Taken .findingIngested id
  classified : ∀ basis c, item.classifications basis = some c →
    (c.findingId = id ∧ c.basis = basis) ∧
      view.Taken .findingClassified (classificationKey id basis)
  requested : ∀ r ∈ item.remediations,
    r.findingId = id ∧ view.Taken .remediationRequested (remediationKey id r.attempt.val)
  proven : ∀ p, item.proven = some p → p.findingId = id ∧ view.Taken .findingProven id

def Linked (view : KnowledgeView) : Prop :=
  ∀ id item, view.findings.get? id = some item → item.Linked view id

theorem Finding.Linked.mono {view view' : KnowledgeView} {id : Sha64} {item : Finding}
    (h : item.Linked view id) (grow : ∀ kind key, view.Taken kind key → view'.Taken kind key) :
    item.Linked view' id where
  ingested := ⟨h.ingested.1, grow _ _ h.ingested.2⟩
  classified basis c found := ⟨(h.classified basis c found).1, grow _ _ (h.classified basis c found).2⟩
  requested r member := ⟨(h.requested r member).1, grow _ _ (h.requested r member).2⟩
  proven p found := ⟨(h.proven p found).1, grow _ _ (h.proven p found).2⟩

namespace Extends

variable {view view' : KnowledgeView} {record : Record}

theorem grow (h : Extends view record view') (kind : Kind) (key : Sha64)
    (taken : view.Taken kind key) : view'.Taken kind key := by
  rw [KnowledgeView.Taken, h.keys, Dict.get?_set]
  split
  · rfl
  · exact taken

theorem taken (h : Extends view record view') : view'.Taken record.kind record.evidence.key := by
  rw [KnowledgeView.Taken, h.keys, Dict.get?_set, Record.slot, h.key, if_pos rfl]
  rfl

theorem untaken (h : Extends view record view') :
    ¬view.Taken record.kind record.evidence.key := by
  rw [KnowledgeView.Taken, ← h.key, ← Record.slot, h.fresh]
  exact Bool.false_ne_true

/-- A finding of the next view is one of this view or what the record leaves. -/
theorem finding (h : Extends view record view') {id : Sha64} {item : Finding}
    (found : view'.findings.get? id = some item) :
    view.findings.get? id = some item ∨ Leaves view record.evidence id item := by
  obtain ⟨folded, admits, rfl⟩ := h.folds
  generalize record.evidence = evidence at admits
  cases admits with
  | finding leaves =>
      simp only [KnowledgeView.append_findings, KnowledgeView.get?_setFinding] at found
      split at found
      · rename_i same
        cases found
        exact .inr (same ▸ leaves)
      · exact .inl found
  | candidate _ _ _ => exact .inl found
  | recur _ _ _ _ _ => exact .inl found

theorem linked (h : Extends view record view') (linked : Linked view) : Linked view' := by
  have taken := h.taken
  intro id item present
  cases h.finding present with
  | inl before => exact (linked id item before).mono h.grow
  | inr leaves =>
      rw [Record.kind] at taken
      generalize record.evidence = evidence at leaves taken
      cases leaves with
      | ingest e source identity print =>
          exact ⟨⟨rfl, taken⟩, by rintro _ _ ⟨⟩, fun _ inside => absurd inside List.not_mem_nil, by rintro _ ⟨⟩⟩
      | assess e before found source tests =>
          have old := (linked _ _ found).mono h.grow
          exact ⟨old.ingested, old.classified, old.requested, old.proven⟩
      | classify e before found family candidate basis =>
          have old := (linked _ _ found).mono h.grow
          refine ⟨old.ingested, fun b c classified => ?_, old.requested, old.proven⟩
          rw [Finding.classifications_classify] at classified
          split at classified
          · rename_i same
            cases classified
            subst same
            exact ⟨⟨rfl, rfl⟩, taken⟩
          · exact old.classified b c classified
      | request e before found is_open unproven next budget pull pull_budget =>
          have old := (linked _ _ found).mono h.grow
          refine ⟨old.ingested, old.classified, fun r member => ?_, old.proven⟩
          cases List.mem_append.mp member with
          | inl earlier => exact old.requested r earlier
          | inr last =>
              cases List.mem_singleton.mp last
              exact ⟨rfl, taken⟩
      | prove e before proven found classified authorization tests =>
          have old := (linked _ _ found).mono h.grow
          refine ⟨old.ingested, old.classified, old.requested, fun p is_proven => ?_⟩
          cases is_proven
          exact ⟨rfl, taken⟩
      | resolve e before proven found is_proven head =>
          have old := (linked _ _ found).mono h.grow
          exact ⟨old.ingested, old.classified, old.requested, old.proven⟩

end Extends

/-- The attempts are counted from one, a resolved thread was proven at its head and a
proof is of the authorization and the tests that were classified. -/
structure Finding.Sound (item : Finding) : Prop where
  attempts : ∀ (i : Nat) r, item.remediations[i]? = some r → r.attempt.val = i + 1
  budget : item.remediations.length ≤ maxRemediationsPerFinding
  resolved : ∀ r, item.resolved = some r →
    ∃ p, item.proven = some p ∧ p.remediatedHeadSha = r.remediatedHeadSha
  proven : ∀ p, item.proven = some p → ∃ c, item.classifications .proven = some c ∧
    c.authorizationId = some p.authorizationId ∧ SameSet p.regressionTests c.regressionTests
  tested : ∀ c, item.classifications .proven = some c → c.regressionTests ≠ []

/-- A deterministic match and a proof name one family. -/
def Finding.Agrees (item : Finding) : Prop :=
  ∀ d c, item.classifications .deterministic = some d → d.outcome = .matched →
    item.classifications .proven = some c → c.familyId = d.familyId

def Sound (view : KnowledgeView) : Prop :=
  (∀ id item, view.findings.get? id = some item → item.Sound) ∧
    ∀ n, view.remediationsForPr n ≤ maxRemediationsPerPr

def Agrees (view : KnowledgeView) : Prop :=
  ∀ id item, view.findings.get? id = some item → item.Agrees

/-- A deterministic match comes before the proof, or names the family it proved. -/
def MappingKept (view : KnowledgeView) (evidence : Evidence) : Prop :=
  ∀ e item c, evidence = .findingClassified e → e.basis = .deterministic →
    e.outcome = .matched → view.findings.get? e.findingId = some item →
    item.classifications .proven = some c → c.familyId = e.familyId

theorem checkBasis_proven {view : KnowledgeView} {item : Finding} {e : FindingClassified}
    (h : checkBasis view item e = .ok ()) (proven : e.basis = .proven) :
    e.regressionTests ≠ [] ∧ e.authorizationId.isSome ∧
      ∀ d, item.classifications .deterministic = some d → d.outcome = .matched →
        e.familyId = d.familyId := by
  simp only [checkBasis, proven, checkProven, check_ok, require_ok] at h
  obtain ⟨-, ⟨tests, authorized⟩, family, -⟩ := h
  refine ⟨tests, authorized, fun d found matched => ?_⟩
  rw [checkMapping, found] at family
  exact require_ok.mp family matched

namespace Extends

variable {view view' : KnowledgeView} {record : Record}

theorem sound_finding (h : Extends view record view') (linked : Linked view) (sound : Sound view)
    {id : Sha64} {item : Finding} (present : view'.findings.get? id = some item) : item.Sound := by
  have untaken := h.untaken
  cases h.finding present with
  | inl before => exact sound.1 id item before
  | inr leaves =>
      rw [Record.kind] at untaken
      generalize record.evidence = evidence at leaves untaken
      cases leaves with
      | ingest e source identity print =>
          exact ⟨by simp [Finding.start], Nat.zero_le _, by rintro _ ⟨⟩, by rintro _ ⟨⟩, by rintro _ ⟨⟩⟩
      | assess e before found source tests =>
          have old := sound.1 _ _ found
          exact ⟨old.attempts, old.budget, old.resolved, old.proven, old.tested⟩
      | classify e before found family candidate basis =>
          have old := sound.1 _ _ found
          refine ⟨old.attempts, old.budget, old.resolved, fun p is_proven => ?_, fun c classified => ?_⟩
          · obtain ⟨c, classified, same⟩ := old.proven p is_proven
            refine ⟨c, ?_, same⟩
            -- the proven classification is under a key that is taken
            have other : Basis.proven ≠ e.basis := by
              intro proven
              have kept := ((linked _ _ found).classified .proven c classified).2
              rw [proven] at kept
              exact untaken kept
            rw [Finding.classifications_classify, if_neg other, classified]
          · rw [Finding.classifications_classify] at classified
            split at classified
            · rename_i proven
              cases classified
              exact (checkBasis_proven basis proven.symm).1
            · exact old.tested c classified
      | request e before found is_open unproven next budget pull pull_budget =>
          have old := sound.1 _ _ found
          refine ⟨fun i r at_i => ?_, ?_, old.resolved, old.proven, old.tested⟩
          · simp only [Finding.request, List.getElem?_append] at at_i
            split at at_i
            · exact old.attempts i r at_i
            · rename_i beyond
              obtain ⟨last, same⟩ := List.getElem?_eq_some_iff.mp at_i
              simp only [List.length_singleton] at last
              simp only [List.getElem_singleton] at same
              rw [← same, next]
              omega
          · rw [Finding.request, List.length_append, List.length_singleton]
            omega
      | prove e before proven found classified authorization tests =>
          have old := sound.1 _ _ found
          refine ⟨old.attempts, old.budget, fun r is_resolved => ?_, fun p is_proven => ?_, old.tested⟩
          · obtain ⟨p, is_proven, -⟩ := old.resolved r is_resolved
            exact absurd ((linked _ _ found).proven p is_proven).2 untaken
          · cases is_proven
            exact ⟨proven, classified, authorization, tests⟩
      | resolve e before proven found is_proven head =>
          have old := sound.1 _ _ found
          refine ⟨old.attempts, old.budget, fun r is_resolved => ?_, old.proven, old.tested⟩
          cases is_resolved
          exact ⟨proven, is_proven, head.symm⟩

theorem sound_budget (h : Extends view record view') (sound : Sound view) (n : Int) :
    view'.remediationsForPr n ≤ maxRemediationsPerPr := by
  have old := sound.2 n
  have untaken := h.untaken
  obtain ⟨folded, admits, rfl⟩ := h.folds
  rw [Record.kind] at untaken
  generalize record.evidence = evidence at admits untaken
  change folded.remediationsForPr n ≤ maxRemediationsPerPr
  cases admits with
  | candidate _ _ _ => exact old
  | recur _ _ _ _ _ => exact old
  | @finding _ id item leaves =>
      have sum := @KnowledgeView.remediationsForPr_setFinding view id item n
      cases leaves with
      | ingest e source identity print =>
          rw [show (Finding.start e).remediations.length = 0 from rfl, ite_self] at sum
          omega
      | assess e before found source tests =>
          rw [found] at sum
          exact Nat.le_trans (Nat.le_of_eq (Nat.add_right_cancel sum)) old
      | classify e before found family candidate basis =>
          rw [found] at sum
          exact Nat.le_trans (Nat.le_of_eq (Nat.add_right_cancel sum)) old
      | request e before found is_open unproven next budget pull pull_budget =>
          rw [found] at sum
          simp only [Option.elim_some, Finding.request, List.length_append,
            List.length_singleton] at sum
          by_cases here : before.pullRequestNumber = n
          · have same : Finding.pullRequestNumber (before.request e) = n := here
            rw [here] at pull_budget
            rw [if_pos here] at sum
            rw [Finding.request] at same
            rw [if_pos same] at sum
            rw [Finding.request]
            omega
          · have other : ¬Finding.pullRequestNumber (before.request e) = n := here
            rw [if_neg here] at sum
            rw [Finding.request] at other
            rw [if_neg other] at sum
            rw [Finding.request]
            omega
      | prove e before proven found classified authorization tests =>
          rw [found] at sum
          exact Nat.le_trans (Nat.le_of_eq (Nat.add_right_cancel sum)) old
      | resolve e before proven found is_proven head =>
          rw [found] at sum
          exact Nat.le_trans (Nat.le_of_eq (Nat.add_right_cancel sum)) old

theorem sound (h : Extends view record view') (linked : Linked view) (sound : Sound view) :
    Sound view' :=
  ⟨fun _ _ present => h.sound_finding linked sound present, h.sound_budget sound⟩

theorem agrees (h : Extends view record view') (agrees : Agrees view)
    (kept : MappingKept view record.evidence) : Agrees view' := by
  intro id item present
  cases h.finding present with
  | inl before => exact agrees id item before
  | inr leaves =>
      generalize record.evidence = evidence at leaves kept
      cases leaves with
      | ingest e source identity print =>
          intro d c classified
          cases classified
      | assess e before found source tests =>
          exact agrees _ before found
      | request e before found is_open unproven next budget pull pull_budget =>
          exact agrees _ before found
      | prove e before proven found classified authorization tests =>
          exact agrees _ before found
      | resolve e before proven found is_proven head =>
          exact agrees _ before found
      | classify e before found family candidate basis =>
          intro d c deterministic matched proven
          simp only [Finding.classifications_classify] at deterministic proven
          cases same : e.basis with
          | proven =>
              rw [same, if_neg nofun] at deterministic
              rw [same, if_pos rfl] at proven
              cases proven
              exact (checkBasis_proven basis same).2.2 d deterministic matched
          | deterministic =>
              rw [same, if_pos rfl] at deterministic
              rw [same, if_neg nofun] at proven
              cases deterministic
              exact kept _ _ _ rfl same matched found proven

end Extends

theorem linked_empty (repositoryId : Int) : Linked (.empty repositoryId) := by
  intro id item present
  cases present

theorem sound_empty (repositoryId : Int) : Sound (.empty repositoryId) := by
  refine ⟨fun id item present => ?_, fun _ => Nat.zero_le _⟩
  cases present

theorem agrees_empty (repositoryId : Int) : Agrees (.empty repositoryId) := by
  intro id item present
  cases present

theorem Run.sound {repositoryId : Int} {records : List Record} {view : KnowledgeView}
    (h : Run Extends (.empty repositoryId) records view) : Linked view ∧ Sound view := by
  refine h.preserves (fun view => Linked view ∧ Sound view) ?_
    ⟨linked_empty repositoryId, sound_empty repositoryId⟩
  intro view record view' before step
  exact ⟨step.linked before.1, step.sound before.1 before.2⟩

section Apply

variable [Ed25519] {trust : TrustRoots} {provenance : ProvenanceCheck}

/-- Every record of a ledger meets a condition on the view it is applied to. -/
def EveryStep (trust : TrustRoots) (provenance : ProvenanceCheck)
    (C : KnowledgeView → Record → Prop) : KnowledgeView → List Json → Prop
  | _, [] => True
  | view, json :: entries => ∀ record view', decodeRecord json = .ok record →
      apply trust provenance view json = .ok view' →
      C view record ∧ EveryStep trust provenance C view' entries

/-- A ledger that verifies and meets a condition at every step is a run of such steps. -/
theorem applyAll_guarded {C : KnowledgeView → Record → Prop} {entries : List Json}
    {view : KnowledgeView} (h : applyAll trust provenance entries = .ok view)
    (steps : EveryStep trust provenance C (.empty trust.repositoryId) entries) :
    ∃ records, Decoded entries records ∧
      Run (fun view record view' => Extends view record view' ∧ C view record)
        (.empty trust.repositoryId) records view := by
  rw [applyAll] at h
  generalize KnowledgeView.empty trust.repositoryId = start at h steps ⊢
  induction entries generalizing start with
  | nil =>
      cases h
      exact ⟨[], .nil, .nil⟩
  | cons json entries ih =>
      rw [List.foldlM_cons] at h
      obtain ⟨next, first, rest⟩ := bind_ok.mp h
      obtain ⟨record, decoded, extended⟩ := apply_extends first
      obtain ⟨holds, others⟩ := steps record next decoded first
      obtain ⟨records, each, run⟩ := ih next rest others
      exact ⟨record :: records, .cons decoded each, .cons ⟨extended, holds⟩ run⟩

/-- What every ledger keeps whose deterministic matches come before a proof or name
the family that was proven. -/
theorem applyAll_consistent {entries : List Json} {view : KnowledgeView}
    (h : applyAll trust provenance entries = .ok view)
    (kept : EveryStep trust provenance (fun view record => MappingKept view record.evidence)
      (.empty trust.repositoryId) entries) :
    (∃ records, Decoded entries records ∧ (records.map Record.slot).Nodup) ∧ Sound view ∧
      Agrees view := by
  obtain ⟨records, decoded, run⟩ := applyAll_guarded h kept
  have plain : Run Extends (.empty trust.repositoryId) records view :=
    run.imp fun _ _ _ step => step.1
  refine ⟨⟨records, decoded, (Run.slots plain).1⟩, (Run.sound plain).2, ?_⟩
  exact run.preserves Agrees (fun _ _ _ before step => step.1.agrees before step.2)
    (agrees_empty trust.repositoryId)

end Apply

section Sample

local instance : Ed25519 := checksumScheme

/-- The sample job records an evidence. -/
structure SampleStep (view : KnowledgeView) (evidence : Evidence) (view' : KnowledgeView) : Prop where
  writable : evidence.Writable
  role : Role.reconcile ∈ writerRoles evidence.kind
  small : Json.weight evidence.json ≤ 40000
  home : view.repositoryId = sampleTrust.repositoryId
  number : Json.weight (.int view.nextSeq) ≤ 100
  fresh : view.keys.get? (evidence.kind, evidence.key.val) = none
  admits : ∃ folded, Admits view evidence folded ∧ sampleNext view evidence folded = view'

theorem SampleStep.applies {view view' : KnowledgeView} {evidence : Evidence}
    (h : SampleStep view evidence view') :
    apply sampleTrust sampleProvenance view (sampleRecord view evidence) = .ok view' := by
  obtain ⟨folded, admits, rfl⟩ := h.admits
  exact sample_applies h.writable h.role h.small h.home h.number h.fresh admits

theorem SampleStep.decodes {view view' : KnowledgeView} {evidence : Evidence} {record : Record}
    (h : SampleStep view evidence view')
    (decoded : decodeRecord (sampleRecord view evidence) = .ok record) : record.evidence = evidence := by
  obtain ⟨-, _, _, _, written, -, -, valid, rfl⟩ := (decodeRecord_signed (named_of h.writable)).mp decoded
  exact Except.ok.inj (valid.symm.trans (evidenceSchemas_json h.writable _))

/-- The evidences that were recorded one after the other are those of a ledger. -/
theorem sample_ledger {C : KnowledgeView → Evidence → Prop} {evidences : List Evidence}
    {view view' : KnowledgeView}
    (run : Run (fun view evidence view' => SampleStep view evidence view' ∧ C view evidence)
      view evidences view') :
    ∃ entries, entries.foldlM (apply sampleTrust sampleProvenance) view = .ok view' ∧
      EveryStep sampleTrust sampleProvenance (fun view record => C view record.evidence) view
        entries := by
  induction evidences generalizing view with
  | nil =>
      cases Run.nil_inv run
      exact ⟨[], rfl, trivial⟩
  | cons evidence evidences ih =>
      obtain ⟨next, ⟨step, holds⟩, rest⟩ := Run.cons_inv run
      obtain ⟨entries, applied, every⟩ := ih rest
      refine ⟨sampleRecord view evidence :: entries, ?_, fun record after decoded folds => ?_⟩
      · rw [List.foldlM_cons, step.applies]
        exact applied
      · cases step.applies.symm.trans folds
        have same := step.decodes decoded
        refine ⟨?_, every⟩
        change C view record.evidence
        rw [same]
        exact holds

def sampleTest : TestId := ⟨"tests/test_parser.py::test_error", by decide⟩

def sampleProof (id : Sha64) (family : FamilyId) : FindingClassified :=
  ⟨id, .matched, some family, none, .proven, [sampleTest], some sampleId⟩

def sampleOther : FamilyId := ⟨"DFF-002", by decide⟩

def sampleProved : KnowledgeView :=
  sampleNext sampleFirst (.findingClassified (sampleProof (sampleFinding 1).findingId sampleFamily))
    (sampleFirst.setFinding (sampleFinding 1).findingId
      ((Finding.start (sampleFinding 1)).classify
        (sampleProof (sampleFinding 1).findingId sampleFamily)))

/-- A deterministic match that was recorded after the proof. -/
def sampleMapped (family : FamilyId) : KnowledgeView :=
  sampleNext sampleProved (.findingClassified (sampleMatch (sampleFinding 1).findingId family))
    (sampleProved.setFinding (sampleFinding 1).findingId
      (((Finding.start (sampleFinding 1)).classify
        (sampleProof (sampleFinding 1).findingId sampleFamily)).classify
        (sampleMatch (sampleFinding 1).findingId family)))

theorem sample_ingests : SampleStep (.empty 1) (.findingIngested (sampleFinding 1)) sampleFirst :=
  ⟨trivial, by decide, weight_sampleFinding (by decide), rfl, by decide, rfl, _,
    sample_first_admits, rfl⟩

theorem sample_first_finding : sampleFirst.findings.get? (sampleFinding 1).findingId =
    some (.start (sampleFinding 1)) := by
  simp [sampleFirst, sampleNext]

theorem sample_proved_finding : sampleProved.findings.get? (sampleFinding 1).findingId =
    some ((Finding.start (sampleFinding 1)).classify
      (sampleProof (sampleFinding 1).findingId sampleFamily)) := by
  simp [sampleProved, sampleNext]

theorem sample_proof_admits : Admits sampleFirst
    (.findingClassified (sampleProof (sampleFinding 1).findingId sampleFamily))
    (sampleFirst.setFinding (sampleFinding 1).findingId
      ((Finding.start (sampleFinding 1)).classify
        (sampleProof (sampleFinding 1).findingId sampleFamily))) :=
  .finding (.classify _ _ sample_first_finding (by decide) (by decide) rfl)

theorem sample_proves : SampleStep sampleFirst
    (.findingClassified (sampleProof (sampleFinding 1).findingId sampleFamily)) sampleProved := by
  have small := weight_classified (sampleProof (sampleFinding 1).findingId sampleFamily)
  exact ⟨⟨by decide, List.nodup_singleton _⟩, by decide, Nat.le_trans small (by decide), rfl,
    by decide, (sample_first_slot _).trans (if_neg nofun), _, sample_proof_admits, rfl⟩

theorem sample_maps (family : FamilyId) : SampleStep sampleProved
    (.findingClassified (sampleMatch (sampleFinding 1).findingId family)) (sampleMapped family) := by
  have small := weight_classified (sampleMatch (sampleFinding 1).findingId family)
  have other : classificationKey (sampleFinding 1).findingId .deterministic ≠
      classificationKey (sampleFinding 1).findingId .proven := by decide +kernel
  have fresh : sampleProved.keys.get? (.findingClassified,
      (classificationKey (sampleFinding 1).findingId .deterministic).val) = none := by
    refine (sample_slot sample_proof_admits _).trans ((if_neg fun same => ?_).trans ?_)
    · exact other (Regex.Matching.ext (Prod.mk.inj same).2)
    · exact (sample_first_slot _).trans (if_neg nofun)
  have role : Role.reconcile ∈ writerRoles .findingClassified := by decide
  exact ⟨sampleMatch_writable _ _, role, Nat.le_trans small (by simp [sampleMatch]), rfl,
    by decide, fresh, _,
    .finding (.classify _ _ sample_proved_finding (by simp [sampleMatch]) (by simp [sampleMatch]) rfl),
    rfl⟩

/-- A ledger that verifies whose proof names one family and whose later deterministic
match names another. -/
theorem applyAll_consistent_fails : ∃ entries view,
    applyAll sampleTrust sampleProvenance entries = .ok view ∧ ¬Agrees view := by
  obtain ⟨entries, verified, -⟩ := sample_ledger (C := fun _ _ => True)
    (((Run.nil.snoc ⟨sample_ingests, trivial⟩).snoc ⟨sample_proves, trivial⟩).snoc
      ⟨sample_maps sampleOther, trivial⟩)
  refine ⟨entries, _, verified, fun agrees => ?_⟩
  have present : (sampleMapped sampleOther).findings.get? (sampleFinding 1).findingId =
      some (((Finding.start (sampleFinding 1)).classify
        (sampleProof (sampleFinding 1).findingId sampleFamily)).classify
        (sampleMatch (sampleFinding 1).findingId sampleOther)) := by
    simp [sampleMapped, sampleNext]
  have same := agrees _ _ present _ _ rfl rfl rfl
  exact absurd same (by decide)

/-- The match after the proof that names the proven family. -/
theorem applyAll_consistent_sample : ∃ entries view,
    applyAll sampleTrust sampleProvenance entries = .ok view ∧
      ((∃ records, Decoded entries records ∧ (records.map Record.slot).Nodup) ∧ Sound view ∧
        Agrees view) := by
  have kept (e item c) (same : Evidence.findingClassified (sampleMatch (sampleFinding 1).findingId
      sampleFamily) = .findingClassified e)
      (found : sampleProved.findings.get? e.findingId = some item)
      (proven : item.classifications .proven = some c) : c.familyId = e.familyId := by
    cases same
    cases sample_proved_finding.symm.trans found
    cases proven
    rfl
  have first : MappingKept (.empty 1) (.findingIngested (sampleFinding 1)) := by
    intro e item c same
    cases same
  have second : MappingKept sampleFirst
      (.findingClassified (sampleProof (sampleFinding 1).findingId sampleFamily)) := by
    intro e item c same deterministic
    cases same
    cases deterministic
  obtain ⟨entries, verified, every⟩ := sample_ledger (C := MappingKept)
    (((Run.nil.snoc ⟨sample_ingests, first⟩).snoc ⟨sample_proves, second⟩).snoc
      ⟨sample_maps sampleFamily, fun e item c same _ _ => kept e item c same⟩)
  exact ⟨entries, _, verified, applyAll_consistent verified every⟩

end Sample

end Hunter.Knowledge
