import Hunter.Knowledge.Ledger
import Hunter.IssueAgent.Admission

/-!
What folding one knowledge record may do, said once: the six ways it may leave a
finding and the two others, each with its guards. A ledger that verifies is a run of
these, each under a key that is not taken.
-/

namespace Hunter.Knowledge

open IssueAgent

/-- What a record leaves of the finding it is about. -/
inductive Leaves (view : KnowledgeView) : Evidence → Sha64 → Finding → Prop where
  | ingest (e : FindingIngested)
      (source : checkSonarIdentity e.provenance = .ok ())
      (id : e.findingId = findingId view.repositoryId e.provenance.pullRequestNumber.val
        e.provenance.commentId.val)
      (print : e.fingerprint = fingerprint e.provenance.path.val e.claim.val) :
      Leaves view (.findingIngested e) e.findingId (.start e)
  | assess (e : HistoricalEvidenceAssessed) (item : Finding)
      (found : view.findings.get? e.findingId = some item)
      (source : item.ingested.provenance.pullRequestNumber = e.pullRequestNumber ∧
        item.ingested.provenance.commentId = e.commentId ∧
        item.ingested.provenance.reviewedHeadSha = e.ingestedHeadSha.getD e.reviewedHeadSha)
      (tests : e.regressionTests ≠ []) :
      Leaves view (.historicalEvidenceAssessed e) e.findingId
        { item with historicalAssessment := some e }
  | classify (e : FindingClassified) (item : Finding)
      (found : view.findings.get? e.findingId = some item)
      (family : e.outcome = .matched ↔ e.familyId.isSome)
      (candidate : e.outcome = .candidateNewFamily ↔ e.candidateId.isSome)
      (basis : checkBasis view item e = .ok ()) :
      Leaves view (.findingClassified e) e.findingId (item.classify e)
  | request (e : RemediationRequested) (item : Finding)
      (found : view.findings.get? e.findingId = some item)
      (is_open : item.isOpen = true) (unproven : item.proven = none)
      (next : e.attempt.val = item.remediations.length + 1)
      (budget : e.attempt.val ≤ maxRemediationsPerFinding)
      (pull : e.pullRequestNumber.val = item.pullRequestNumber)
      (pull_budget : view.remediationsForPr item.pullRequestNumber < maxRemediationsPerPr) :
      Leaves view (.remediationRequested e) e.findingId (item.request e)
  | prove (e : FindingProven) (item : Finding) (proven : FindingClassified)
      (found : view.findings.get? e.findingId = some item)
      (classified : item.classifications .proven = some proven)
      (same : proven.authorizationId = some e.authorizationId)
      (tests : SameSet e.regressionTests proven.regressionTests) :
      Leaves view (.findingProven e) e.findingId { item with proven := some e }
  | resolve (e : ThreadResolved) (item : Finding) (proven : FindingProven)
      (found : view.findings.get? e.findingId = some item)
      (is_proven : item.proven = some proven)
      (head : e.remediatedHeadSha = proven.remediatedHeadSha) :
      Leaves view (.threadResolved e) e.findingId { item with resolved := some e }

inductive Admits (view : KnowledgeView) : Evidence → KnowledgeView → Prop where
  | finding {evidence : Evidence} {id : Sha64} {item : Finding}
      (leaves : Leaves view evidence id item) : Admits view evidence (view.setFinding id item)
  | candidate (e : FamilyCandidate)
      (id : e.candidateId = candidateId e.invariant.val (e.changedPaths.map (·.val)))
      (sources : ∀ source ∈ e.sourceFindingIds, (view.findings.get? source).isSome) :
      Admits view (.familyCandidate e)
        { view with candidates := view.candidates.set e.candidateId e }
  | recur (e : Recurrence) (item : Finding)
      (found : view.findings.get? e.findingId = some item)
      (proven : item.proven.isSome)
      (family : ∃ c ∈ item.classification, c.familyId = some e.familyId) :
      Admits view (.recurrence e)
        { view with recurrences := view.recurrences.insert (e.familyId, e.findingId) }

variable {view view' : KnowledgeView}

theorem findItem_ok {kind : Kind} {id : Sha64} {item : Finding} :
    findItem view kind id = .ok item ↔ view.findings.get? id = some item := by
  unfold findItem
  cases view.findings.get? id <;> simp

theorem findItem_bind {kind : Kind} {id : Sha64} {next : Finding → Py KnowledgeView} :
    (findItem view kind id >>= next) = .ok view' ↔
      ∃ item, view.findings.get? id = some item ∧ next item = .ok view' := by
  simp only [bind_ok, findItem_ok]

theorem ok_inj {α : Type} {a b : α} : (Except.ok a : Py α) = .ok b ↔ a = b :=
  ⟨Except.ok.inj, congrArg _⟩

theorem fold_iff {evidence : Evidence} :
    fold view evidence = .ok view' ↔ Admits view evidence view' := by
  constructor
  · intro h
    cases evidence with
    | findingIngested e =>
        simp only [fold, foldIngested, check_ok, require_ok, pure_eq_ok, ok_inj] at h
        obtain ⟨source, id, print, rfl⟩ := h
        exact id ▸ .finding (.ingest e source id print)
    | familyCandidate e =>
        simp only [fold, foldCandidate, check_ok, require_ok, pure_eq_ok, ok_inj] at h
        obtain ⟨id, sources, rfl⟩ := h
        exact .candidate e id sources
    | historicalEvidenceAssessed e =>
        simp only [fold, foldAssessed, findItem_bind, check_ok,
          require_ok, pure_eq_ok, ok_inj] at h
        obtain ⟨item, found, source, tests, rfl⟩ := h
        exact .finding (.assess e item found source tests)
    | findingClassified e =>
        simp only [fold, foldClassified, findItem_bind, check_ok,
          require_ok, pure_eq_ok, ok_inj] at h
        obtain ⟨item, found, family, candidate, basis, rfl⟩ := h
        exact .finding (.classify e item found family candidate basis)
    | remediationRequested e =>
        simp only [fold, foldRequested, findItem_bind, check_ok,
          require_ok, pure_eq_ok, ok_inj] at h
        obtain ⟨item, found, ⟨is_open, unproven⟩, next, budget, pull, pull_budget, rfl⟩ := h
        exact .finding (.request e item found is_open unproven next budget pull pull_budget)
    | findingProven e =>
        simp only [fold, findItem_bind] at h
        obtain ⟨item, found, folds⟩ := h
        unfold foldProven at folds
        split at folds
        · cases folds
        · simp only [check_ok, require_ok, pure_eq_ok, ok_inj] at folds
          obtain ⟨same, tests, rfl⟩ := folds
          exact .finding (.prove e item _ found ‹_› same tests)
    | threadResolved e =>
        simp only [fold, findItem_bind] at h
        obtain ⟨item, found, folds⟩ := h
        unfold foldResolved at folds
        split at folds
        · cases folds
        · simp only [check_ok, require_ok, pure_eq_ok, ok_inj] at folds
          obtain ⟨head, rfl⟩ := folds
          exact .finding (.resolve e item _ found ‹_› head)
    | recurrence e =>
        simp only [fold, foldRecurrence, findItem_bind, check_ok,
          require_ok, pure_eq_ok, ok_inj] at h
        obtain ⟨item, found, ⟨proven, family⟩, rfl⟩ := h
        exact .recur e item found proven family
  · intro h
    cases h with
    | finding leaves =>
        cases leaves with
        | ingest e source id print =>
            simp only [fold, foldIngested, source, require_of id, require_of print, ok_bind,
              pure_eq_ok]
            rw [id]
        | assess e item found source tests =>
            simp only [fold, foldAssessed, findItem, found, require_of source, require_of tests,
              ok_bind, pure_eq_ok]
        | classify e item found family candidate basis =>
            simp only [fold, foldClassified, findItem, found, require_of family,
              require_of candidate, basis, ok_bind, pure_eq_ok]
        | request e item found is_open unproven next budget pull pull_budget =>
            simp only [fold, foldRequested, findItem, found,
              require_of (And.intro is_open unproven), require_of next, require_of budget,
              require_of pull, require_of pull_budget, ok_bind, pure_eq_ok]
        | prove e item proven found classified same tests =>
            simp only [fold, foldProven, findItem, found, classified, require_of same,
              require_of tests, ok_bind, pure_eq_ok]
        | resolve e item proven found is_proven head =>
            simp only [fold, foldResolved, findItem, found, is_proven, require_of head, ok_bind,
              pure_eq_ok]
    | candidate e id sources =>
        simp only [fold, foldCandidate, require_of id, require_of sources, ok_bind, pure_eq_ok]
    | recur e item found proven family =>
        simp only [fold, foldRecurrence, findItem, found, require_of (And.intro proven family),
          ok_bind, pure_eq_ok]

theorem textMember_str {name text : String} {evidence : Json}
    (found : evidence.get? name = some (.str text)) : textMember name evidence = .ok text := by
  simp [textMember, found, wordText]

theorem digestOf_pair {a b : String} {x y : Json} {evidence : Json}
    (first : evidence.get? a = some x) (second : evidence.get? b = some y) :
    digestOf [a, b] evidence = .ok (sha256Hex (canonicalJson (.obj [(a, x), (b, y)]))).val := by
  simp [digestOf, first, second]

theorem pattern_str {regex : Regex} {j : Json} {place : String} {m : regex.Matching}
    (h : pattern regex j place = .ok m) : j = .str m.val := by
  cases j with
  | str text => rw [pattern_iff.mp h]
  | _ => cases h

theorem int_int {minimum : Int} {j : Json} {place : String} {n : { n : Int // minimum ≤ n }}
    (h : int minimum j place = .ok n) : j = .int n.val := by
  cases j with
  | int n => rw [int_iff.mp h]
  | _ => cases h

theorem enum_str {α : Type} {text : α → String} {allowed : List α} {j : Json} {place : String} {a : α}
    (h : enum text allowed j place = .ok a) : j = .str (text a) := by
  cases j with
  | str s =>
      simp only [enum] at h
      split at h
      · rename_i found
        cases h
        have same := List.find?_some found
        rw [eq_of_beq same]
      · cases h
  | _ => cases h

theorem object_ok {α : Type} {schema : Schema α} {j : Json} {place : String} {value : α}
    (h : object schema j place = .ok value) :
    schema.read (fun key => j.get? key) place = .ok value := by
  cases j with
  | obj fields =>
      simp only [object, check_ok] at h
      exact h.2
  | _ => cases h

/-- The key of a validated evidence is the one its typed form has. -/
theorem recordKey_of_valid {kind : Kind} {raw : Json} {place : String} {evidence : Evidence}
    (h : evidenceSchemas kind raw place = .ok evidence) :
    recordKey kind raw = .ok evidence.key.val := by
  cases kind with
  | findingIngested =>
      obtain ⟨e, valid, rfl⟩ := map_ok.mp h
      have read := object_ok valid
      simp only [Schema.read_seq, Schema.read_map, Schema.read_field, seq_ok, map_ok, bind_ok,
        item_ok] at read
      obtain ⟨_, ⟨_, ⟨_, ⟨id, ⟨j, found, text⟩, rfl⟩, _, -, rfl⟩, _, -, rfl⟩, _, -, rfl⟩ := read
      exact textMember_str (pattern_str text ▸ found)
  | findingClassified =>
      obtain ⟨e, valid, rfl⟩ := map_ok.mp h
      have read := object_ok valid
      simp only [Schema.read_seq, Schema.read_map, Schema.read_field, seq_ok, map_ok, bind_ok,
        item_ok] at read
      obtain ⟨_, ⟨_, ⟨_, ⟨_, ⟨_, ⟨_, ⟨id, ⟨j, found, text⟩, rfl⟩, _, -, rfl⟩, _, -, rfl⟩, _, -,
        rfl⟩, basis, ⟨b, found_basis, basis_text⟩, rfl⟩, _, -, rfl⟩, _, -, rfl⟩ := read
      exact digestOf_pair (pattern_str text ▸ found) (enum_str basis_text ▸ found_basis)
  | historicalEvidenceAssessed =>
      obtain ⟨e, valid, rfl⟩ := map_ok.mp h
      have read := object_ok valid
      simp only [Schema.read_seq, Schema.read_seqLeft, Schema.read_map, Schema.read_field, seq_ok,
        seqLeft_ok, map_ok, bind_ok, item_ok] at read
      obtain ⟨_, ⟨⟨_, ⟨_, ⟨_, ⟨_, ⟨_, ⟨_, ⟨_, ⟨_, ⟨_, ⟨id, ⟨j, found, text⟩, rfl⟩, _, -, rfl⟩, _, -,
        rfl⟩, _, -, rfl⟩, _, -, rfl⟩, _, -, rfl⟩, _, -, rfl⟩, _, -, rfl⟩, _, -, rfl⟩, _, -, rfl⟩, -⟩,
        _, -, rfl⟩ := read
      exact textMember_str (pattern_str text ▸ found)
  | familyCandidate =>
      obtain ⟨e, valid, rfl⟩ := map_ok.mp h
      have read := object_ok valid
      simp only [Schema.read_seq, Schema.read_map, Schema.read_field, seq_ok, map_ok, bind_ok,
        item_ok] at read
      obtain ⟨_, ⟨_, ⟨_, ⟨_, ⟨_, ⟨id, ⟨j, found, text⟩, rfl⟩, _, -, rfl⟩, _, -, rfl⟩, _, -, rfl⟩, _,
        -, rfl⟩, _, -, rfl⟩ := read
      exact textMember_str (pattern_str text ▸ found)
  | remediationRequested =>
      obtain ⟨e, valid, rfl⟩ := map_ok.mp h
      have read := object_ok valid
      simp only [Schema.read_seq, Schema.read_map, Schema.read_field, seq_ok, map_ok, bind_ok,
        item_ok] at read
      obtain ⟨_, ⟨_, ⟨_, ⟨_, ⟨id, ⟨j, found, text⟩, rfl⟩, attempt, ⟨a, found_attempt, number⟩, rfl⟩,
        _, -, rfl⟩, _, -, rfl⟩, _, -, rfl⟩ := read
      exact digestOf_pair (pattern_str text ▸ found) (int_int number ▸ found_attempt)
  | findingProven =>
      obtain ⟨e, valid, rfl⟩ := map_ok.mp h
      have read := object_ok valid
      simp only [Schema.read_seq, Schema.read_map, Schema.read_field, seq_ok, map_ok, bind_ok,
        item_ok] at read
      obtain ⟨_, ⟨_, ⟨_, ⟨_, ⟨_, ⟨id, ⟨j, found, text⟩, rfl⟩, _, -, rfl⟩, _, -, rfl⟩, _, -, rfl⟩, _,
        -, rfl⟩, _, -, rfl⟩ := read
      exact textMember_str (pattern_str text ▸ found)
  | threadResolved =>
      obtain ⟨e, valid, rfl⟩ := map_ok.mp h
      have read := object_ok valid
      simp only [Schema.read_seq, Schema.read_map, Schema.read_field, seq_ok, map_ok, bind_ok,
        item_ok] at read
      obtain ⟨_, ⟨_, ⟨id, ⟨j, found, text⟩, rfl⟩, _, -, rfl⟩, _, -, rfl⟩ := read
      exact textMember_str (pattern_str text ▸ found)
  | recurrence =>
      obtain ⟨e, valid, rfl⟩ := map_ok.mp h
      have read := object_ok valid
      simp only [Schema.read_seq, Schema.read_map, Schema.read_field, seq_ok, map_ok, bind_ok,
        item_ok] at read
      obtain ⟨_, ⟨id, ⟨j, found, text⟩, rfl⟩, finding, ⟨f, found_finding, finding_text⟩, rfl⟩ := read
      exact digestOf_pair (pattern_str text ▸ found) (pattern_str finding_text ▸ found_finding)

theorem recordSchema_finish {j : Json} {place : String} {kind : Kind}
    {finish : Evidence → Json → Json → Record}
    (h : object recordSchema j place = .ok (kind, finish)) (evidence : Evidence) (raw whole : Json) :
    (finish evidence raw whole).evidence = evidence ∧
      (finish evidence raw whole).rawEvidence = raw ∧ (finish evidence raw whole).raw = whole := by
  have read := object_ok h
  simp only [recordSchema, Schema.read_seq, Schema.read_map, seq_ok, map_ok] at read
  obtain ⟨_, ⟨_, ⟨_, ⟨_, ⟨_, ⟨_, ⟨_, ⟨_, ⟨_, ⟨_, -, rfl⟩, _, -, rfl⟩, _, -, rfl⟩, _, -, rfl⟩, _, -,
    rfl⟩, _, -, rfl⟩, _, -, rfl⟩, _, -, rfl⟩, _, -, rfl⟩, _, -, same⟩ := read
  cases same
  exact ⟨rfl, rfl, rfl⟩

/-- A decoded record holds what its raw evidence validates to. -/
theorem decodeRecord_evidence {json : Json} {record : Record} (h : decodeRecord json = .ok record) :
    ∃ place, evidenceSchemas record.kind record.rawEvidence place = .ok record.evidence := by
  simp only [decodeRecord, reload_eq, ok_bind, bind_ok, reraise_ok, pure_eq_ok, ok_inj] at h
  obtain ⟨_, valid, _, -, rfl⟩ := h
  simp only [validateRecord, bind_ok, Prod.exists, item_ok, pure_eq_ok, ok_inj] at valid
  obtain ⟨kind, finish, base, raw, -, evidence, typed, rfl⟩ := valid
  have parts := recordSchema_finish base evidence raw json.canon
  rw [Record.kind, parts.1, parts.2.1, evidenceSchemas_kind typed]
  exact ⟨_, typed⟩

structure Extends (view : KnowledgeView) (record : Record) (view' : KnowledgeView) : Prop where
  seq : record.recordSeq.val = view.nextSeq
  prev : record.prevRecordSha256 = view.headRecordDigest
  repository : record.repositoryId.val = view.repositoryId
  role : record.recordedBy.role ∈ writerRoles record.kind
  key : record.key = record.evidence.key
  fresh : view.keys.get? record.slot = none
  folds : ∃ folded, Admits view record.evidence folded ∧ folded.append record = view'

namespace Admits

variable {evidence : Evidence}

theorem keys (h : Admits view evidence view') : view'.keys = view.keys := by
  cases h <;> rfl

theorem repositoryId (h : Admits view evidence view') :
    view'.repositoryId = view.repositoryId := by
  cases h <;> rfl

theorem nextSeq (h : Admits view evidence view') : view'.nextSeq = view.nextSeq := by
  cases h <;> rfl

end Admits

namespace Extends

variable {record : Record}

theorem keys (h : Extends view record view') :
    view'.keys = view.keys.set record.slot (evidenceDigest record.rawEvidence) := by
  obtain ⟨folded, admits, rfl⟩ := h.folds
  rw [KnowledgeView.append, admits.keys]

theorem repositoryId (h : Extends view record view') : view'.repositoryId = view.repositoryId := by
  obtain ⟨folded, admits, rfl⟩ := h.folds
  exact admits.repositoryId

end Extends

/-- Every kind and key is that of one record, and holds the digest of its evidence. -/
theorem Run.slots {repositoryId : Int} {records : List Record}
    (h : Run Extends (.empty repositoryId) records view) :
    (records.map Record.slot).Nodup ∧ ∀ slot digest, view.keys.get? slot = some digest ↔
      ∃ record ∈ records, record.slot = slot ∧ evidenceDigest record.rawEvidence = digest := by
  refine h.invariant (fun records (view : KnowledgeView) => (records.map Record.slot).Nodup ∧
    ∀ slot digest, view.keys.get? slot = some digest ↔ ∃ record ∈ records, record.slot = slot ∧
      evidenceDigest record.rawEvidence = digest) ⟨List.nodup_nil, by simp [KnowledgeView.empty]⟩ ?_
  intro records view record view' _ before step
  have fresh : record.slot ∉ records.map Record.slot := by
    intro member
    obtain ⟨earlier, present, same⟩ := List.mem_map.mp member
    have taken := (before.2 _ _).mpr ⟨earlier, present, same, rfl⟩
    rw [step.fresh] at taken
    cases taken
  constructor
  · rw [List.map_append, List.nodup_append]
    refine ⟨before.1, List.nodup_singleton _, fun a earlier b last same => ?_⟩
    exact fresh (List.mem_singleton.mp last ▸ same ▸ earlier)
  · intro slot digest
    rw [step.keys, Dict.get?_set]
    by_cases here : slot = record.slot
    · subst here
      rw [if_pos rfl, Option.some.injEq]
      constructor
      · intro same
        exact ⟨record, by simp, rfl, same⟩
      · intro ⟨other, member, same, digests⟩
        cases List.mem_append.mp member with
        | inl earlier => exact absurd (List.mem_map.mpr ⟨other, earlier, same⟩) fresh
        | inr last => exact List.mem_singleton.mp last ▸ digests
    · rw [if_neg here, before.2]
      constructor
      · intro ⟨other, member, rest⟩
        exact ⟨other, List.mem_append_left _ member, rest⟩
      · intro ⟨other, member, same, digests⟩
        cases List.mem_append.mp member with
        | inl earlier => exact ⟨other, earlier, same, digests⟩
        | inr last => exact absurd (List.mem_singleton.mp last ▸ same.symm) here

section Apply

variable [Ed25519] {trust : TrustRoots} {provenance : ProvenanceCheck}

theorem apply_ok {json : Json} :
    apply trust provenance view json = .ok view' ↔ ∃ record, decodeRecord json = .ok record ∧
      checkRecord view record trust provenance = .ok () ∧
      ∃ folded, Admits view record.evidence folded ∧ folded.append record = view' := by
  simp only [apply, bind_ok, pure_eq_ok, ok_inj, fold_iff]
  exact ⟨fun ⟨record, decoded, (), checked, rest⟩ => ⟨record, decoded, checked, rest⟩,
    fun ⟨record, decoded, checked, rest⟩ => ⟨record, decoded, (), checked, rest⟩⟩

theorem apply_extends {json : Json} (h : apply trust provenance view json = .ok view') :
    ∃ record, decodeRecord json = .ok record ∧ Extends view record view' := by
  obtain ⟨record, decoded, checked, folds⟩ := apply_ok.mp h
  obtain ⟨place, typed⟩ := decodeRecord_evidence decoded
  simp only [checkRecord, check_ok, require_ok, recordKey_of_valid typed, ok_bind] at checked
  obtain ⟨-, seq, prev, ⟨repository, -⟩, role, trusted⟩ := checked
  obtain ⟨_, -, rest⟩ := bind_ok.mp trusted
  simp only [check_ok, require_ok] at rest
  exact ⟨record, decoded, seq, prev, repository, role, Regex.Matching.ext rest.2.1, rest.2.2, folds⟩

/-- The records of a ledger, decoded in order. -/
def Decoded (entries : List Json) (records : List Record) : Prop :=
  List.Forall₂ (fun json record => decodeRecord json = .ok record) entries records

/-- A ledger that verifies is a run of admitted records. -/
theorem applyAll_run {entries : List Json} (h : applyAll trust provenance entries = .ok view) :
    ∃ records, Decoded entries records ∧
      Run Extends (.empty trust.repositoryId) records view :=
  (Run.of_foldlM h).relabel fun _ _ _ step => apply_extends step

end Apply

end Hunter.Knowledge
