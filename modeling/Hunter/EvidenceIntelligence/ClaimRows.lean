import Mathlib
import Hunter.Data.Sorting
import Hunter.Data.Upserts
import Hunter.EvidenceIntelligence.Lifecycle

/-!
Claims persisted one after the other under one identity. A claim is identified by what
it says and by the sets of its sources and spans; its row has more columns than that, and
each link is identified by its position as well, while a claim and a source are linked
once. Two inputs of one identity are interchangeable exactly when they write the same row
and each source and each span stands at one position.
-/

namespace Hunter.EvidenceIntelligence

open Calendar Execution Fallible

inductive AuthorityStatus where
  | verifiedOfficial | verifiedAffiliated | verifiedGovernance | verifiedRepository | thirdParty
  | community | ambiguous | impersonationSuspected | unverified | unavailable
  deriving DecidableEq, Repr

inductive SupportLevel where
  | literalSupport | semanticSupport
  deriving DecidableEq, Repr

/-- An input with the fields that no history reads. -/
structure ClaimInput extends ClaimPersistenceInput where
  supportLevel : SupportLevel
  subjectCandidateId : Option String
  authorityStatus : AuthorityStatus
  processingProvider : String
  processingArtifactId : String
  observedAt : Moment
  availableAt : Moment
  retrievedAt : Moment
  processedAt : Moment
  unit : String
  processing : blank processingProvider = false ∧ blank processingArtifactId = false

/-- The columns of a claim beside those of its history; the confidence comes with its
components. -/
structure ClaimColumns (γ : Type) where
  subjectCandidateId : Option String
  predicateSchemaVersion : String
  objectEntityId : Option String
  literalValue : Option Literal
  literalValueType : Option String
  unit : String
  polarity : String
  modality : String
  validFrom : Option Moment
  validTo : Option Moment
  observedAt : Moment
  availableAt : Moment
  retrievedAt : Moment
  processedAt : Moment
  supportLevel : SupportLevel
  confidence : γ
  authorityStatus : AuthorityStatus
  processingProvider : String
  processingArtifactId : String
  schemaVersion : String
  createdAt : Moment

variable {γ : Type}

def ClaimInput.columns (item : ClaimInput) (confidence : γ) : ClaimColumns γ where
  subjectCandidateId := item.subjectCandidateId
  predicateSchemaVersion := item.predicateSchemaVersion
  objectEntityId := item.objectEntityId
  literalValue := item.proposal.literalValue
  literalValueType := item.proposal.literalValueType
  unit := item.unit
  polarity := item.proposal.polarity
  modality := item.proposal.modality
  validFrom := item.validFrom
  validTo := item.validTo
  observedAt := item.observedAt
  availableAt := item.availableAt
  retrievedAt := item.retrievedAt
  processedAt := item.processedAt
  supportLevel := item.supportLevel
  confidence := confidence
  authorityStatus := item.authorityStatus
  processingProvider := item.processingProvider
  processingArtifactId := item.processingArtifactId
  schemaVersion := "knowledge-claim-v1"
  createdAt := item.processedAt

/-- The columns, as far as the constructor of a claim may refuse them. -/
def claimColumns (item : ClaimInput) (confidence : γ) : Py (ClaimColumns γ) := do
  require (item.unit = "" ∨ blank item.unit = false) (.valueError "unit must not be blank")
  optionalText "subject_candidate_id" item.subjectCandidateId
  return item.columns confidence

/-- The row of a claim that was just persisted. -/
def claimRow (item : ClaimPersistenceInput) : KnowledgeClaim :=
  ⟨claimId item, item.subjectEntityId, item.proposal.predicateId, item.scope, .active, none, none⟩

/-- A confidence with its three components. -/
structure Confidence where
  confidence : ℚ
  support : ℚ
  authority : ℚ
  lineage : ℚ
  deriving DecidableEq

def authorityComponent : AuthorityStatus → ℚ
  | .verifiedOfficial => 1
  | .verifiedAffiliated | .verifiedGovernance => 90 / 100
  | .verifiedRepository => 85 / 100
  | .thirdParty => 65 / 100
  | .community => 45 / 100
  | .ambiguous => 30 / 100
  | .impersonationSuspected => 5 / 100
  | .unverified => 20 / 100
  | .unavailable => 0

namespace DeterministicConfidenceProjector

/-- The values have at most four decimals, so that rounding to four changes none. -/
def project (item : ClaimInput) : Py Confidence :=
  let support : ℚ := match item.supportLevel with
    | .literalSupport => 85 / 100
    | .semanticSupport => 70 / 100
  let authority := authorityComponent item.authorityStatus
  let lineage : ℚ := min 1 (45 / 100 + 15 / 100 * item.sourceEvidenceIds.eraseDups.length +
    10 / 100 * item.spanIds.eraseDups.length)
  .ok ⟨support * (45 / 100) + authority * (35 / 100) + lineage * (20 / 100), support, authority, lineage⟩

end DeterministicConfidenceProjector

/-- What a link says: the owner and the target. -/
def Link.pair (row : Link) : String × String := (row.ownerId, row.targetId)

/-- The links of an owner to its targets when none of them is blank. -/
def linkRows (kind ownerName targetName ownerId : String) (targets : List String) : List Link :=
  targets.zipIdx.map fun (target, position) =>
    ⟨identity kind (Canonical.mapping [(ownerName, .str ownerId),
      (targetName, .str target), ("position", Canonical.int position)]), ownerId, target, position⟩

def ClaimPersistenceInput.sourceLinks (item : ClaimPersistenceInput) : List Link :=
  linkRows "evidence-claim-source-link" "claim_id" "source_evidence_id" (claimId item)
    item.sourceEvidenceIds

def ClaimPersistenceInput.spanLinks (item : ClaimPersistenceInput) : List Link :=
  linkRows "evidence-claim-span-link" "claim_id" "span_id" (claimId item) item.spanIds

theorem text_ok {name value : String} : text name value = .ok () ↔ blank value = false := require_ok

theorem linksTo_ok {kind ownerName targetName ownerId : String} {targets : List String}
    {links : List Link} :
    linksTo kind ownerName targetName ownerId targets = .ok links ↔
      (∀ target ∈ targets, blank target = false) ∧
        links = linkRows kind ownerName targetName ownerId targets := by
  have made : ∀ row result : Link, link targetName row = .ok result ↔
      blank row.targetId = false ∧ result = row := by
    intro row result
    unfold link
    rw [check_ok, text_ok]
    exact and_congr_right fun _ => ⟨fun same => (Except.ok.inj same).symm, fun same => same ▸ rfl⟩
  unfold linksTo linkRows
  generalize 0 = start
  induction targets generalizing start links with
  | nil =>
      refine ⟨fun done => ⟨nofun, (Except.ok.inj done).symm⟩, fun holds => holds.2 ▸ rfl⟩
  | cons target targets ih =>
      rw [List.zipIdx_cons, List.mapM_cons, bind_ok, List.map_cons, List.forall_mem_cons]
      refine ⟨fun ⟨row, first, rest⟩ => ?_, fun ⟨⟨visible, others⟩, same⟩ => ?_⟩
      · obtain ⟨rows, mapped, done⟩ := bind_ok.mp rest
        cases done
        obtain ⟨visible, rfl⟩ := (made _ _).mp first
        obtain ⟨others, rfl⟩ := (ih (start + 1)).mp mapped
        exact ⟨⟨visible, others⟩, rfl⟩
      · refine ⟨_, (made _ _).mpr ⟨visible, rfl⟩, ?_⟩
        rw [(ih (start + 1)).mpr ⟨others, rfl⟩, same]
        rfl

/-- The upsert of a link is an upsert by its id with a unique pair. -/
theorem upsertLink_ok {table : String} {rows t : List Link} {row : Link} :
    upsertLink table rows row = .ok t ↔ Upserts.upsert Link.linkId Link.pair rows row = some t := by
  have pairs : (∀ other ∈ rows.filter (fun other => other.linkId ≠ row.linkId),
      ¬(other.ownerId = row.ownerId ∧ other.targetId = row.targetId)) ↔
      ∀ other ∈ rows.filter (fun other => other.linkId ≠ row.linkId), other.pair ≠ row.pair :=
    forall₂_congr fun other _ => not_congr Prod.mk_inj.symm
  unfold upsertLink Upserts.upsert
  dsimp only
  rw [require_bind_ok, pairs]
  split
  · rename_i free
    rw [Option.some.injEq]
    exact ⟨fun done => Except.ok.inj done.2, fun same => ⟨free, same ▸ rfl⟩⟩
  · rename_i taken
    exact ⟨fun done => absurd done.1 taken, fun none => (Option.some_ne_none _ none.symm).elim⟩

theorem upsertLinks_ok {table : String} {rows links t : List Link} :
    upsertLinks table rows links = .ok t ↔ Upserts.upserts Link.linkId Link.pair rows links = some t := by
  unfold upsertLinks Upserts.upserts
  induction links generalizing rows with
  | nil => exact ⟨fun done => congrArg some (Except.ok.inj done),
      fun done => congrArg Except.ok (Option.some.inj done)⟩
  | cons row links ih =>
      rw [List.foldlM_cons, List.foldlM_cons, bind_ok]
      refine Iff.trans ?_ Option.bind_eq_some_iff.symm
      exact exists_congr fun after => and_congr upsertLink_ok ih

/-- What the constructors ask of an input. -/
structure ClaimPersistenceInput.Acceptable (item : ClaimPersistenceInput) : Prop where
  scope : item.scope = "" ∨ blank item.scope = false
  predicate : blank item.proposal.predicateId = false
  object : item.objectEntityId ≠ none ∨ item.proposal.literalValue ≠ none
  entity : ∀ entity ∈ item.objectEntityId, blank entity = false
  typed : item.proposal.literalValue ≠ none → item.proposal.literalValueType ≠ none
  literalValueType : ∀ type ∈ item.proposal.literalValueType, type ∈ literalValueTypes
  polarity : item.proposal.polarity ∈ polarities
  modality : item.proposal.modality ∈ modalities
  sources : ∀ source ∈ item.sourceEvidenceIds, blank source = false
  spans : ∀ span ∈ item.spanIds, blank span = false

theorem optionalText_ok {name : String} {value : Option String} :
    optionalText name value = .ok () ↔ ∀ text ∈ value, blank text = false := by
  cases value with
  | none => exact ⟨fun _ => nofun, fun _ => rfl⟩
  | some value =>
      refine Iff.trans text_ok ⟨fun visible text there => ?_, fun all => all value rfl⟩
      cases there
      exact visible

theorem optionalMember_ok {name : String} {value : Option String} {allowed : List String} :
    optionalMember name value allowed = .ok () ↔ ∀ text ∈ value, text ∈ allowed := by
  cases value with
  | none => exact ⟨fun _ => nofun, fun _ => rfl⟩
  | some value =>
      refine Iff.trans require_ok ⟨fun inside text there => ?_, fun all => all value rfl⟩
      cases there
      exact inside

theorem knowledgeClaim_iff {item : ClaimPersistenceInput} {claim : KnowledgeClaim} :
    knowledgeClaim item = .ok claim ↔ ((item.scope = "" ∨ blank item.scope = false) ∧
      blank item.proposal.predicateId = false ∧
      (item.objectEntityId ≠ none ∨ item.proposal.literalValue ≠ none) ∧
      (∀ entity ∈ item.objectEntityId, blank entity = false) ∧
      (item.proposal.literalValue ≠ none → item.proposal.literalValueType ≠ none) ∧
      (∀ type ∈ item.proposal.literalValueType, type ∈ literalValueTypes) ∧
      item.proposal.polarity ∈ polarities ∧ item.proposal.modality ∈ modalities) ∧
      claim = claimRow item := by
  unfold knowledgeClaim member
  rw [require_bind_ok, check_ok, text_ok, require_bind_ok, check_ok, optionalText_ok, require_bind_ok,
    check_ok, optionalMember_ok, require_bind_ok, require_bind_ok]
  refine ⟨fun ⟨scope, predicate, object, entity, typed, literal, polarity, modality, done⟩ =>
    ⟨⟨scope, predicate, object, entity, typed, literal, polarity, modality⟩, (Except.ok.inj done).symm⟩, ?_⟩
  rintro ⟨⟨scope, predicate, object, entity, typed, literal, polarity, modality⟩, rfl⟩
  exact ⟨scope, predicate, object, entity, typed, literal, polarity, modality, rfl⟩

theorem acceptedEvent_checked {item : ClaimPersistenceInput} (source : blank item.source = false) :
    (acceptedEvent item).missing "claim_id" = none := by
  have event : blank (acceptedEventId item) = false := blank_identity rfl (by decide)
  have claim : blank (claimId item) = false := blank_identity rfl (by decide)
  have texts : ∀ text ∈ ["validated extraction persisted as canonical knowledge claim"],
      blank text = false := by decide
  have schema : ∀ text ∈ ["claim-lifecycle-event-v1"], blank text = false := by decide
  refine missing_eq_none (List.forall_mem_cons.mpr ⟨event, List.forall_mem_cons.mpr ⟨claim,
    List.forall_mem_cons.mpr ⟨source, List.forall_mem_cons.mpr ⟨texts _ List.mem_cons_self,
      List.forall_mem_cons.mpr ⟨item.required.2.2, schema⟩⟩⟩⟩⟩)

/-- The repository with an input written into it. -/
def Repository.withClaim (r : Repository) (item : ClaimPersistenceInput) (sources spans : List Link) :
    Repository :=
  { r with
    claims := r.claims.set (claimId item) (claimRow item)
    claimEvents := lifecycle.put (acceptedEvent item) r.claimEvents
    claimSourceLinks := sources
    claimSpanLinks := spans }

theorem persist_ok {r t : Repository} {item : ClaimPersistenceInput} :
    ClaimPersistenceService.persist r item = .ok t ↔ item.Acceptable ∧ ∃ sources spans,
      Upserts.upserts Link.linkId Link.pair r.claimSourceLinks item.sourceLinks = some sources ∧
      Upserts.upserts Link.linkId Link.pair r.claimSpanLinks item.spanLinks = some spans ∧
      t = r.withClaim item sources spans := by
  unfold ClaimPersistenceService.persist Repository.saveClaimWithLifecycle
  refine ⟨fun done => ?_, fun ⟨acceptable, sources, spans, sourcesDone, spansDone, same⟩ => ?_⟩
  · obtain ⟨claim, made, done⟩ := bind_ok.mp done
    obtain ⟨⟨scope, predicate, object, entity, typed, literal, polarity, modality⟩, rfl⟩ :=
      knowledgeClaim_iff.mp made
    obtain ⟨event, checked, done⟩ := bind_ok.mp done
    obtain ⟨sourceLinks, sourcesMade, done⟩ := bind_ok.mp done
    obtain ⟨sourcesVisible, rfl⟩ := linksTo_ok.mp sourcesMade
    obtain ⟨spanLinks, spansMade, done⟩ := bind_ok.mp done
    obtain ⟨spansVisible, rfl⟩ := linksTo_ok.mp spansMade
    obtain ⟨sources, sourcesDone, done⟩ := bind_ok.mp done
    obtain ⟨spans, spansDone, done⟩ := bind_ok.mp done
    refine ⟨⟨scope, predicate, object, entity, typed, literal, polarity, modality, sourcesVisible,
        spansVisible⟩, sources, spans,
      upsertLinks_ok.mp sourcesDone, upsertLinks_ok.mp spansDone, ?_⟩
    rw [← Except.ok.inj done, lifecycleEvent_ok checked]
    rfl
  · have source : blank item.source = false := acceptable.sources _ (List.head_mem item.sources)
    have event : lifecycleEvent "claim_id" (acceptedEvent item) =
        .ok ⟨_, acceptedEvent_checked source⟩ := by
      unfold lifecycleEvent
      split
      · rfl
      · rename_i name missing
        rw [acceptedEvent_checked source] at missing
        cases missing
    have claim := knowledgeClaim_iff.mpr ⟨⟨acceptable.scope, acceptable.predicate, acceptable.object,
      acceptable.entity, acceptable.typed, acceptable.literalValueType, acceptable.polarity,
      acceptable.modality⟩, rfl⟩
    have sourceLinks : linksTo "evidence-claim-source-link" "claim_id" "source_evidence_id"
        (claimRow item).claimId item.sourceEvidenceIds = .ok item.sourceLinks :=
      linksTo_ok.mpr ⟨acceptable.sources, rfl⟩
    have spanLinks : linksTo "evidence-claim-span-link" "claim_id" "span_id"
        (claimRow item).claimId item.spanIds = .ok item.spanLinks :=
      linksTo_ok.mpr ⟨acceptable.spans, rfl⟩
    rw [claim, ok_bind, event, ok_bind, sourceLinks, ok_bind, spanLinks, ok_bind,
      upsertLinks_ok.mpr sourcesDone, ok_bind, upsertLinks_ok.mpr spansDone, same]
    rfl

structure ClaimStore (γ : Type) where
  repository : Repository
  columns : Dict String (ClaimColumns γ)
  sourceKeys : (repository.claimSourceLinks.map Link.linkId).Nodup
  spanKeys : (repository.claimSpanLinks.map Link.linkId).Nodup

namespace ClaimStore

def empty : ClaimStore γ := ⟨Repository.empty, Dict.empty, List.nodup_nil, List.nodup_nil⟩

/-- The row of a claim. -/
def row (store : ClaimStore γ) (claimId : String) : Option KnowledgeClaim × Option (ClaimColumns γ) :=
  (store.repository.claims.get? claimId, store.columns.get? claimId)

theorem withClaim_sourceKeys {r t : Repository} {item : ClaimPersistenceInput}
    (done : ClaimPersistenceService.persist r item = .ok t)
    (nodup : (r.claimSourceLinks.map Link.linkId).Nodup) : (t.claimSourceLinks.map Link.linkId).Nodup := by
  obtain ⟨-, sources, spans, sourcesDone, -, rfl⟩ := persist_ok.mp done
  exact Upserts.upserts_nodup nodup sourcesDone

theorem withClaim_spanKeys {r t : Repository} {item : ClaimPersistenceInput}
    (done : ClaimPersistenceService.persist r item = .ok t)
    (nodup : (r.claimSpanLinks.map Link.linkId).Nodup) : (t.claimSpanLinks.map Link.linkId).Nodup := by
  obtain ⟨-, sources, spans, -, spansDone, rfl⟩ := persist_ok.mp done
  exact Upserts.upserts_nodup nodup spansDone

/-- `persist`, with the confidence that the projector of the service gives. -/
def persist (project : ClaimInput → Py γ) (store : ClaimStore γ) (item : ClaimInput) :
    Py (ClaimStore γ) := do
  let confidence ← project item
  let columns ← claimColumns item confidence
  match done : ClaimPersistenceService.persist store.repository item.toClaimPersistenceInput with
  | .error exn => .error exn
  | .ok after => .ok {
      repository := after
      columns := store.columns.set (claimId item.toClaimPersistenceInput) columns
      sourceKeys := withClaim_sourceKeys done store.sourceKeys
      spanKeys := withClaim_spanKeys done store.spanKeys }

variable {project : ClaimInput → Py γ} {store one : ClaimStore γ} {item : ClaimInput}
  {sourceLog spanLog : List Link}

/-- The tables of links are what two logs of writes leave. -/
structure Reads (store : ClaimStore γ) (sourceLog spanLog : List Link) : Prop where
  sources : ∀ x, x ∈ store.repository.claimSourceLinks ↔ Upserts.Current Link.linkId sourceLog x
  spans : ∀ x, x ∈ store.repository.claimSpanLinks ↔ Upserts.Current Link.linkId spanLog x

/-- A claim with these sources and one span. -/
def sampleInput (sources : List String) (given : sources ≠ []) (recordedAt : Moment) : ClaimInput where
  toClaimPersistenceInput :=
    { sampleItem recordedAt with sourceEvidenceIds := sources, sources := given }
  supportLevel := .literalSupport
  subjectCandidateId := none
  authorityStatus := .thirdParty
  processingProvider := "deterministic"
  processingArtifactId := "artifact-1"
  observedAt := sampleMoment 0
  availableAt := sampleMoment 0
  retrievedAt := sampleMoment 0
  processedAt := sampleMoment 0
  unit := ""
  processing := by decide

theorem source_given : ["source-1"] ≠ [] := List.cons_ne_nil _ _

def sampleOne (recordedAt : Moment) : ClaimInput := sampleInput ["source-1"] source_given recordedAt

end ClaimStore

end Hunter.EvidenceIntelligence
