import Hunter.EvidenceIntelligence.ClaimRows

/-!
Views of relationships at a cutoff. A relationship is a projection of a claim; its status
is that of the claim at the cutoff, overridden by the documents and the authorities behind
the claim and then by the conflicts linked to it. The last override is the strongest: an
active conflict makes any view disputed.
-/

namespace Hunter.EvidenceIntelligence

open Calendar Projection

inductive DocumentStatus where
  | active | superseded | retracted | sourceRemoved | historicalOnly | disputed | unavailable | rejected
  deriving DecidableEq, Repr

abbrev DocumentLifecycleEventType : Type := ClaimLifecycleEventType

/-- A verification of the authority of a document, as far as a query reads it. -/
structure AuthorityEvent where
  verificationId : String
  documentId : String
  authorityStatus : AuthorityStatus
  effectiveAt : Moment
  recordedAt : Moment

def authority : Fields AuthorityEvent String String String AuthorityStatus where
  id := AuthorityEvent.verificationId
  owner := AuthorityEvent.documentId
  effectiveAt event := event.effectiveAt.isoformat
  recordedAt event := event.recordedAt.isoformat
  status := AuthorityEvent.authorityStatus

structure RelationshipProjection where
  claimId : String
  subjectEntityId : String
  predicateId : String
  objectEntityId : String

/-- The tables that a view reads; a span belongs to a document. -/
structure RelationshipStore (γ : Type) where
  claims : ClaimStore γ
  projections : Dict String RelationshipProjection
  spanDocuments : Dict String String
  documents : List String
  documentEvents : List (LifecycleEvent DocumentLifecycleEventType DocumentStatus)
  authorityEvents : List AuthorityEvent

structure RelationshipView (γ : Type) where
  relationshipId : String
  claimId : String
  subjectEntityId : String
  predicateId : String
  objectEntityId : String
  status : ClaimStatus
  confidence : γ
  conflictStatuses : List ConflictStatus
  documentStatuses : List DocumentStatus
  authorityStatuses : List AuthorityStatus

def activeDocumentStatuses : List DocumentStatus := [.active, .disputed, .historicalOnly]

def usableAuthorityStatuses : List AuthorityStatus :=
  [.verifiedOfficial, .verifiedAffiliated, .verifiedGovernance, .verifiedRepository, .thirdParty,
    .community, .ambiguous, .unverified]

def activeConflictStatuses : List ConflictStatus := [.detected, .disputed]

/-- The status of the last entry of the owner in effect at the cutoff; strict replay also asks
that the entry was recorded by then. -/
def statusAt {α σ : Type} (F : Fields α String String String σ) (owner : String) (cutoff : Moment)
    (strictKnownByHunter : Bool) (entries : List α) : Option σ :=
  if strictKnownByHunter then F.statusKnownBy owner cutoff.isoformat entries
  else (F.latest (entries.filter fun entry =>
    F.owner entry = owner ∧ F.effectiveAt entry ≤ cutoff.isoformat)).map F.status

variable {γ : Type}

namespace RelationshipStore

variable (store : RelationshipStore γ) (cutoff : Moment) (strictKnownByHunter : Bool)

def documentStatusAt (documentId : String) : Option DocumentStatus :=
  statusAt lifecycle documentId cutoff strictKnownByHunter store.documentEvents

def authorityStatusAt (documentId : String) : Option AuthorityStatus :=
  statusAt authority documentId cutoff strictKnownByHunter store.authorityEvents

def conflictStatusAt (conflictId : String) : Option ConflictStatus :=
  statusAt lifecycle conflictId cutoff strictKnownByHunter store.claims.repository.conflictEvents

/-- The documents of the spans that the claim is linked to. -/
def lineageDocuments (claimId : String) : List String :=
  Sorting.sorted (store.documents.filter fun document =>
    (Repository.targets store.claims.repository.claimSpanLinks claimId).any fun span =>
      store.spanDocuments.get? span = some document)

/-- The conflicts that the claim is linked to, once for each link. -/
def lineageConflicts (claimId : String) : List String :=
  Sorting.sorted ((Repository.targets store.claims.repository.claimConflictLinks claimId).filter
    fun conflict => (store.claims.repository.conflicts.get? conflict).isSome)

def documentStatuses (claimId : String) : List DocumentStatus :=
  (store.lineageDocuments claimId).map fun document =>
    (store.documentStatusAt cutoff strictKnownByHunter document).getD .unavailable

def authorityStatuses (claimId : String) : List AuthorityStatus :=
  (store.lineageDocuments claimId).map fun document =>
    (store.authorityStatusAt cutoff strictKnownByHunter document).getD .unavailable

def conflictStatuses (claimId : String) : List ConflictStatus :=
  (store.lineageConflicts claimId).filterMap (store.conflictStatusAt cutoff strictKnownByHunter)

/-- The overrides, one after the other. -/
def overridden (claimStatus : ClaimStatus) (documents : List DocumentStatus)
    (authorities : List AuthorityStatus) (conflicts : List ConflictStatus) : ClaimStatus :=
  let claimStatus := if documents.any fun status => status ∉ activeDocumentStatuses then .unavailable
    else claimStatus
  let claimStatus := if authorities.any fun status => status ∉ usableAuthorityStatuses then .unavailable
    else claimStatus
  if conflicts.any fun status => status ∈ activeConflictStatuses then .disputed else claimStatus

def viewAt (relationshipId : String) : Option (RelationshipView γ) := do
  let projection ← store.projections.get? relationshipId
  let _ ← store.claims.repository.claims.get? projection.claimId
  let claim ← store.claims.columns.get? projection.claimId
  let claimStatus ←
    store.claims.repository.claimStatusAt projection.claimId cutoff strictKnownByHunter
  let documentStatuses := store.documentStatuses cutoff strictKnownByHunter projection.claimId
  let authorityStatuses := store.authorityStatuses cutoff strictKnownByHunter projection.claimId
  let conflictStatuses := store.conflictStatuses cutoff strictKnownByHunter projection.claimId
  return {
    relationshipId := relationshipId
    claimId := projection.claimId
    subjectEntityId := projection.subjectEntityId
    predicateId := projection.predicateId
    objectEntityId := projection.objectEntityId
    status := overridden claimStatus documentStatuses authorityStatuses conflictStatuses
    confidence := claim.confidence
    conflictStatuses := conflictStatuses
    documentStatuses := documentStatuses
    authorityStatuses := authorityStatuses }

/-- Every document and every authority behind the claim can be used. -/
def Usable (claimId : String) : Prop :=
  ∀ document ∈ store.lineageDocuments claimId,
    (∃ status ∈ activeDocumentStatuses,
      store.documentStatusAt cutoff strictKnownByHunter document = some status) ∧
    ∃ status ∈ usableAuthorityStatuses,
      store.authorityStatusAt cutoff strictKnownByHunter document = some status

/-- Some conflict linked to the claim is detected or disputed. -/
def Contested (claimId : String) : Prop :=
  ∃ conflict ∈ store.lineageConflicts claimId, ∃ status ∈ activeConflictStatuses,
    store.conflictStatusAt cutoff strictKnownByHunter conflict = some status

end RelationshipStore

/-- The statuses from which a claim counts as live. -/
def ClaimStatus.Live (status : ClaimStatus) : Prop := status ∈ [.active, .disputed]

/-- The statuses that make a claim unusable. -/
def ClaimStatus.Dead (status : ClaimStatus) : Prop :=
  status ∈ [.retracted, .superseded, .rejected, .unavailable]

namespace RelationshipStore

variable {store : RelationshipStore γ} {cutoff : Moment} {strictKnownByHunter : Bool} {claimId : String}

theorem contested_iff : store.Contested cutoff strictKnownByHunter claimId ↔
    (store.conflictStatuses cutoff strictKnownByHunter claimId).any
      (fun status => status ∈ activeConflictStatuses) = true := by
  rw [List.any_eq_true]
  constructor
  · rintro ⟨conflict, linked, status, active, found⟩
    exact ⟨status, List.mem_filterMap.mpr ⟨conflict, linked, found⟩, decide_eq_true active⟩
  · rintro ⟨status, there, active⟩
    obtain ⟨conflict, linked, found⟩ := List.mem_filterMap.mp there
    exact ⟨conflict, linked, status, of_decide_eq_true active, found⟩

/-- A status that is missing counts as one that cannot be used. -/
theorem getD_mem {σ : Type} [DecidableEq σ] {statuses : List σ} {missing : σ} {status : Option σ}
    (unusable : missing ∉ statuses) :
    status.getD missing ∈ statuses ↔ ∃ found ∈ statuses, status = some found := by
  cases status with
  | none => exact ⟨fun there => absurd there unusable, fun ⟨_, _, some_⟩ => nomatch some_⟩
  | some found =>
      refine ⟨fun there => ⟨found, there, rfl⟩, fun ⟨other, there, same⟩ => ?_⟩
      rw [Option.some.inj same]
      exact there

theorem usable_iff : store.Usable cutoff strictKnownByHunter claimId ↔
    (store.documentStatuses cutoff strictKnownByHunter claimId).any
      (fun status => status ∉ activeDocumentStatuses) = false ∧
    (store.authorityStatuses cutoff strictKnownByHunter claimId).any
      (fun status => status ∉ usableAuthorityStatuses) = false := by
  have documents : DocumentStatus.unavailable ∉ activeDocumentStatuses := by decide
  have authorities : AuthorityStatus.unavailable ∉ usableAuthorityStatuses := by decide
  simp only [List.any_eq_false, documentStatuses, authorityStatuses, List.forall_mem_map,
    decide_eq_true_eq, not_not, getD_mem documents, getD_mem authorities]
  exact forall₂_and

/-- The status of a view: disputed when the claim is contested, else unavailable when what is
behind it cannot be used, else that of the claim. -/
structure Shows (store : RelationshipStore γ) (cutoff : Moment) (strictKnownByHunter : Bool)
    (claimId : String) (claimStatus shown : ClaimStatus) : Prop where
  known : store.claims.repository.claimStatusAt claimId cutoff strictKnownByHunter = some claimStatus
  contested : store.Contested cutoff strictKnownByHunter claimId → shown = .disputed
  unusable : ¬store.Contested cutoff strictKnownByHunter claimId →
    ¬store.Usable cutoff strictKnownByHunter claimId → shown = .unavailable
  usable : ¬store.Contested cutoff strictKnownByHunter claimId →
    store.Usable cutoff strictKnownByHunter claimId → shown = claimStatus

theorem viewAt_shows {relationshipId : String} {view : RelationshipView γ}
    (viewed : store.viewAt cutoff strictKnownByHunter relationshipId = some view) :
    ∃ claimStatus, Shows store cutoff strictKnownByHunter view.claimId claimStatus view.status := by
  unfold viewAt at viewed
  obtain ⟨projection, -, viewed⟩ := Option.bind_eq_some_iff.mp viewed
  obtain ⟨-, -, viewed⟩ := Option.bind_eq_some_iff.mp viewed
  obtain ⟨claim, -, viewed⟩ := Option.bind_eq_some_iff.mp viewed
  obtain ⟨claimStatus, known, viewed⟩ := Option.bind_eq_some_iff.mp viewed
  cases viewed
  refine ⟨claimStatus, known, fun contested => ?_, fun calm unusable => ?_, fun calm usable => ?_⟩
  · exact if_pos (contested_iff.mp contested)
  · rw [contested_iff] at calm
    refine Eq.trans (if_neg calm) ?_
    rw [usable_iff, not_and_or, Bool.not_eq_false, Bool.not_eq_false] at unusable
    by_cases authorities : (store.authorityStatuses cutoff strictKnownByHunter projection.claimId).any
        (fun status => status ∉ usableAuthorityStatuses) = true
    · exact if_pos authorities
    · refine Eq.trans (if_neg authorities) (if_pos ?_)
      exact unusable.resolve_right authorities
  · rw [contested_iff] at calm
    obtain ⟨documents, authorities⟩ := usable_iff.mp usable
    refine Eq.trans (if_neg calm) ?_
    rw [if_neg (Bool.eq_false_iff.mp authorities), if_neg (Bool.eq_false_iff.mp documents)]

/-- Without an active conflict a view never shows a dead or unusable claim as live, and a live
claim with usable evidence is shown as disputed exactly when it is disputed by itself or by a
conflict. -/
theorem viewAt_law (store : RelationshipStore γ) (relationshipId : String) (cutoff : Moment)
    (strictKnownByHunter : Bool) (view : RelationshipView γ)
    (viewed : store.viewAt cutoff strictKnownByHunter relationshipId = some view) :
    ∃ claimStatus,
      store.claims.repository.claimStatusAt view.claimId cutoff strictKnownByHunter = some claimStatus ∧
      (claimStatus.Dead ∨ ¬store.Usable cutoff strictKnownByHunter view.claimId →
        ¬store.Contested cutoff strictKnownByHunter view.claimId → ¬view.status.Live) ∧
      (claimStatus.Live → store.Usable cutoff strictKnownByHunter view.claimId →
        (view.status = .disputed ↔
          claimStatus = .disputed ∨ store.Contested cutoff strictKnownByHunter view.claimId)) := by
  obtain ⟨claimStatus, shows_⟩ := viewAt_shows viewed
  refine ⟨claimStatus, shows_.known, fun dead calm => ?_, fun _ usable => ?_⟩
  · by_cases usable : store.Usable cutoff strictKnownByHunter view.claimId
    · rw [shows_.usable calm usable]
      have fallen := dead.resolve_right (not_not.mpr usable)
      revert fallen
      unfold ClaimStatus.Dead ClaimStatus.Live
      cases claimStatus <;> decide
    · rw [shows_.unusable calm usable]
      unfold ClaimStatus.Live
      decide
  · by_cases contested : store.Contested cutoff strictKnownByHunter view.claimId
    · exact ⟨fun _ => Or.inr contested, fun _ => shows_.contested contested⟩
    · rw [shows_.usable contested usable]
      exact ⟨Or.inl, fun cases => cases.resolve_right contested⟩

theorem statusAt_one {α σ : Type} {F : Fields α String String String σ} {entry : α} (cutoff : Moment)
    (inEffect : F.effectiveAt entry = cutoff.isoformat) :
    statusAt F (F.owner entry) cutoff false [entry] = some (F.status entry) := by
  have kept : [entry].filter (fun other => F.owner other = F.owner entry ∧
      F.effectiveAt other ≤ cutoff.isoformat) = [entry] :=
    List.filter_eq_self.mpr fun other there => by
      rw [List.mem_singleton.mp there]
      exact decide_eq_true ⟨rfl, le_of_eq inEffect⟩
  unfold statusAt
  rw [if_neg Bool.false_ne_true, kept]
  rfl

def sampleEntry {κ σ : Type} (owner : String) (eventType : κ) (status : σ) : LifecycleEvent κ σ where
  eventId := "event-1"
  ownerId := owner
  eventType := eventType
  effectiveAt := sampleMoment 0
  recordedAt := sampleMoment 0
  sourceEvidenceId := "source-1"
  reason := "reason"
  previousStatus := none
  newStatus := status
  processingRunId := "run-1"
  schemaVersion := "v1"

theorem sampleEntry_status {κ σ : Type} (owner : String) (eventType : κ) (status : σ) :
    statusAt lifecycle owner (sampleMoment 0) false [sampleEntry owner eventType status] = some status :=
  @statusAt_one _ _ lifecycle (sampleEntry owner eventType status) (sampleMoment 0) rfl

/-- One claim with its event and these conflicts, each detected and linked to it. -/
def sampleRelationships (event : LifecycleEvent ClaimLifecycleEventType ClaimStatus)
    (conflicts : List String) : RelationshipStore Unit where
  claims := {
    repository := { Repository.empty with
      claims := Dict.empty.set "claim-1" ⟨"claim-1", "entity-1", "runs_on", "", .active, none, none⟩
      claimEvents := [event]
      conflicts := conflicts.foldl (fun held conflict => held.set conflict
        ⟨conflict, "runs_on", "entity-1", "", sampleMoment 0, sampleMoment 0, none, .detected, "reason"⟩)
        Dict.empty
      conflictEvents := conflicts.map fun conflict => sampleEntry conflict ConflictStatus.detected .detected
      claimConflictLinks := conflicts.map fun conflict => ⟨"link-" ++ conflict, "claim-1", conflict, 0⟩ }
    columns := Dict.empty.set "claim-1" ((ClaimStore.sampleOne (sampleMoment 0)).columns ())
    sourceKeys := List.nodup_nil
    spanKeys := List.nodup_nil }
  projections := Dict.empty.set "relationship-1" ⟨"claim-1", "entity-1", "runs_on", "entity-2"⟩
  spanDocuments := Dict.empty
  documents := []
  documentEvents := []
  authorityEvents := []

theorem sample_viewed (eventType : ClaimLifecycleEventType) (status : ClaimStatus) (conflicts : List String) :
    ∃ view, (sampleRelationships (sampleEntry "claim-1" eventType status) conflicts).viewAt
        (sampleMoment 0) false "relationship-1" = some view ∧ view.claimId = "claim-1" ∧
      (sampleRelationships (sampleEntry "claim-1" eventType status) conflicts).claims.repository.claimStatusAt
        "claim-1" (sampleMoment 0) false = some status := by
  generalize stored : sampleRelationships (sampleEntry "claim-1" eventType status) conflicts = store
  have known : store.claims.repository.claimStatusAt "claim-1" (sampleMoment 0) false = some status := by
    rw [← stored]
    exact sampleEntry_status "claim-1" eventType status
  have projected : store.projections.get? "relationship-1" =
      some ⟨"claim-1", "entity-1", "runs_on", "entity-2"⟩ := by
    rw [← stored]
    exact (Dict.get?_set ..).trans (if_pos rfl)
  have row : store.claims.repository.claims.get? "claim-1" =
      some ⟨"claim-1", "entity-1", "runs_on", "", .active, none, none⟩ := by
    rw [← stored]
    exact (Dict.get?_set ..).trans (if_pos rfl)
  have columns : store.claims.columns.get? "claim-1" =
      some ((ClaimStore.sampleOne (sampleMoment 0)).columns ()) := by
    rw [← stored]
    exact (Dict.get?_set ..).trans (if_pos rfl)
  unfold viewAt
  rw [projected, Option.bind_eq_bind, Option.bind_some, row, Option.bind_eq_bind, Option.bind_some,
    columns, Option.bind_eq_bind, Option.bind_some, known, Option.bind_eq_bind, Option.bind_some]
  exact ⟨_, rfl, rfl, rfl⟩

theorem sample_usable (event : LifecycleEvent ClaimLifecycleEventType ClaimStatus) (conflicts : List String) :
    (sampleRelationships event conflicts).Usable (sampleMoment 0) false "claim-1" := by
  intro document there
  exact absurd there (by simp [lineageDocuments, sampleRelationships, Sorting.sorted])

theorem sample_calm (event : LifecycleEvent ClaimLifecycleEventType ClaimStatus) :
    ¬(sampleRelationships event []).Contested (sampleMoment 0) false "claim-1" := by
  rintro ⟨conflict, there, -⟩
  exact absurd there (by simp [lineageConflicts, sampleRelationships, Repository.targets, Sorting.sorted])

theorem sample_contested (event : LifecycleEvent ClaimLifecycleEventType ClaimStatus) :
    (sampleRelationships event ["conflict-1"]).Contested (sampleMoment 0) false "claim-1" := by
  have one : statusAt lifecycle "conflict-1" (sampleMoment 0) false
      [sampleEntry "conflict-1" ConflictStatus.detected .detected] = some ConflictStatus.detected :=
    sampleEntry_status "conflict-1" _ _
  refine ⟨"conflict-1", ?_, .detected, List.mem_cons_self, one⟩
  rw [lineageConflicts, (Sorting.sorted_perm _).mem_iff, List.mem_filter]
  have linked : Repository.targets (sampleRelationships event ["conflict-1"]).claims.repository.claimConflictLinks
      "claim-1" = ["conflict-1"] := by
    simp [sampleRelationships, Repository.targets]
  rw [linked]
  exact ⟨List.mem_cons_self, rfl⟩

/-- A claim that stands undisputed is shown as it is. -/
theorem viewAt_law_sample : ∃ view,
    (sampleRelationships (sampleEntry "claim-1" .accepted .active) []).viewAt (sampleMoment 0) false
      "relationship-1" = some view ∧ view.status ≠ .disputed := by
  obtain ⟨view, viewed, own, known⟩ := sample_viewed .accepted .active []
  refine ⟨view, viewed, fun disputed => ?_⟩
  obtain ⟨claimStatus, status, -, law⟩ := viewAt_law _ _ _ _ view viewed
  rw [own] at status law
  cases known.symm.trans status
  rcases (law (by unfold ClaimStatus.Live; decide) (sample_usable _ _)).mp disputed with own | contested
  · cases own
  · exact sample_calm _ contested

/-- A retracted claim with an open conflict is shown as disputed, and so is a claim that is
disputed by its own event without any conflict. -/
theorem viewAt_law_fails :
    (∃ (store : RelationshipStore Unit) (view : RelationshipView Unit),
      store.viewAt (sampleMoment 0) false "relationship-1" = some view ∧
      store.claims.repository.claimStatusAt view.claimId (sampleMoment 0) false = some .retracted ∧
      view.status.Live) ∧
    ∃ (store : RelationshipStore Unit) (view : RelationshipView Unit),
      store.viewAt (sampleMoment 0) false "relationship-1" = some view ∧
      store.claims.repository.claimStatusAt view.claimId (sampleMoment 0) false = some .disputed ∧
      store.Usable (sampleMoment 0) false view.claimId ∧
      view.status = .disputed ∧ ¬store.Contested (sampleMoment 0) false view.claimId := by
  constructor
  · obtain ⟨view, viewed, own, known⟩ := sample_viewed .retracted .retracted ["conflict-1"]
    obtain ⟨claimStatus, shows_⟩ := viewAt_shows viewed
    rw [own] at shows_
    refine ⟨_, view, viewed, ?_, ?_⟩
    · rw [own]
      exact known
    · rw [shows_.contested (sample_contested _)]
      exact List.mem_cons_of_mem _ List.mem_cons_self
  · obtain ⟨view, viewed, own, known⟩ := sample_viewed .disputed .disputed []
    obtain ⟨claimStatus, shows_⟩ := viewAt_shows viewed
    rw [own] at shows_
    cases known.symm.trans shows_.known
    refine ⟨_, view, viewed, ?_, ?_, shows_.usable (sample_calm _) (sample_usable _ _), ?_⟩
    · rw [own]
      exact known
    · rw [own]
      exact sample_usable _ _
    · rw [own]
      exact sample_calm _

end RelationshipStore

end Hunter.EvidenceIntelligence
