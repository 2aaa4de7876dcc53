import Mathlib
import Hunter.Data.Dict
import Hunter.Data.Fallible
import Hunter.Data.Projection
import Hunter.Execution.Canonical
import Hunter.Text.Words

/-!
Knowledge claims and the conflicts between them. Each has a row with its current status
and a history of lifecycle events; persisting writes the row, the first event and the
links to the evidence in one transaction, and a later event updates the row. Every write
is an upsert under an identity that digests some of the fields.
-/

namespace Hunter.EvidenceIntelligence

open Calendar Execution Fallible Projection

inductive Exn where
  | valueError (message : String)
  | indexError
  | integrityError (table : String)
  deriving DecidableEq, Repr

abbrev Py : Type → Type := Except Exn

def blank (text : String) : Bool := (Chars.strip text.scalars).isEmpty

def text (name value : String) : Py Unit :=
  require (blank value = false) (.valueError (name ++ " is required"))

def optionalText (name : String) : Option String → Py Unit
  | some value => text name value
  | none => .ok ()

inductive ClaimStatus where
  | active | superseded | retracted | sourceRemoved | historicalOnly | disputed | unavailable | rejected
  deriving DecidableEq, Repr

inductive ClaimLifecycleEventType where
  | accepted | superseded | retracted | disputed | sourceRemoved | historicalOnly | unavailable | rejected
  deriving DecidableEq, Repr

inductive ConflictStatus where
  | detected | disputed | resolved | historicalOnly | rejected
  deriving DecidableEq, Repr

abbrev ConflictLifecycleEventType : Type := ConflictStatus

structure LifecycleEvent (κ σ : Type) where
  eventId : String
  ownerId : String
  eventType : κ
  effectiveAt : Moment
  recordedAt : Moment
  sourceEvidenceId : String
  reason : String
  previousStatus : Option σ
  newStatus : σ
  processingRunId : String
  schemaVersion : String

variable {κ σ : Type}

/-- The first of the required texts that is blank. -/
def LifecycleEvent.missing (event : LifecycleEvent κ σ) (ownerName : String) : Option String :=
  ([("event_id", event.eventId), (ownerName, event.ownerId),
    ("source_evidence_id", event.sourceEvidenceId), ("reason", event.reason),
    ("processing_run_id", event.processingRunId), ("schema_version", event.schemaVersion)].find?
      fun (_, value) => blank value).map Prod.fst

abbrev ClaimLifecycleEvent : Type :=
  { event : LifecycleEvent ClaimLifecycleEventType ClaimStatus // event.missing "claim_id" = none }

abbrev ConflictLifecycleEvent : Type :=
  { event : LifecycleEvent ConflictLifecycleEventType ConflictStatus // event.missing "conflict_id" = none }

/-- The constructor of an event. -/
def lifecycleEvent (ownerName : String) (event : LifecycleEvent κ σ) :
    Py { event : LifecycleEvent κ σ // event.missing ownerName = none } :=
  match missing : event.missing ownerName with
  | none => .ok ⟨event, missing⟩
  | some name => .error (.valueError (name ++ " is required"))

theorem lifecycleEvent_ok {ownerName : String} {event : LifecycleEvent κ σ}
    {made : { event : LifecycleEvent κ σ // event.missing ownerName = none }}
    (h : lifecycleEvent ownerName event = .ok made) : made.val = event := by
  unfold lifecycleEvent at h
  split at h
  · cases h
    rfl
  · cases h

/-- The columns that the queries of a history read. Times are compared as texts. -/
def lifecycle : Fields (LifecycleEvent κ σ) String String String σ where
  id := LifecycleEvent.eventId
  owner := LifecycleEvent.ownerId
  effectiveAt event := event.effectiveAt.isoformat
  recordedAt event := event.recordedAt.isoformat
  status := LifecycleEvent.newStatus

/-- A row that links an owner to a target; role and schema version are those of its table. -/
structure Link where
  linkId : String
  ownerId : String
  targetId : String
  position : Nat
  deriving DecidableEq

def link (targetName : String) (row : Link) : Py Link := do
  text targetName row.targetId
  return row

/-- An upsert by the link id; the owner and the target are unique together. -/
def upsertLink (table : String) (rows : List Link) (row : Link) : Py (List Link) := do
  let others := rows.filter fun other => other.linkId ≠ row.linkId
  require (∀ other ∈ others, ¬(other.ownerId = row.ownerId ∧ other.targetId = row.targetId))
    (.integrityError table)
  return others ++ [row]

def upsertLinks (table : String) (rows links : List Link) : Py (List Link) :=
  links.foldlM (upsertLink table) rows

structure KnowledgeClaim where
  claimId : String
  subjectEntityId : String
  predicateId : String
  scope : String
  status : ClaimStatus
  supersededAt : Option Moment
  retractedAt : Option Moment

structure KnowledgeConflict where
  conflictId : String
  predicateId : String
  subjectEntityId : String
  scope : String
  detectedAt : Moment
  effectiveAt : Moment
  resolvedAt : Option Moment
  status : ConflictStatus
  reason : String

structure Repository where
  claims : Dict String KnowledgeClaim
  claimEvents : List (LifecycleEvent ClaimLifecycleEventType ClaimStatus)
  claimSourceLinks : List Link
  claimSpanLinks : List Link
  conflicts : Dict String KnowledgeConflict
  conflictEvents : List (LifecycleEvent ConflictLifecycleEventType ConflictStatus)
  conflictClaimLinks : List Link
  conflictSourceLinks : List Link
  conflictSpanLinks : List Link
  claimConflictLinks : List Link
  spans : List String

namespace Repository

def empty : Repository := ⟨Dict.empty, [], [], [], Dict.empty, [], [], [], [], [], []⟩

def saveClaimWithLifecycle (r : Repository) (claim : KnowledgeClaim) (event : ClaimLifecycleEvent)
    (sourceLinks spanLinks : List Link) : Py Repository := do
  let sourceRows ← upsertLinks "claim_source_evidence_links" r.claimSourceLinks sourceLinks
  let spanRows ← upsertLinks "claim_evidence_span_links" r.claimSpanLinks spanLinks
  return { r with
    claims := r.claims.set claim.claimId claim
    claimEvents := lifecycle.put event.val r.claimEvents
    claimSourceLinks := sourceRows
    claimSpanLinks := spanRows }

/-- The event and the columns it updates. An event of a claim that is not there is refused. -/
def appendClaimLifecycleEvent (r : Repository) (event : ClaimLifecycleEvent) : Py Repository :=
  match r.claims.get? event.val.ownerId with
  | none => .error (.integrityError "claim_lifecycle_events")
  | some claim =>
      let status := event.val.newStatus
      .ok { r with
        claimEvents := lifecycle.put event.val r.claimEvents
        claims := r.claims.set event.val.ownerId { claim with
          status := status
          supersededAt := if status = .superseded then some event.val.effectiveAt else claim.supersededAt
          retractedAt := if status = .retracted then some event.val.effectiveAt else claim.retractedAt } }

def saveConflictWithLifecycle (r : Repository) (conflict : KnowledgeConflict)
    (event : ConflictLifecycleEvent) (claimLinks sourceLinks spanLinks claimConflictLinks : List Link) :
    Py Repository := do
  let claimRows ← upsertLinks "conflict_claim_links" r.conflictClaimLinks claimLinks
  let sourceRows ← upsertLinks "conflict_source_evidence_links" r.conflictSourceLinks sourceLinks
  let spanRows ← upsertLinks "conflict_evidence_span_links" r.conflictSpanLinks spanLinks
  let claimConflictRows ← upsertLinks "claim_conflict_links" r.claimConflictLinks claimConflictLinks
  return { r with
    conflicts := r.conflicts.set conflict.conflictId conflict
    conflictEvents := lifecycle.put event.val r.conflictEvents
    conflictClaimLinks := claimRows
    conflictSourceLinks := sourceRows
    conflictSpanLinks := spanRows
    claimConflictLinks := claimConflictRows }

def appendConflictLifecycleEvent (r : Repository) (event : ConflictLifecycleEvent) : Py Repository :=
  match r.conflicts.get? event.val.ownerId with
  | none => .error (.integrityError "conflict_lifecycle_events")
  | some conflict =>
      let status := event.val.newStatus
      .ok { r with
        conflictEvents := lifecycle.put event.val r.conflictEvents
        conflicts := r.conflicts.set event.val.ownerId { conflict with
          status := status
          resolvedAt := if status = .resolved then some event.val.effectiveAt else conflict.resolvedAt } }

/-- `claim_status_at`; strict replay also asks that the event was recorded by the cutoff. -/
def claimStatusAt (r : Repository) (claimId : String) (cutoff : Moment) (strictKnownByHunter : Bool) :
    Option ClaimStatus :=
  if strictKnownByHunter then lifecycle.statusKnownBy claimId cutoff.isoformat r.claimEvents
  else (lifecycle.latest (r.claimEvents.filter fun event =>
    event.ownerId = claimId ∧ event.effectiveAt.isoformat ≤ cutoff.isoformat)).map LifecycleEvent.newStatus

/-- The targets of the links of a claim, by position. -/
def targets (links : List Link) (ownerId : String) : List String :=
  ((links.filter fun link => link.ownerId = ownerId).mergeSort fun a b => a.position ≤ b.position).map
    Link.targetId

end Repository

inductive Literal where
  | str (value : String)
  | int (value : Int)
  | bool (value : Bool)
  | decimal (value : String)
  deriving DecidableEq

def Literal.normalize : Literal → Json
  | .str value => .str value
  | .int value => Canonical.int value
  | .bool value => .bool value
  | .decimal value => Canonical.tagged "decimal" [("value", .str value)]

structure ValidatedClaimProposal where
  predicateId : String
  objectType : Option String
  literalValue : Option Literal
  literalValueType : Option String
  polarity : String
  modality : String

structure ClaimPersistenceInput where
  proposal : ValidatedClaimProposal
  subjectEntityId : String
  objectEntityId : Option String
  predicateSchemaVersion : String
  sourceEvidenceIds : List String
  spanIds : List String
  effectiveAt : Moment
  recordedAt : Moment
  processingRunId : String
  validFrom : Option Moment
  validTo : Option Moment
  scope : String
  required : blank subjectEntityId = false ∧ blank predicateSchemaVersion = false ∧
    blank processingRunId = false
  object : proposal.objectType ≠ none → objectEntityId ≠ none
  sources : sourceEvidenceIds ≠ []
  spans : spanIds ≠ []

def optional {α : Type} (normalize : α → Json) : Option α → Json
  | some value => normalize value
  | none => .null

/-- `tuple(sorted(...))` of texts. -/
def sortedTexts (texts : List String) : Json :=
  Canonical.sequence ((texts.mergeSort fun a b => a ≤ b).map .str)

def claimId (item : ClaimPersistenceInput) : String :=
  identity "evidence-knowledge-claim" (Canonical.mapping [
    ("subject_entity_id", .str item.subjectEntityId),
    ("predicate_id", .str item.proposal.predicateId),
    ("predicate_schema_version", .str item.predicateSchemaVersion),
    ("object_entity_id", optional .str item.objectEntityId),
    ("literal_value", optional Literal.normalize item.proposal.literalValue),
    ("literal_value_type", optional .str item.proposal.literalValueType),
    ("scope", .str item.scope),
    ("polarity", .str item.proposal.polarity),
    ("modality", .str item.proposal.modality),
    ("valid_from", optional Canonical.datetime item.validFrom),
    ("valid_to", optional Canonical.datetime item.validTo),
    ("source_evidence_ids", sortedTexts item.sourceEvidenceIds.eraseDups),
    ("span_ids", sortedTexts item.spanIds)])

def ClaimPersistenceInput.source (item : ClaimPersistenceInput) : String :=
  item.sourceEvidenceIds.head item.sources

def acceptedEventId (item : ClaimPersistenceInput) : String :=
  identity "evidence-claim-lifecycle-event" (Canonical.mapping [
    ("claim_id", .str (claimId item)), ("event_type", .str "accepted"),
    ("effective_at", Canonical.datetime item.effectiveAt), ("source_evidence_id", .str item.source)])

/-- The first event of a claim. -/
def acceptedEvent (item : ClaimPersistenceInput) : LifecycleEvent ClaimLifecycleEventType ClaimStatus where
  eventId := acceptedEventId item
  ownerId := claimId item
  eventType := .accepted
  effectiveAt := item.effectiveAt
  recordedAt := item.recordedAt
  sourceEvidenceId := item.source
  reason := "validated extraction persisted as canonical knowledge claim"
  previousStatus := none
  newStatus := .active
  processingRunId := item.processingRunId
  schemaVersion := "claim-lifecycle-event-v1"

def literalValueTypes : List String := [
  "string", "integer", "decimal", "boolean", "date", "datetime", "url", "address", "repository",
  "enum", "unavailable"]

def polarities : List String := ["positive", "negative", "unknown"]

def modalities : List String :=
  ["asserted", "planned", "conditional", "historical", "deprecated", "unavailable"]

/-- `_member`. -/
def member (name value : String) (allowed : List String) : Py Unit :=
  require (value ∈ allowed)
    (.valueError (name ++ " must be one of: " ++ ", ".intercalate (allowed.mergeSort fun a b => a ≤ b)))

def optionalMember (name : String) (value : Option String) (allowed : List String) : Py Unit :=
  match value with
  | some value => member name value allowed
  | none => .ok ()

/-- The constructor of a claim, as far as it may refuse what a proposal gives. -/
def knowledgeClaim (item : ClaimPersistenceInput) : Py KnowledgeClaim := do
  require (item.scope = "" ∨ blank item.scope = false) (.valueError "scope must not be blank")
  text "predicate_id" item.proposal.predicateId
  require (item.objectEntityId ≠ none ∨ item.proposal.literalValue ≠ none)
    (.valueError "claim requires object_entity_id or literal_value")
  optionalText "object_entity_id" item.objectEntityId
  require (item.proposal.literalValue ≠ none → item.proposal.literalValueType ≠ none)
    (.valueError "literal claims require literal_value_type")
  optionalMember "literal_value_type" item.proposal.literalValueType literalValueTypes
  member "polarity" item.proposal.polarity polarities
  member "modality" item.proposal.modality modalities
  return ⟨claimId item, item.subjectEntityId, item.proposal.predicateId, item.scope, .active, none, none⟩

/-- The links of an owner to its targets, in order. -/
def linksTo (kind ownerName targetName ownerId : String) (targets : List String) : Py (List Link) :=
  targets.zipIdx.mapM fun (target, position) =>
    link targetName ⟨identity kind (Canonical.mapping [(ownerName, .str ownerId),
      (targetName, .str target), ("position", Canonical.int position)]), ownerId, target, position⟩

namespace ClaimPersistenceService

def persist (r : Repository) (item : ClaimPersistenceInput) : Py Repository := do
  let claim ← knowledgeClaim item
  let event ← lifecycleEvent "claim_id" (acceptedEvent item)
  let sourceLinks ← linksTo "evidence-claim-source-link" "claim_id" "source_evidence_id" claim.claimId
    item.sourceEvidenceIds
  let spanLinks ← linksTo "evidence-claim-span-link" "claim_id" "span_id" claim.claimId item.spanIds
  r.saveClaimWithLifecycle claim event sourceLinks spanLinks

def appendLifecycleEvent (r : Repository) (event : ClaimLifecycleEvent) : Py Repository :=
  r.appendClaimLifecycleEvent event

end ClaimPersistenceService

structure ConflictCandidate where
  left : KnowledgeClaim
  right : KnowledgeClaim
  reason : String

/-- The claims of a candidate by their ids. -/
def ConflictCandidate.sorted (candidate : ConflictCandidate) : KnowledgeClaim × KnowledgeClaim :=
  if candidate.left.claimId ≤ candidate.right.claimId then (candidate.left, candidate.right)
  else (candidate.right, candidate.left)

def conflictId (candidate : ConflictCandidate) : String :=
  let (first, second) := candidate.sorted
  identity "evidence-knowledge-conflict" (Canonical.mapping [
    ("claim_ids", Canonical.sequence [.str first.claimId, .str second.claimId]),
    ("predicate_id", .str first.predicateId),
    ("subject_entity_id", .str first.subjectEntityId),
    ("scope", .str first.scope),
    ("reason", .str candidate.reason)])

def detectedEventId (candidate : ConflictCandidate) (effectiveAt : Moment) : String :=
  identity "evidence-conflict-lifecycle-event" (Canonical.mapping [
    ("conflict_id", .str (conflictId candidate)), ("event_type", .str "detected"),
    ("effective_at", Canonical.datetime effectiveAt)])

/-- The first event of a conflict. -/
def detectedEvent (candidate : ConflictCandidate) (effectiveAt recordedAt : Moment)
    (source processingRunId : String) : LifecycleEvent ConflictLifecycleEventType ConflictStatus where
  eventId := detectedEventId candidate effectiveAt
  ownerId := conflictId candidate
  eventType := .detected
  effectiveAt := effectiveAt
  recordedAt := recordedAt
  sourceEvidenceId := source
  reason := candidate.reason
  previousStatus := none
  newStatus := .detected
  processingRunId := processingRunId
  schemaVersion := "conflict-lifecycle-event-v1"

def knowledgeConflict (candidate : ConflictCandidate) (effectiveAt recordedAt : Moment) :
    Py KnowledgeConflict := do
  let (first, _) := candidate.sorted
  text "predicate_id" first.predicateId
  text "subject_entity_id" first.subjectEntityId
  text "reason" candidate.reason
  require (first.scope = "" ∨ blank first.scope = false) (.valueError "scope must not be blank")
  return ⟨conflictId candidate, first.predicateId, first.subjectEntityId, first.scope, recordedAt,
    effectiveAt, none, .detected, candidate.reason⟩

namespace ConflictPersistenceService

/-- The source evidence and the spans of the claims, each once. -/
def lineageIds (r : Repository) (claims : List KnowledgeClaim) : List String × List String :=
  ((claims.flatMap fun claim => Repository.targets r.claimSourceLinks claim.claimId).eraseDups,
    (claims.flatMap fun claim =>
      (Repository.targets r.claimSpanLinks claim.claimId).filter fun span => span ∈ r.spans).eraseDups)

/-- The first item of a tuple. -/
def first_ : List String → Py String
  | source :: _ => .ok source
  | [] => .error .indexError

def persist (r : Repository) (candidate : ConflictCandidate) (effectiveAt recordedAt : Moment)
    (processingRunId : String) : Py Repository := do
  let (first, second) := candidate.sorted
  let (sources, spans) := lineageIds r [first, second]
  let conflict ← knowledgeConflict candidate effectiveAt recordedAt
  let source ← first_ sources
  let event ← lifecycleEvent "conflict_id"
    (detectedEvent candidate effectiveAt recordedAt source processingRunId)
  let claimLinks ← linksTo "evidence-conflict-claim-link" "conflict_id" "claim_id" conflict.conflictId
    [first.claimId, second.claimId]
  let sourceLinks ← linksTo "evidence-conflict-source-link" "conflict_id" "source_evidence_id"
    conflict.conflictId sources
  let spanLinks ← linksTo "evidence-conflict-span-link" "conflict_id" "span_id" conflict.conflictId spans
  let claimConflictLinks := [first.claimId, second.claimId].map fun claim =>
    (⟨identity "evidence-claim-conflict-link" (Canonical.mapping [("claim_id", .str claim),
      ("conflict_id", .str conflict.conflictId)]), claim, conflict.conflictId, 0⟩ : Link)
  r.saveConflictWithLifecycle conflict event claimLinks sourceLinks spanLinks claimConflictLinks

def appendLifecycleEvent (r : Repository) (event : ConflictLifecycleEvent) : Py Repository :=
  r.appendConflictLifecycleEvent event

end ConflictPersistenceService

inductive Operation where
  | persistClaim (item : ClaimPersistenceInput)
  | appendClaimEvent (event : ClaimLifecycleEvent)
  | persistConflict (candidate : ConflictCandidate) (effectiveAt recordedAt : Moment)
      (processingRunId : String)
  | appendConflictEvent (event : ConflictLifecycleEvent)
  | saveSpan (spanId : String)

def attempt (r : Repository) : Operation → Py Repository
  | .persistClaim item => ClaimPersistenceService.persist r item
  | .appendClaimEvent event => ClaimPersistenceService.appendLifecycleEvent r event
  | .persistConflict candidate effectiveAt recordedAt processingRunId =>
      ConflictPersistenceService.persist r candidate effectiveAt recordedAt processingRunId
  | .appendConflictEvent event => ConflictPersistenceService.appendLifecycleEvent r event
  | .saveSpan spanId => .ok { r with spans := spanId :: r.spans }

/-- An operation that raises is rolled back. -/
def perform (r : Repository) (operation : Operation) : Repository :=
  match attempt r operation with
  | .ok after => after
  | .error _ => r

end Hunter.EvidenceIntelligence
