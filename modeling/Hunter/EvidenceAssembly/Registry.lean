import Mathlib
import Hunter.MarketValidation.History

/-!
The registry of evidence shapes. A version is stored under its own identity with the hash of
its content, the first one as a root and every other one as the correction of a stored
version. A replay takes the version that is known by a cutoff and that no known version
corrects.
-/

namespace Hunter.EvidenceAssembly

open Calendar Fallible
open MarketValidation (Datetime blank sha256 member textMember readTime)

inductive Exn where
  | valueError (message : String)
  | registryError (message : String)
  | registryIntegrityError (message : String)
  /-- "registry version … already exists; use a correction instead" -/
  | versionExists (version : String)
  | builtin (exn : MarketValidation.Exn)
  deriving DecidableEq, Repr

abbrev Py : Type → Type := Except Exn

inductive AccountingMeaning where
  | periodSpecific | cumulative | event
  deriving DecidableEq, Repr

def AccountingMeaning.text : AccountingMeaning → String
  | .periodSpecific => "period_specific"
  | .cumulative => "cumulative"
  | .event => "event"

def AccountingMeaning.ofText (text : String) : Option AccountingMeaning :=
  [periodSpecific, cumulative, event].find? fun meaning => meaning.text = text

inductive CompositionOperation where
  | exactSum | none
  deriving DecidableEq, Repr

def CompositionOperation.text : CompositionOperation → String
  | .exactSum => "exact_sum"
  | .none => "none"

def CompositionOperation.ofText (text : String) : Option CompositionOperation :=
  [exactSum, none].find? fun operation => operation.text = text

inductive ConflictState where
  | none | resolved
  deriving DecidableEq, Repr

def ConflictState.text : ConflictState → String
  | .none => "none"
  | .resolved => "resolved"

def ConflictState.ofText (text : String) : Option ConflictState :=
  [none, resolved].find? fun state => state.text = text

structure EvidenceShape where
  shapeId : String
  registryVersion : String
  evidenceType : String
  accountingMeaning : AccountingMeaning
  cadence : String
  compositionOperation : CompositionOperation
  active : Bool
  texts : ∀ text ∈ [shapeId, registryVersion, evidenceType, cadence], blank text = false
  deriving DecidableEq

/-- A registry that is accepted, under the one logical identity and authority there is. -/
structure EvidenceShapeRegistry where
  recordId : String
  schemaVersion : String
  semanticVersion : String
  version : String
  shapes : List EvidenceShape
  effectiveAt : Moment
  recordedAt : Moment
  knownAt : Moment
  conflictState : ConflictState
  contentHash : String
  supersedesVersion : Option String
  supersedesRecordId : Option String
  correctionReason : String
  deriving DecidableEq

def registryLogicalId : String := "canonical-evidence-shape-registry"

def authorizingAdrReference : String := "ADR-0025"

def canonicalRegistryAuthorityId : String := "canonical-evidence-shape-registry-authority-v1"

/-- What a registry is constructed from. -/
structure Draft where
  recordId : String
  schemaVersion : String
  semanticVersion : String
  version : String
  shapes : List EvidenceShape
  effectiveAt : Datetime
  recordedAt : Datetime
  knownAt : Datetime
  conflictState : ConflictState
  contentHash : String
  supersedesVersion : Option String
  supersedesRecordId : Option String
  correctionReason : String
  deriving DecidableEq

def requiredText (fields : List (String × String)) : Py Unit :=
  match fields.find? fun field => blank field.2 with
  | some (name, _) => .error (.valueError (name ++ " must not be blank"))
  | none => .ok ()

def utc (name : String) : Datetime → Py Moment
  | .aware instant => .ok instant
  | .naive _ => .error (.valueError (name ++ " must be timezone-aware"))

/-- Whether a text is given and not empty. -/
def given (text : Option String) : Bool := text.any fun value => value ≠ ""

def validateCorrection (draft : Draft) : Py Unit := do
  require (given draft.supersedesVersion = given draft.supersedesRecordId)
    (.valueError "supersedes_version and supersedes_record_id must be provided together")
  require (given draft.supersedesVersion = !blank draft.correctionReason)
    (.valueError "supersedes fields and correction_reason must be provided together")

def Draft.construct (draft : Draft) : Py EvidenceShapeRegistry := do
  requiredText [("record_id", draft.recordId), ("schema_version", draft.schemaVersion),
    ("semantic_version", draft.semanticVersion), ("version", draft.version),
    ("content_hash", draft.contentHash)]
  require (draft.shapes ≠ []) (.registryError "registry must contain governed reference data")
  require (draft.shapes.map EvidenceShape.shapeId).Nodup
    (.registryError "shape IDs must be unique within a registry version")
  require (∀ shape ∈ draft.shapes, shape.registryVersion = draft.version)
    (.registryError "shape entry version does not match registry version")
  let effective ← utc "effective_at" draft.effectiveAt
  let recorded ← utc "recorded_at" draft.recordedAt
  let known ← utc "known_at" draft.knownAt
  require (effective ≤ recorded) (.valueError "effective_at must be <= recorded_at")
  require (recorded ≤ known) (.valueError "recorded_at must be <= known_at")
  validateCorrection draft
  return {
    recordId := draft.recordId
    schemaVersion := draft.schemaVersion
    semanticVersion := draft.semanticVersion
    version := draft.version
    shapes := draft.shapes
    effectiveAt := effective
    recordedAt := recorded
    knownAt := known
    conflictState := draft.conflictState
    contentHash := draft.contentHash
    supersedesVersion := draft.supersedesVersion
    supersedesRecordId := draft.supersedesRecordId
    correctionReason := draft.correctionReason }

def optionalText : Option String → Json
  | some text => .str text
  | none => .null

def shapeJson (shape : EvidenceShape) : Json :=
  .obj [("shape_id", .str shape.shapeId), ("registry_version", .str shape.registryVersion),
    ("evidence_type", .str shape.evidenceType), ("accounting_meaning", .str shape.accountingMeaning.text),
    ("cadence", .str shape.cadence), ("composition_operation", .str shape.compositionOperation.text),
    ("active", .bool shape.active)]

def contentFields (record : EvidenceShapeRegistry) : List (String × Json) :=
  [("logical_id", .str registryLogicalId), ("schema_version", .str record.schemaVersion),
    ("semantic_version", .str record.semanticVersion), ("version", .str record.version),
    ("shapes", .arr (record.shapes.map shapeJson)), ("effective_at", .str record.effectiveAt.isoformat),
    ("recorded_at", .str record.recordedAt.isoformat), ("known_at", .str record.knownAt.isoformat),
    ("quality_state", .str "accepted"), ("conflict_state", .str record.conflictState.text),
    ("authorizing_adr_reference", .str authorizingAdrReference),
    ("authorized_by", .str canonicalRegistryAuthorityId),
    ("supersedes_version", optionalText record.supersedesVersion),
    ("supersedes_record_id", optionalText record.supersedesRecordId),
    ("correction_reason", .str record.correctionReason)]

def payloadFields (record : EvidenceShapeRegistry) : List (String × Json) :=
  contentFields record ++ [("record_id", .str record.recordId), ("content_hash", .str record.contentHash)]

def registryContentHash (record : EvidenceShapeRegistry) : String :=
  sha256 (Json.asciiDumps (.obj (contentFields record)))

/-- The text that the record id is the digest of. -/
def identityText (version contentHash : String) : String :=
  registryLogicalId ++ ":" ++ version ++ ":" ++ contentHash

def normalizeRegistry (record : EvidenceShapeRegistry) : EvidenceShapeRegistry :=
  { record with
    contentHash := registryContentHash record
    recordId := sha256 (identityText record.version (registryContentHash record)) }

def targetId (version : String) : String := registryLogicalId ++ ":" ++ version

/-- The payload is held as it is read back, in the order of its keys. -/
structure SnapshotRecord where
  id : String
  createdAt : Moment
  effectiveAt : Moment
  recordIds : List String
  payload : Json
  metadata : List (String × String)
  deriving DecidableEq

def registrySnapshot (record : EvidenceShapeRegistry) : SnapshotRecord where
  id := targetId record.version
  createdAt := record.recordedAt
  effectiveAt := record.effectiveAt
  recordIds := [record.recordId]
  payload := Json.canon (.obj (payloadFields record))
  metadata := [("authority_class", "production-authoritative"), ("domain", "evidence-shape-registry"),
    ("logical_id", registryLogicalId), ("version", record.version),
    ("known_at", record.knownAt.isoformat)]

def readMeaning (data : Json) : MarketValidation.Py AccountingMeaning := do
  match AccountingMeaning.ofText (← textMember data "accounting_meaning") with
  | some meaning => .ok meaning
  | none => .error (.valueError "unknown accounting meaning")

def readOperation (data : Json) : MarketValidation.Py CompositionOperation := do
  match CompositionOperation.ofText (← textMember data "composition_operation") with
  | some operation => .ok operation
  | none => .error (.valueError "unknown composition operation")

def readConflictState (data : Json) : MarketValidation.Py ConflictState := do
  match ConflictState.ofText (← textMember data "conflict_state") with
  | some state => .ok state
  | none => .error (.valueError "registry snapshot is not authoritative")

def boolMember (data : Json) (name : String) : MarketValidation.Py Bool := do
  match ← member data name with
  | .bool value => .ok value
  | _ => .error .typeError

def optionalMember (data : Json) (name : String) : MarketValidation.Py (Option String) :=
  match data.get? name with
  | none | some .null => .ok none
  | some (.str text) => .ok (some text)
  | some _ => .error .typeError

/-- `EvidenceShape(**data)`. -/
def readShape (data : Json) : MarketValidation.Py EvidenceShape := do
  let shapeId ← textMember data "shape_id"
  let registryVersion ← textMember data "registry_version"
  let evidenceType ← textMember data "evidence_type"
  let accountingMeaning ← readMeaning data
  let cadence ← textMember data "cadence"
  let compositionOperation ← readOperation data
  let active ← boolMember data "active"
  if texts : ∀ text ∈ [shapeId, registryVersion, evidenceType, cadence], blank text = false then
    .ok ⟨shapeId, registryVersion, evidenceType, accountingMeaning, cadence, compositionOperation, active,
      texts⟩
  else .error (.valueError "is required")

def readShapes (data : Json) : MarketValidation.Py (List EvidenceShape) := do
  match ← member data "shapes" with
  | .arr items => items.mapM readShape
  | _ => .error (.valueError "shapes must be an iterable sequence")

def timeMember (data : Json) (name : String) : MarketValidation.Py Datetime := do
  readTime (← textMember data name)

def constantMember (data : Json) (name value : String) : MarketValidation.Py Unit := do
  require ((← textMember data name) = value) (.valueError (name ++ " must equal " ++ value))

/-- The arguments that a payload gives, where a field of another name is refused. -/
def readDraft (data : Json) : MarketValidation.Py Draft := do
  let recordId ← textMember data "record_id"
  constantMember data "logical_id" registryLogicalId
  let schemaVersion ← textMember data "schema_version"
  let semanticVersion ← textMember data "semantic_version"
  let version ← textMember data "version"
  let shapes ← readShapes data
  let effectiveAt ← timeMember data "effective_at"
  let recordedAt ← timeMember data "recorded_at"
  let knownAt ← timeMember data "known_at"
  constantMember data "quality_state" "accepted"
  let conflictState ← readConflictState data
  constantMember data "authorizing_adr_reference" authorizingAdrReference
  constantMember data "authorized_by" canonicalRegistryAuthorityId
  let contentHash ← textMember data "content_hash"
  let supersedesVersion ← optionalMember data "supersedes_version"
  let supersedesRecordId ← optionalMember data "supersedes_record_id"
  let correctionReason ← optionalMember data "correction_reason"
  return {
    recordId := recordId
    schemaVersion := schemaVersion
    semanticVersion := semanticVersion
    version := version
    shapes := shapes
    effectiveAt := effectiveAt
    recordedAt := recordedAt
    knownAt := knownAt
    conflictState := conflictState
    contentHash := contentHash
    supersedesVersion := supersedesVersion
    supersedesRecordId := supersedesRecordId
    correctionReason := correctionReason.getD "" }

def fieldNames : List String :=
  ["record_id", "logical_id", "schema_version", "semantic_version", "version", "shapes", "effective_at",
    "recorded_at", "known_at", "quality_state", "conflict_state", "authorizing_adr_reference",
    "authorized_by", "content_hash", "supersedes_version", "supersedes_record_id", "correction_reason"]

def closed : Json → Bool
  | .obj fields => fields.all fun field => field.1 ∈ fieldNames
  | _ => false

def malformed {α ε : Type} : Except ε α → Py α
  | .ok value => .ok value
  | .error _ => .error (.registryIntegrityError "malformed evidence shape registry payload")

def fromPayload (data : Json) : Py EvidenceShapeRegistry := do
  require (closed data) (.registryIntegrityError "malformed evidence shape registry payload")
  let draft ← malformed (readDraft data)
  let record ← malformed draft.construct
  require (record.contentHash = registryContentHash record)
    (.registryIntegrityError "persisted registry content hash mismatch")
  require (record.recordId = sha256 (identityText record.version (registryContentHash record)))
    (.registryIntegrityError "persisted registry record_id mismatch")
  return record

/-- The stored registry snapshots. None is ever deleted. -/
abbrev Snapshots : Type := List SnapshotRecord

namespace Snapshots

def load (stored : Snapshots) (id : String) : Option SnapshotRecord :=
  stored.find? fun item => item.id = id

/-- The hash of a snapshot covers all of it, and is compared as the snapshot. -/
def save (stored : Snapshots) (snapshot : SnapshotRecord) : Py Snapshots :=
  match stored.load snapshot.id with
  | some existing =>
      if existing = snapshot then .ok stored
      else .error (.registryIntegrityError ("Record identity conflict: " ++ snapshot.id))
  | none => .ok (stored ++ [snapshot])

def loadPredecessor (stored : Snapshots) (version : String) : Py SnapshotRecord :=
  match stored.load (targetId version) with
  | some prior => .ok prior
  | none => .error (.registryIntegrityError "correction predecessor does not exist")

/-- `datetime.fromisoformat(str(payload[name]))`, to be compared with an aware time. -/
def priorTime (prior : SnapshotRecord) (name : String) : Py Moment :=
  match timeMember prior.payload name with
  | .ok (.aware instant) => .ok instant
  | .ok (.naive _) => .error (.builtin .typeError)
  | .error exn => .error (.builtin exn)

def authorizeRegistryCorrection (stored : Snapshots) (record : EvidenceShapeRegistry) : Py Unit :=
  match record.supersedesVersion, record.supersedesRecordId with
  | none, none => do
      require (∀ item ∈ stored, item.payload.get? "logical_id" = some (.str registryLogicalId) →
          item.id = targetId record.version)
        (.registryIntegrityError ("a root registry record already exists for logical_id " ++
          "'canonical-evidence-shape-registry'; use a correction (supersedes_version and " ++
          "supersedes_record_id) instead of a second independent root"))
      require (stored.load (targetId record.version) = none) (.versionExists record.version)
  | some predecessorVersion, some predecessorId => do
      let prior ← stored.loadPredecessor predecessorVersion
      require (prior.payload.get? "record_id" = some (.str predecessorId))
        (.registryIntegrityError "correction predecessor record_id mismatch")
      require (prior.payload.get? "logical_id" = some (.str registryLogicalId))
        (.registryIntegrityError "correction must preserve logical_id")
      let recorded ← priorTime prior "recorded_at"
      require (recorded < record.recordedAt)
        (.registryIntegrityError "correction recorded_at must follow predecessor")
      let known ← priorTime prior "known_at"
      require (known < record.knownAt)
        (.registryIntegrityError "correction known_at must follow predecessor")
      require (∀ item ∈ stored,
          item.payload.get? "supersedes_version" = some (.str predecessorVersion) →
            item.id = targetId record.version)
        (.registryIntegrityError "branching correction lineage is prohibited")
  | _, _ => .error (.registryIntegrityError
      "supersedes_version and supersedes_record_id must be provided together")

end Snapshots

/-- A call of `persist_registry`. -/
structure Request where
  version : String
  shapes : List EvidenceShape
  effectiveAt : Datetime
  recordedAt : Datetime
  knownAt : Datetime
  conflictState : ConflictState
  supersedesVersion : Option String
  supersedesRecordId : Option String
  correctionReason : String
  deriving DecidableEq

def Request.draft (request : Request) : Draft where
  recordId := "pending"
  schemaVersion := "evidence-shape-registry-v1"
  semanticVersion := "1.0.0"
  version := request.version
  shapes := request.shapes
  effectiveAt := request.effectiveAt
  recordedAt := request.recordedAt
  knownAt := request.knownAt
  conflictState := request.conflictState
  contentHash := "pending"
  supersedesVersion := request.supersedesVersion
  supersedesRecordId := request.supersedesRecordId
  correctionReason := request.correctionReason

def persistRegistry (stored : Snapshots) (request : Request) : Py (EvidenceShapeRegistry × Snapshots) := do
  let record := normalizeRegistry (← request.draft.construct)
  stored.authorizeRegistryCorrection record
  let after ← stored.save (registrySnapshot record)
  return (record, after)

/-- A call that raises is rolled back. -/
def Persists (stored : Snapshots) (request : Request) (after : Snapshots) : Prop :=
  committed stored (persistRegistry stored request) = after

def EvidenceShapeRegistry.place (record : EvidenceShapeRegistry) :
    Moment ×ₗ Moment ×ₗ Moment ×ₗ String :=
  toLex (record.effectiveAt, toLex (record.recordedAt, toLex (record.knownAt, record.recordId)))

/-- The records that can be decoded. The others are skipped. -/
def records (stored : Snapshots) : List EvidenceShapeRegistry :=
  (stored.filterMap fun snapshot => (fromPayload snapshot.payload).toOption).mergeSort
    fun a b => a.place ≤ b.place

def EvidenceShapeRegistry.knownBy (record : EvidenceShapeRegistry) (cutoff : Moment) : Bool :=
  record.effectiveAt ≤ cutoff && record.recordedAt ≤ cutoff && record.knownAt ≤ cutoff

/-- The order the current versions are sorted in. All of them are of one version. -/
def latest (found : List EvidenceShapeRegistry) : Option EvidenceShapeRegistry :=
  (found.mergeSort fun a b => b.place ≤ a.place).head?

def strictKnownRegistry (stored : Snapshots) (version : String) (knownBy : Datetime) :
    Py (Option EvidenceShapeRegistry) := do
  let cutoff ← (match knownBy with
    | .aware instant => .ok instant
    | .naive _ => .error (.valueError "datetime must be timezone-aware") : Py Moment)
  let eligibleAll := (records stored).filter fun record => record.knownBy cutoff
  let eligible := eligibleAll.filter fun record => record.version = version
  let supersededVersions := eligibleAll.filterMap EvidenceShapeRegistry.supersedesVersion
  let supersededRecords := eligibleAll.filterMap EvidenceShapeRegistry.supersedesRecordId
  let current := eligible.filter fun record =>
    record.version ∉ supersededVersions ∧ record.recordId ∉ supersededRecords
  return latest current

end Hunter.EvidenceAssembly
