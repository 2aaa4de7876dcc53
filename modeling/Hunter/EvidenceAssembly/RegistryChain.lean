import Hunter.Data.Supersession
import Hunter.EvidenceAssembly.Registry
import Hunter.Machine.Run
import Hunter.MarketValidation.Replay

/-!
The stored registries form one line of corrections whose times rise, and each of them is
decoded to what was stored. The version that is in force at a cutoff is the last one of the
line that is known there.
-/

namespace Hunter.EvidenceAssembly

open Calendar Fallible Supersession
open Lineage (Linked)
open MarketValidation (blank sha256 member textMember readTime textMember_canon readTime_isoformat
  sha256_length blank_sha256)

variable {stored after : Snapshots} {record : EvidenceShapeRegistry}

/-- The arguments a registry is constructed from again. -/
def EvidenceShapeRegistry.draft (record : EvidenceShapeRegistry) : Draft where
  recordId := record.recordId
  schemaVersion := record.schemaVersion
  semanticVersion := record.semanticVersion
  version := record.version
  shapes := record.shapes
  effectiveAt := .aware record.effectiveAt
  recordedAt := .aware record.recordedAt
  knownAt := .aware record.knownAt
  conflictState := record.conflictState
  contentHash := record.contentHash
  supersedesVersion := record.supersedesVersion
  supersedesRecordId := record.supersedesRecordId
  correctionReason := record.correctionReason

structure WellFormed (record : EvidenceShapeRegistry) : Prop where
  texts : ∀ text ∈ [record.recordId, record.schemaVersion, record.semanticVersion, record.version,
    record.contentHash], blank text = false
  shapes : record.shapes ≠ []
  unique : (record.shapes.map EvidenceShape.shapeId).Nodup
  versions : ∀ shape ∈ record.shapes, shape.registryVersion = record.version
  effective : record.effectiveAt ≤ record.recordedAt
  recorded : record.recordedAt ≤ record.knownAt
  paired : given record.supersedesVersion = given record.supersedesRecordId
  reasoned : given record.supersedesVersion = !blank record.correctionReason

theorem requiredText_ok {fields : List (String × String)} :
    requiredText fields = .ok () ↔ ∀ field ∈ fields, blank field.2 = false := by
  unfold requiredText
  split
  · rename_i name value found
    refine iff_of_false (by simp) ?_
    intro filled
    have empty := List.find?_some found
    rw [filled _ (List.mem_of_find?_eq_some found)] at empty
    cases empty
  · rename_i none
    refine iff_of_true rfl ?_
    intro field member
    exact Bool.eq_false_iff.mpr (List.find?_eq_none.mp none field member)

theorem utc_ok {name : String} {time : MarketValidation.Datetime} {instant : Moment} :
    utc name time = .ok instant ↔ time = .aware instant := by
  cases time <;> simp [utc]

theorem construct_ok {draft : Draft} :
    draft.construct = .ok record ↔ draft = record.draft ∧ WellFormed record := by
  simp only [Draft.construct, validateCorrection, bind_ok, exists_unit, requiredText_ok, require_ok,
    utc_ok, pure_eq_ok, Except.ok.injEq]
  constructor
  · rintro ⟨texts, shapes, unique, versions, effective, effectiveIs, recorded, recordedIs, known,
      knownIs, first, second, ⟨paired, reasoned⟩, rfl⟩
    refine ⟨?_, ⟨?_, shapes, unique, versions, first, second, paired, reasoned⟩⟩
    · cases draft
      simp only at effectiveIs recordedIs knownIs
      subst effectiveIs recordedIs knownIs
      rfl
    · simpa using texts
  · rintro ⟨rfl, formed⟩
    refine ⟨?_, formed.shapes, formed.unique, formed.versions, record.effectiveAt, rfl,
      record.recordedAt, rfl, record.knownAt, rfl, formed.effective, formed.recorded,
      ⟨formed.paired, formed.reasoned⟩, rfl⟩
    simpa [EvidenceShapeRegistry.draft] using formed.texts

theorem normalizeRegistry_wellFormed (formed : WellFormed record) :
    WellFormed (normalizeRegistry record) where
  texts := by
    have texts := formed.texts
    simp only [List.mem_cons, List.not_mem_nil, or_false, forall_eq_or_imp, forall_eq] at texts ⊢
    exact ⟨blank_sha256 _, texts.2.1, texts.2.2.1, texts.2.2.2.1, blank_sha256 _⟩
  shapes := formed.shapes
  unique := formed.unique
  versions := formed.versions
  effective := formed.effective
  recorded := formed.recorded
  paired := formed.paired
  reasoned := formed.reasoned

theorem member_canon {fields : List (String × Json)} {name : String} (value : Json)
    (found : Json.lookup name fields = some value) :
    member (Json.canon (.obj fields)) name = .ok value.canon := by
  rw [member, Json.get?_canon, Json.get?, found]
  rfl

theorem readShape_canon (shape : EvidenceShape) : readShape (shapeJson shape).canon = .ok shape := by
  have meaning : readMeaning (shapeJson shape).canon = .ok shape.accountingMeaning := by
    rw [readMeaning, shapeJson, textMember_canon shape.accountingMeaning.text rfl, ok_bind]
    cases shape.accountingMeaning <;> rfl
  have operation : readOperation (shapeJson shape).canon = .ok shape.compositionOperation := by
    rw [readOperation, shapeJson, textMember_canon shape.compositionOperation.text rfl, ok_bind]
    cases shape.compositionOperation <;> rfl
  have active : boolMember (shapeJson shape).canon "active" = .ok shape.active := by
    rw [boolMember, shapeJson, member_canon (.bool shape.active) rfl, ok_bind]
    rfl
  rw [readShape, meaning, operation, active, shapeJson, textMember_canon shape.shapeId rfl, ok_bind,
    textMember_canon shape.registryVersion rfl, ok_bind, textMember_canon shape.evidenceType rfl,
    ok_bind, ok_bind, textMember_canon shape.cadence rfl, ok_bind, ok_bind, ok_bind,
    dif_pos shape.texts]

theorem mapM_readShape (shapes : List EvidenceShape) :
    (shapes.map (Json.canon ∘ shapeJson)).mapM readShape = .ok shapes := by
  induction shapes with
  | nil => rfl
  | cons shape shapes ih =>
      rw [List.map_cons, List.mapM_cons, Function.comp_apply, readShape_canon, ok_bind, ih]
      rfl

theorem optionalMember_canon {fields : List (String × Json)} {name : String} (value : Option String)
    (found : Json.lookup name fields = some (optionalText value)) :
    optionalMember (Json.canon (.obj fields)) name = .ok value := by
  rw [optionalMember, Json.get?_canon, Json.get?, found]
  cases value <;> rfl

theorem constantMember_canon {fields : List (String × Json)} {name value : String}
    (found : Json.lookup name fields = some (.str value)) :
    constantMember (Json.canon (.obj fields)) name value = .ok () := by
  rw [constantMember, textMember_canon value found, ok_bind, require_of rfl]

theorem timeMember_canon {fields : List (String × Json)} {name : String} (instant : Moment)
    (found : Json.lookup name fields = some (.str instant.isoformat)) :
    timeMember (Json.canon (.obj fields)) name = .ok (.aware instant) := by
  rw [timeMember, textMember_canon instant.isoformat found, ok_bind, readTime_isoformat]

theorem readDraft_canon (record : EvidenceShapeRegistry) :
    readDraft (Json.canon (.obj (payloadFields record))) = .ok record.draft := by
  have shapes : readShapes (Json.canon (.obj (payloadFields record))) = .ok record.shapes := by
    rw [readShapes, member_canon (.arr (record.shapes.map shapeJson)) rfl, ok_bind, Json.canon,
      Json.canonItems_eq_map, List.map_map]
    exact mapM_readShape record.shapes
  have state : readConflictState (Json.canon (.obj (payloadFields record))) = .ok record.conflictState := by
    rw [readConflictState, textMember_canon record.conflictState.text rfl, ok_bind]
    cases record.conflictState <;> rfl
  rw [readDraft, shapes, state, textMember_canon record.recordId rfl, constantMember_canon rfl,
    textMember_canon record.schemaVersion rfl, textMember_canon record.semanticVersion rfl,
    textMember_canon record.version rfl, timeMember_canon record.effectiveAt rfl,
    timeMember_canon record.recordedAt rfl, timeMember_canon record.knownAt rfl,
    constantMember_canon rfl, constantMember_canon rfl, constantMember_canon rfl,
    textMember_canon record.contentHash rfl, optionalMember_canon record.supersedesVersion rfl,
    optionalMember_canon record.supersedesRecordId rfl,
    optionalMember_canon (some record.correctionReason) rfl]
  rfl

theorem closed_canon (record : EvidenceShapeRegistry) :
    closed (Json.canon (.obj (payloadFields record))) = true := by
  rw [Json.canon, closed, List.all_eq_true]
  intro field member
  have named := (Json.mem_keys_canonFields field.1 (payloadFields record)).mp (List.mem_map_of_mem member)
  have keys : (payloadFields record).map Prod.fst ⊆ fieldNames := by
    change ["logical_id", "schema_version", "semantic_version", "version", "shapes", "effective_at",
      "recorded_at", "known_at", "quality_state", "conflict_state", "authorizing_adr_reference",
      "authorized_by", "supersedes_version", "supersedes_record_id", "correction_reason", "record_id",
      "content_hash"] ⊆ fieldNames
    decide
  exact decide_eq_true (keys named)

/-- The hash and the id of a record are those of its content. -/
structure Normalized (record : EvidenceShapeRegistry) : Prop where
  contentHash : record.contentHash = registryContentHash record
  recordId : record.recordId = sha256 (identityText record.version record.contentHash)

theorem normalizeRegistry_normalized (record : EvidenceShapeRegistry) :
    Normalized (normalizeRegistry record) := ⟨rfl, rfl⟩

theorem fromPayload_canon (formed : WellFormed record) (normalized : Normalized record) :
    fromPayload (registrySnapshot record).payload = .ok record := by
  have content := normalized.contentHash
  have identity := normalized.recordId
  rw [fromPayload, registrySnapshot, require_of (closed_canon record), ok_bind, readDraft_canon, malformed,
    ok_bind, construct_ok.mpr ⟨rfl, formed⟩, malformed, ok_bind, require_of content, ok_bind,
    require_of (content ▸ identity), ok_bind]
  rfl

/-- Recorded and known before. -/
def Precedes (a b : EvidenceShapeRegistry) : Prop := a.recordedAt < b.recordedAt ∧ a.knownAt < b.knownAt

theorem Precedes.trans {a b c : EvidenceShapeRegistry} (first : Precedes a b) (second : Precedes b c) :
    Precedes a c :=
  ⟨first.1.trans second.1, first.2.trans second.2⟩

/-- The stored registries, oldest first. A correction names its predecessor by version and by id. -/
structure Registered (registries : List EvidenceShapeRegistry) (stored : Snapshots) : Prop where
  held : stored = registries.map registrySnapshot
  formed : ∀ record ∈ registries, WellFormed record ∧ Normalized record
  rising : Rising EvidenceShapeRegistry.version EvidenceShapeRegistry.supersedesVersion Precedes registries
  linked : Linked EvidenceShapeRegistry.recordId EvidenceShapeRegistry.supersedesRecordId none registries

theorem targetId_inj {first second : String} : targetId first = targetId second ↔ first = second := by
  rw [targetId, targetId, String.append_right_inj]

theorem Registered.load {registries : List EvidenceShapeRegistry} (registered : Registered registries stored)
    {version : String} {snapshot : SnapshotRecord} (found : stored.load (targetId version) = some snapshot) :
    ∃ record ∈ registries, record.version = version ∧ snapshot = registrySnapshot record := by
  have member := List.mem_of_find?_eq_some found
  have named : snapshot.id = targetId version := by simpa using List.find?_some found
  rw [registered.held] at member
  obtain ⟨record, there, rfl⟩ := List.mem_map.mp member
  exact ⟨record, there, targetId_inj.mp named, rfl⟩

theorem Registered.fresh {registries : List EvidenceShapeRegistry} (registered : Registered registries stored)
    {version : String} (absent : stored.load (targetId version) = none) :
    version ∉ registries.map EvidenceShapeRegistry.version := by
  intro there
  obtain ⟨record, member, same⟩ := List.mem_map.mp there
  have inside : registrySnapshot record ∈ stored := registered.held ▸ List.mem_map_of_mem member
  refine List.find?_eq_none.mp absent _ inside ?_
  exact decide_eq_true (targetId_inj.mpr same)

theorem registrySnapshot_recordId (prior : EvidenceShapeRegistry) :
    (registrySnapshot prior).payload.get? "record_id" = some (.str prior.recordId) := by
  rw [registrySnapshot, Json.get?_canon]
  rfl

theorem registrySnapshot_logicalId (prior : EvidenceShapeRegistry) :
    (registrySnapshot prior).payload.get? "logical_id" = some (.str registryLogicalId) := by
  rw [registrySnapshot, Json.get?_canon]
  rfl

theorem registrySnapshot_supersedes (prior : EvidenceShapeRegistry) :
    (registrySnapshot prior).payload.get? "supersedes_version" =
      some (optionalText prior.supersedesVersion).canon := by
  rw [registrySnapshot, Json.get?_canon]
  rfl

theorem priorTime_recorded (prior : EvidenceShapeRegistry) :
    Snapshots.priorTime (registrySnapshot prior) "recorded_at" = .ok prior.recordedAt := by
  rw [Snapshots.priorTime, registrySnapshot, timeMember_canon prior.recordedAt rfl]

theorem priorTime_known (prior : EvidenceShapeRegistry) :
    Snapshots.priorTime (registrySnapshot prior) "known_at" = .ok prior.knownAt := by
  rw [Snapshots.priorTime, registrySnapshot, timeMember_canon prior.knownAt rfl]

/-- What is asked of a correction, in terms of the stored predecessor. -/
theorem authorized_correction {registries : List EvidenceShapeRegistry}
    (registered : Registered registries stored) {version id : String}
    (names : record.supersedesVersion = some version) (named : record.supersedesRecordId = some id)
    (authorized : stored.authorizeRegistryCorrection record = .ok ()) :
    ∃ prior ∈ registries, prior.version = version ∧ prior.recordId = id ∧ Precedes prior record ∧
      ∀ other ∈ registries, other.supersedesVersion = some version → other.version = record.version := by
  simp only [Snapshots.authorizeRegistryCorrection, names, named, bind_ok, exists_unit, require_ok] at authorized
  obtain ⟨snapshot, found, same, -, recorded, readRecorded, later, known, readKnown, laterKnown, sole⟩ :=
    authorized
  have loaded : stored.load (targetId version) = some snapshot := by
    unfold Snapshots.loadPredecessor at found
    split at found
    · rename_i prior loaded
      cases found
      exact loaded
    · cases found
  obtain ⟨prior, member, is, rfl⟩ := registered.load loaded
  rw [registrySnapshot_recordId] at same
  rw [priorTime_recorded] at readRecorded
  rw [priorTime_known] at readKnown
  cases readRecorded
  cases readKnown
  refine ⟨prior, member, is, by simpa using same, ⟨later, laterKnown⟩, ?_⟩
  intro other inside follows
  have held : registrySnapshot other ∈ stored := registered.held ▸ List.mem_map_of_mem inside
  refine targetId_inj.mp (sole _ held ?_)
  rw [registrySnapshot_supersedes, follows]
  rfl

theorem authorized_root {registries : List EvidenceShapeRegistry}
    (registered : Registered registries stored) (unnamed : record.supersedesVersion = none)
    (unnamedId : record.supersedesRecordId = none)
    (authorized : stored.authorizeRegistryCorrection record = .ok ()) : registries = [] := by
  simp only [Snapshots.authorizeRegistryCorrection, unnamed, unnamedId, check_ok, require_ok] at authorized
  obtain ⟨alone, absent⟩ := authorized
  cases registries with
  | nil => rfl
  | cons first rest =>
      have held : registrySnapshot first ∈ stored := by
        rw [registered.held]
        exact List.mem_cons_self
      have same := alone _ held (registrySnapshot_logicalId first)
      have none := List.find?_eq_none.mp absent _ held
      exact absurd (decide_eq_true same) none

/-- A call adds one link to the line or nothing. -/
theorem registered_step {registries : List EvidenceShapeRegistry} {request : Request}
    (registered : Registered registries stored) (step : Persists stored request after) :
    ∃ added, Registered (registries ++ added) after := by
  rw [← step]
  have same : ∃ added, Registered (registries ++ added) stored := ⟨[], by rwa [List.append_nil]⟩
  refine committed_cases (P := fun after => ∃ added, Registered (registries ++ added) after) same ?_
  intro record after done
  simp only [persistRegistry, bind_ok, exists_unit, pure_eq_ok, Except.ok.injEq, Prod.mk.injEq] at done
  obtain ⟨constructed, construct, authorized, _, saved, rfl, rfl⟩ := done
  have formed := normalizeRegistry_wellFormed (construct_ok.mp construct).2
  have normalized := normalizeRegistry_normalized constructed
  generalize normalizeRegistry constructed = record at authorized saved formed normalized
  unfold Snapshots.save at saved
  split at saved
  · -- the snapshot is there already, or another one is under its identity
    split at saved
    · cases saved
      exact same
    · cases saved
  · rename_i absent
    cases saved
    have fresh := registered.fresh absent
    refine ⟨[record], ?_, ?_, ?_, ?_⟩
    · rw [registered.held, List.map_append, List.map_singleton]
    · intro other member
      cases List.mem_append.mp member with
      | inl old => exact registered.formed other old
      | inr new => exact List.mem_singleton.mp new ▸ ⟨formed, normalized⟩
    all_goals
      cases names : record.supersedesVersion with
      | none =>
          cases named : record.supersedesRecordId with
          | some id =>
              simp only [Snapshots.authorizeRegistryCorrection, names, named] at authorized
              cases authorized
          | none =>
              obtain rfl := authorized_root registered names named authorized
              first
              | exact Rising.root names
              | exact ⟨named, trivial⟩
      | some version =>
          cases named : record.supersedesRecordId with
          | none =>
              simp only [Snapshots.authorizeRegistryCorrection, names, named] at authorized
              cases authorized
          | some id =>
              obtain ⟨prior, there, rfl, rfl, precedes, sole⟩ :=
                authorized_correction registered names named authorized
              have childless : ∀ other ∈ registries, other.supersedesVersion ≠ some prior.version := by
                intro other inside follows
                exact fresh (sole other inside follows ▸ List.mem_map_of_mem inside)
              first
              | exact registered.rising.append Precedes.trans fresh there names childless precedes
              | obtain ⟨front, rfl⟩ := eq_last registered.rising.linked there childless
                refine Lineage.linked_snoc.mpr ⟨registered.linked, ?_⟩
                rw [named, Lineage.tip_append_singleton]

theorem registered_run {registries : List EvidenceShapeRegistry} {requests : List Request}
    (registered : Registered registries stored) (run : Run Persists stored requests after) :
    ∃ added, Registered (registries ++ added) after := by
  refine run.preserves (fun after => ∃ added, Registered (registries ++ added) after) ?_
    ⟨[], by rwa [List.append_nil]⟩
  rintro now request next ⟨added, here⟩ step
  obtain ⟨more, there⟩ := registered_step here step
  exact ⟨added ++ more, by rwa [List.append_assoc] at there⟩

theorem registered_nil : Registered [] [] := ⟨rfl, fun _ none => absurd none List.not_mem_nil, .nil, trivial⟩

/-- The last registry of the line that is known at the cutoff. -/
def lastKnown (registries : List EvidenceShapeRegistry) (cutoff : Moment) : Option EvidenceShapeRegistry :=
  (registries.filter fun record => record.knownAt ≤ cutoff).getLast?

/-- The digest tells the identities of the stored versions apart. -/
def Collisionless (stored : Snapshots) : Prop :=
  ∀ a b : EvidenceShapeRegistry, registrySnapshot a ∈ stored → registrySnapshot b ∈ stored →
    sha256 (identityText a.version a.contentHash) = sha256 (identityText b.version b.contentHash) →
      identityText a.version a.contentHash = identityText b.version b.contentHash

theorem identityText_version {version other hash hash' : String}
    (same : identityText version hash = identityText other hash')
    (length : hash.toList.length = hash'.toList.length) : version = other := by
  have lists := congrArg String.toList same
  simp only [identityText, String.toList_append] at lists
  have front := (List.append_inj' lists length).1
  have whole := (List.append_inj' front rfl).1
  exact String.toList_inj.mp (List.append_cancel_left whole)

theorem version_of_recordId {registries : List EvidenceShapeRegistry} {a b : EvidenceShapeRegistry}
    (registered : Registered registries stored) (collisionless : Collisionless stored)
    (ha : a ∈ registries) (hb : b ∈ registries) (same : a.recordId = b.recordId) :
    a.version = b.version := by
  have na := (registered.formed a ha).2
  have nb := (registered.formed b hb).2
  have texts := collisionless a b (registered.held ▸ List.mem_map_of_mem ha)
    (registered.held ▸ List.mem_map_of_mem hb) (by rw [← na.recordId, ← nb.recordId, same])
  refine identityText_version texts ?_
  rw [na.contentHash, nb.contentHash, registryContentHash, registryContentHash, sha256_length,
    sha256_length]

theorem records_perm {registries : List EvidenceShapeRegistry} (registered : Registered registries stored) :
    (records stored).Perm registries := by
  have decoded : stored.filterMap (fun snapshot => (fromPayload snapshot.payload).toOption) =
      registries := by
    rw [registered.held, List.filterMap_map]
    refine (List.filterMap_congr ?_).trans List.filterMap_some
    intro record member
    obtain ⟨formed, normalized⟩ := registered.formed record member
    rw [Function.comp_apply, fromPayload_canon formed normalized]
    rfl
  rw [records, decoded]
  exact List.mergeSort_perm _ _

theorem knownBy_iff {cutoff : Moment} (formed : WellFormed record) :
    record.knownBy cutoff = true ↔ record.knownAt ≤ cutoff := by
  simp only [EvidenceShapeRegistry.knownBy, Bool.and_eq_true, decide_eq_true_eq]
  constructor
  · exact fun known => known.2
  · intro known
    have recorded := formed.recorded.trans known
    exact ⟨⟨formed.effective.trans recorded, recorded⟩, known⟩

theorem latest_nil : latest [] = none := by
  rw [latest, List.mergeSort_nil, List.head?_nil]

theorem latest_of_only {found : List EvidenceShapeRegistry} (only : ∀ other ∈ found, other = record)
    (there : record ∈ found) : latest found = some record := by
  have perm : (found.mergeSort fun a b => b.place ≤ a.place).Perm found := List.mergeSort_perm _ _
  unfold latest
  cases sorted : found.mergeSort fun a b => b.place ≤ a.place with
  | nil =>
      rw [sorted] at perm
      exact absurd (perm.mem_iff.mpr there) List.not_mem_nil
  | cons first rest =>
      rw [sorted] at perm
      rw [List.head?_cons, only first (perm.mem_iff.mp List.mem_cons_self)]

/-- A registry is current exactly when no known one names it, by its version or by its id. -/
theorem unnamed_iff {registries : List EvidenceShapeRegistry} {cutoff : Moment}
    (registered : Registered registries stored) (collisionless : Collisionless stored) :
    (record ∈ registries ∧ record.knownAt ≤ cutoff ∧
        (∀ other ∈ registries, other.knownAt ≤ cutoff → other.supersedesVersion ≠ some record.version) ∧
        ∀ other ∈ registries, other.knownAt ≤ cutoff → other.supersedesRecordId ≠ some record.recordId) ↔
      lastKnown registries cutoff = some record := by
  have governs : Governs EvidenceShapeRegistry.version EvidenceShapeRegistry.supersedesVersion
      EvidenceShapeRegistry.knownAt registries cutoff record ↔ _ :=
    registered.rising.governs_iff fun below => below.2
  rw [lastKnown, ← governs]
  constructor
  · rintro ⟨member, known, unnamed, -⟩
    exact ⟨member, known, unnamed⟩
  · rintro ⟨member, known, unnamed⟩
    refine ⟨member, known, unnamed, ?_⟩
    intro other inside seen names
    obtain ⟨front, back, rfl⟩ := List.append_of_mem inside
    have byId := (Lineage.linked_append.mp registered.linked).2.1
    have byVersion := (Lineage.linked_append.mp registered.rising.linked).2.1
    rw [names] at byId
    cases front using List.reverseRec with
    | nil => cases byId
    | append_singleton earlier prior =>
        rw [Lineage.tip_append_singleton] at byId byVersion
        have same := version_of_recordId registered collisionless member (b := prior) (by simp)
          (Option.some.inj byId)
        exact unnamed other inside seen (byVersion.trans (congrArg some same.symm))

theorem strictKnown_last {registries : List EvidenceShapeRegistry}
    (registered : Registered registries stored) (collisionless : Collisionless stored)
    (version : String) (cutoff : Moment) :
    strictKnownRegistry stored version (.aware cutoff) =
      .ok ((lastKnown registries cutoff).filter fun record => record.version = version) := by
  have perm := records_perm registered
  have eligible : ∀ record, record ∈ (records stored).filter (fun record => record.knownBy cutoff) ↔
      record ∈ registries ∧ record.knownAt ≤ cutoff := by
    intro record
    rw [List.mem_filter, perm.mem_iff]
    constructor
    · exact fun ⟨member, known⟩ => ⟨member, (knownBy_iff (registered.formed record member).1).mp known⟩
    · exact fun ⟨member, known⟩ => ⟨member, (knownBy_iff (registered.formed record member).1).mpr known⟩
  unfold strictKnownRegistry
  simp only [ok_bind, pure_eq_ok, Except.ok.injEq]
  generalize (records stored).filter (fun record => record.knownBy cutoff) = shown at eligible
  have current : ∀ record, record ∈ (shown.filter fun record => record.version = version).filter
      (fun record => record.version ∉ shown.filterMap EvidenceShapeRegistry.supersedesVersion ∧
        record.recordId ∉ shown.filterMap EvidenceShapeRegistry.supersedesRecordId) ↔
      lastKnown registries cutoff = some record ∧ record.version = version := by
    intro record
    rw [← unnamed_iff registered collisionless]
    simp only [List.mem_filter, List.mem_filterMap, decide_eq_true_eq, eligible, not_exists, not_and,
      and_imp, ne_eq]
    tauto
  generalize (shown.filter fun record => record.version = version).filter
    (fun record => record.version ∉ shown.filterMap EvidenceShapeRegistry.supersedesVersion ∧
      record.recordId ∉ shown.filterMap EvidenceShapeRegistry.supersedesRecordId) = found at current
  cases last : lastKnown registries cutoff with
  | none =>
      have empty : found = [] := List.eq_nil_iff_forall_not_mem.mpr fun record member => by
        have there := ((current record).mp member).1
        rw [last] at there
        cases there
      rw [empty, latest_nil, Option.filter_none]
  | some record =>
      rw [Option.filter_some]
      split
      · rename_i same
        refine latest_of_only ?_ ((current record).mpr ⟨last, of_decide_eq_true same⟩)
        intro other member
        have there := ((current other).mp member).1
        rw [last] at there
        exact (Option.some.inj there).symm
      · rename_i other
        have empty : found = [] := List.eq_nil_iff_forall_not_mem.mpr fun one member => by
          obtain ⟨there, same⟩ := (current one).mp member
          rw [last] at there
          cases there
          exact other (decide_eq_true same)
        rw [empty, latest_nil]

/-- After every sequence of calls the stored registries are one line of corrections with a single
root and rising times. Each is decoded to what was stored, with the hash and the id of its content.
At every cutoff the version in force is that of the last registry known there, if there is one, and
registries that are known later change nothing. -/
theorem registry_in_force {requests : List Request} (run : Run Persists [] requests stored)
    (collisionless : Collisionless stored) :
    ∃ registries : List EvidenceShapeRegistry, stored = registries.map registrySnapshot ∧
      Rising EvidenceShapeRegistry.version EvidenceShapeRegistry.supersedesVersion Precedes registries ∧
      Linked EvidenceShapeRegistry.recordId EvidenceShapeRegistry.supersedesRecordId none registries ∧
      (∀ record ∈ registries, fromPayload (registrySnapshot record).payload = .ok record ∧
        record.contentHash = registryContentHash record ∧
        record.recordId = sha256 (identityText record.version record.contentHash)) ∧
      (∀ version cutoff, strictKnownRegistry stored version (.aware cutoff) =
        .ok ((lastKnown registries cutoff).filter fun record => record.version = version)) ∧
      ∀ more after cutoff, Run Persists stored more after → Collisionless after →
        (∀ record : EvidenceShapeRegistry, registrySnapshot record ∈ after →
          registrySnapshot record ∉ stored → cutoff < record.knownAt) →
        ∀ version, strictKnownRegistry after version (.aware cutoff) =
          strictKnownRegistry stored version (.aware cutoff) := by
  obtain ⟨registries, registered⟩ := registered_run registered_nil run
  rw [List.nil_append] at registered
  refine ⟨registries, registered.held, registered.rising, registered.linked, ?_,
    strictKnown_last registered collisionless, ?_⟩
  · intro record member
    obtain ⟨formed, normalized⟩ := registered.formed record member
    exact ⟨fromPayload_canon formed normalized, normalized.contentHash, normalized.recordId⟩
  · intro more after cutoff further collisionless' later version
    obtain ⟨added, extended⟩ := registered_run registered further
    rw [strictKnown_last registered collisionless, strictKnown_last extended collisionless']
    have hidden : added.filter (fun record => decide (record.knownAt ≤ cutoff)) = [] := by
      refine List.filter_eq_nil_iff.mpr fun record member => ?_
      have fresh : registrySnapshot record ∉ stored := by
        rw [registered.held]
        intro there
        obtain ⟨other, old, same⟩ := List.mem_map.mp there
        have versions := extended.rising.distinct
        rw [List.map_append] at versions
        refine (List.nodup_append.mp versions).2.2 _ (List.mem_map_of_mem old) _
          (List.mem_map_of_mem member) ?_
        exact targetId_inj.mp (congrArg SnapshotRecord.id same)
      have above := later record (extended.held ▸ List.mem_map_of_mem (List.mem_append_right _ member)) fresh
      simpa using above
    rw [lastKnown, List.filter_append, hidden, List.append_nil, lastKnown]

def sampleTime : Moment := ⟨0, Calendar.zero_lt_end⟩

def laterTime : Moment := ⟨9, by decide⟩

def sampleShape : EvidenceShape where
  shapeId := "quarterly-revenue"
  registryVersion := "v1"
  evidenceType := "revenue"
  accountingMeaning := .periodSpecific
  cadence := "quarterly"
  compositionOperation := .exactSum
  active := true
  texts := by decide

def sampleRequest : Request :=
  ⟨"v1", [sampleShape], .aware sampleTime, .aware sampleTime, .aware sampleTime, .none, none, none, ""⟩

def pendingRecord : EvidenceShapeRegistry :=
  ⟨"pending", "evidence-shape-registry-v1", "1.0.0", "v1", [sampleShape], sampleTime, sampleTime, sampleTime,
    .none, "pending", none, none, ""⟩

theorem pendingRecord_formed : WellFormed pendingRecord where
  texts := by decide
  shapes := List.cons_ne_nil _ _
  unique := List.nodup_singleton _
  versions := by decide
  effective := le_rfl
  recorded := le_rfl
  paired := rfl
  reasoned := by decide

theorem authorized_first (unnamed : record.supersedesVersion = none)
    (unnamedId : record.supersedesRecordId = none) :
    Snapshots.authorizeRegistryCorrection [] record = .ok () := by
  simp only [Snapshots.authorizeRegistryCorrection, unnamed, unnamedId, check_ok, require_ok]
  exact ⟨fun _ none => absurd none List.not_mem_nil, rfl⟩

theorem sample_persists :
    Persists [] sampleRequest [registrySnapshot (normalizeRegistry pendingRecord)] := by
  have construct : sampleRequest.draft.construct = .ok pendingRecord :=
    construct_ok.mpr ⟨rfl, pendingRecord_formed⟩
  have authorized : Snapshots.authorizeRegistryCorrection [] (normalizeRegistry pendingRecord) = .ok () :=
    authorized_first rfl rfl
  rw [Persists, persistRegistry, construct, ok_bind]
  dsimp only
  rw [authorized, ok_bind]
  rfl

theorem contentHash_of_snapshot {a b : EvidenceShapeRegistry} (same : registrySnapshot a = registrySnapshot b) :
    a.version = b.version ∧ a.contentHash = b.contentHash := by
  refine ⟨targetId_inj.mp (congrArg SnapshotRecord.id same), ?_⟩
  have held : ∀ record, (registrySnapshot record).payload.get? "content_hash" =
      some (.str record.contentHash) := by
    intro record
    rw [registrySnapshot, Json.get?_canon]
    rfl
  have hashes := held a
  rw [same, held b] at hashes
  simpa using hashes.symm

/-- A correction of a registry that stands alone. -/
theorem authorized_second {prior : EvidenceShapeRegistry} (alone : prior.supersedesVersion = none)
    (names : record.supersedesVersion = some prior.version)
    (named : record.supersedesRecordId = some prior.recordId) (precedes : Precedes prior record) :
    Snapshots.authorizeRegistryCorrection [registrySnapshot prior] record = .ok () := by
  have found : Snapshots.loadPredecessor [registrySnapshot prior] prior.version = .ok (registrySnapshot prior) := by
    have loaded : Snapshots.load [registrySnapshot prior] (targetId prior.version) =
        some (registrySnapshot prior) := List.find?_cons_of_pos (decide_eq_true rfl)
    rw [Snapshots.loadPredecessor, loaded]
  simp only [Snapshots.authorizeRegistryCorrection, names, named, bind_ok, exists_unit, require_ok]
  refine ⟨registrySnapshot prior, found, registrySnapshot_recordId prior, registrySnapshot_logicalId prior,
    prior.recordedAt, priorTime_recorded prior, precedes.1, prior.knownAt, priorTime_known prior,
    precedes.2, ?_⟩
  intro item member follows
  rw [List.mem_singleton.mp member, registrySnapshot_supersedes, alone] at follows
  cases follows

/-- The record that is made of the request of a second version. -/
def pendingRevision : EvidenceShapeRegistry :=
  ⟨"pending", "evidence-shape-registry-v1", "1.0.0", "v2",
    [{ sampleShape with registryVersion := "v2", texts := by decide }], laterTime, laterTime, laterTime, .none,
    "pending", some "v1", some (normalizeRegistry pendingRecord).recordId, "restated"⟩

def revisionRequest : Request :=
  ⟨"v2", pendingRevision.shapes, .aware laterTime, .aware laterTime, .aware laterTime, .none, some "v1",
    some (normalizeRegistry pendingRecord).recordId, "restated"⟩

theorem given_some {text : String} (filled : text ≠ "") : given (some text) = true := decide_eq_true filled

theorem sha256_ne (text : String) : sha256 text ≠ "" := by
  intro empty
  have visible := blank_sha256 text
  rw [empty] at visible
  cases visible

theorem pendingRevision_formed : WellFormed pendingRevision where
  texts := by decide
  shapes := List.cons_ne_nil _ _
  unique := List.nodup_singleton _
  versions := List.forall_mem_singleton.mpr rfl
  effective := le_rfl
  recorded := le_rfl
  paired := (given_some (by decide)).trans (given_some (sha256_ne _)).symm
  reasoned := by decide

theorem revision_persists : Persists [registrySnapshot (normalizeRegistry pendingRecord)] revisionRequest
    [registrySnapshot (normalizeRegistry pendingRecord), registrySnapshot (normalizeRegistry pendingRevision)] := by
  have construct : revisionRequest.draft.construct = .ok pendingRevision :=
    construct_ok.mpr ⟨rfl, pendingRevision_formed⟩
  have authorized : Snapshots.authorizeRegistryCorrection [registrySnapshot (normalizeRegistry pendingRecord)]
      (normalizeRegistry pendingRevision) = .ok () :=
    authorized_second rfl rfl rfl ⟨by decide, by decide⟩
  have absent : Snapshots.load [registrySnapshot (normalizeRegistry pendingRecord)]
      (registrySnapshot (normalizeRegistry pendingRevision)).id = none := by
    refine List.find?_eq_none.mpr fun item member same => ?_
    rw [List.mem_singleton.mp member] at same
    exact absurd (targetId_inj.mp (of_decide_eq_true same)) (by decide)
  rw [Persists, persistRegistry, construct, ok_bind]
  dsimp only
  rw [authorized, ok_bind, Snapshots.save, absent]
  rfl

theorem sha256_identityText (version hash : String) : sha256 (identityText version hash) = Sha256.hexdigest
    (Chars.encode (registryLogicalId.toList ++ ":".toList ++ version.toList ++ ":".toList ++ hash.toList)) := by
  rw [identityText, sha256, String.scalars_eq_toList]
  simp only [String.toList_append]

theorem pendingRecord_contentHash : registryContentHash pendingRecord =
    "c9e2745a736cecd436bd55b958a2c27885b36e350f968b7db50722d8a2e61a13" := by
  rw [registryContentHash, Json.asciiDumps, MarketValidation.sha256_ofList]
  decide

theorem pendingRecord_recordId : (normalizeRegistry pendingRecord).recordId =
    "5f692e2ca19a47b17263784d090d6bf767bc9815d537c6c2a5ac2ffb08c0772a" := by
  show sha256 (identityText "v1" (registryContentHash pendingRecord)) = _
  rw [pendingRecord_contentHash, sha256_identityText]
  decide

theorem pendingRevision_contentHash : registryContentHash pendingRevision =
    "912f2b49db1ad29bb1fdca5761310d9a110bdd60bc5d8c594af1c870d03cd973" := by
  rw [registryContentHash, contentFields]
  dsimp only [pendingRevision]
  rw [pendingRecord_recordId, Json.asciiDumps, MarketValidation.sha256_ofList]
  decide

theorem pendingRevision_recordId : (normalizeRegistry pendingRevision).recordId =
    "49532a1f8cc3406a19bccb70156cec101027ac199933bb5c708b8ae50a127461" := by
  show sha256 (identityText "v2" (registryContentHash pendingRevision)) = _
  rw [pendingRevision_contentHash, sha256_identityText]
  decide

theorem revision_collisionless : Collisionless [registrySnapshot (normalizeRegistry pendingRecord),
    registrySnapshot (normalizeRegistry pendingRevision)] := by
  have apart : (normalizeRegistry pendingRecord).recordId ≠ (normalizeRegistry pendingRevision).recordId := by
    rw [pendingRecord_recordId, pendingRevision_recordId]
    decide
  intro a b ha hb same
  simp only [List.mem_cons, List.not_mem_nil, or_false] at ha hb
  rcases ha with ha | ha <;> rcases hb with hb | hb <;> obtain ⟨version, hash⟩ := contentHash_of_snapshot ha <;>
    obtain ⟨version', hash'⟩ := contentHash_of_snapshot hb <;> rw [version, hash, version', hash'] at same ⊢
  · exact absurd same apart
  · exact absurd same.symm apart

/-- The second version is in force from the time it was known, and the first one until then. -/
theorem registry_in_force_sample : ∃ stored : Snapshots, ∃ requests, Run Persists [] requests stored ∧
    strictKnownRegistry stored "v1" (.aware sampleTime) = .ok (some (normalizeRegistry pendingRecord)) ∧
    strictKnownRegistry stored "v1" (.aware laterTime) = .ok none ∧
    strictKnownRegistry stored "v2" (.aware laterTime) = .ok (some (normalizeRegistry pendingRevision)) := by
  have run : Run Persists [] _ [registrySnapshot (normalizeRegistry pendingRecord),
      registrySnapshot (normalizeRegistry pendingRevision)] :=
    (Run.nil.snoc sample_persists).snoc revision_persists
  obtain ⟨registries, held, -, -, decoded, known, -⟩ := registry_in_force run revision_collisionless
  have read : ∀ record ∈ registries, fromPayload (registrySnapshot record).payload = .ok record :=
    fun record member => (decoded record member).1
  have first := fromPayload_canon (normalizeRegistry_wellFormed pendingRecord_formed)
    (normalizeRegistry_normalized pendingRecord)
  have second := fromPayload_canon (normalizeRegistry_wellFormed pendingRevision_formed)
    (normalizeRegistry_normalized pendingRevision)
  obtain ⟨a, rest, rfl, same, left⟩ := List.map_eq_cons_iff.mp held.symm
  obtain ⟨b, none, rfl, same', empty⟩ := List.map_eq_cons_iff.mp left
  obtain rfl := List.map_eq_nil_iff.mp empty
  have own := read a List.mem_cons_self
  have other := read b (List.mem_cons_of_mem _ List.mem_cons_self)
  rw [same, first] at own
  rw [same', second] at other
  cases own
  cases other
  refine ⟨_, _, run, ?_, ?_, ?_⟩
  · rw [known]
    rfl
  · rw [known]
    rfl
  · rw [known]
    rfl

end Hunter.EvidenceAssembly
