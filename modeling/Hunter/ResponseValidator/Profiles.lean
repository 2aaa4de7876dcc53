import Hunter.Data.Lineage
import Hunter.Machine.Run
import Hunter.ResponseValidator.Vocabulary

/-!
Response-validation profiles: their publication by the profile authority, the
insert-only table that keeps their history, and the resolution of the profile that
was known at a cutoff. A publication reads the clock inside its transaction and a
successor has to name the head of the history, so the profiles of one applicability
key form one line of versions with advancing times.
-/

namespace Hunter.ResponseValidator

open Calendar Fallible

def vocabularyVersion : String := "adr-0035-validation-state-v1"

def profileSchemaVersion : String := "response-validation-profile-v1"

/-- A publication proposal. The security rule is named with its version or not at
all, and the dimensions stand in order without repetition. -/
structure ResponseValidationProfileSpec where
  profileSelector : CanonicalText
  requestedOutputContractIdentity : CanonicalText
  requestedOutputContractVersion : CanonicalText
  validatorContractIdentity : CanonicalText
  validatorContractVersion : CanonicalText
  syntaxSchemaRuleIdentity : CanonicalText
  syntaxSchemaRuleVersion : CanonicalText
  parserCanonicalizationIdentity : CanonicalText
  parserCanonicalizationVersion : CanonicalText
  evidenceReferenceRuleIdentity : CanonicalText
  evidenceReferenceRuleVersion : CanonicalText
  resourcePolicyIdentity : CanonicalText
  resourcePolicyVersion : CanonicalText
  requiredDimensions : List CanonicalText
  dimensions_ne : requiredDimensions ≠ []
  dimensions_sorted : requiredDimensions.Pairwise fun a b => a.val < b.val
  securityRule : Option (CanonicalText × CanonicalText)
  deriving DecidableEq

def profileApplicabilityKey (profileSelector contractIdentity contractVersion : CanonicalText) :
    String :=
  identity "response-validation-profile-applicability" (.obj [
    ("profile_selector", .str profileSelector.val),
    ("requested_output_contract_identity", .str contractIdentity.val),
    ("requested_output_contract_version", .str contractVersion.val)])

namespace ResponseValidationProfileSpec

def applicabilityKey (spec : ResponseValidationProfileSpec) : String :=
  profileApplicabilityKey spec.profileSelector spec.requestedOutputContractIdentity
    spec.requestedOutputContractVersion

/-- `asdict`. -/
def json (spec : ResponseValidationProfileSpec) : Json := .obj [
  ("profile_selector", .str spec.profileSelector.val),
  ("requested_output_contract_identity", .str spec.requestedOutputContractIdentity.val),
  ("requested_output_contract_version", .str spec.requestedOutputContractVersion.val),
  ("validator_contract_identity", .str spec.validatorContractIdentity.val),
  ("validator_contract_version", .str spec.validatorContractVersion.val),
  ("syntax_schema_rule_identity", .str spec.syntaxSchemaRuleIdentity.val),
  ("syntax_schema_rule_version", .str spec.syntaxSchemaRuleVersion.val),
  ("parser_canonicalization_identity", .str spec.parserCanonicalizationIdentity.val),
  ("parser_canonicalization_version", .str spec.parserCanonicalizationVersion.val),
  ("evidence_reference_rule_identity", .str spec.evidenceReferenceRuleIdentity.val),
  ("evidence_reference_rule_version", .str spec.evidenceReferenceRuleVersion.val),
  ("resource_policy_identity", .str spec.resourcePolicyIdentity.val),
  ("resource_policy_version", .str spec.resourcePolicyVersion.val),
  ("required_dimensions", .arr (spec.requiredDimensions.map fun text => .str text.val)),
  ("security_rule_identity", optionalText (spec.securityRule.map fun rule => rule.1.val)),
  ("security_rule_version", optionalText (spec.securityRule.map fun rule => rule.2.val)),
  ("vocabulary_version", .str vocabularyVersion),
  ("schema_version", .str profileSchemaVersion)]

def contentHash (spec : ResponseValidationProfileSpec) : String := sha256 spec.json.dumps

end ResponseValidationProfileSpec

/-- One immutable, authority-published profile version. -/
@[ext]
structure ResponseValidationProfile where
  spec : ResponseValidationProfileSpec
  profileVersion : Nat
  applicableFrom : Moment
  publishedAt : Moment
  knownAt : Moment
  supersedesPublicationId : Option String
  correctionReason : String
  version_pos : 1 ≤ profileVersion
  published_le : publishedAt ≤ knownAt
  applicable_le : applicableFrom ≤ knownAt
  genesis : profileVersion = 1 → supersedesPublicationId = none ∧ correctionReason = ""
  successor : profileVersion ≠ 1 → (∃ id ∈ supersedesPublicationId, id ≠ "") ∧
    Chars.strip correctionReason.scalars ≠ []

instance : DecidableEq ResponseValidationProfile := fun _ _ =>
  decidable_of_iff _ ResponseValidationProfile.ext_iff.symm

namespace ResponseValidationProfile

/-- The members of `asdict` and of the publication identity. -/
def members (profile : ResponseValidationProfile) : List (String × Json) := [
  ("spec", profile.spec.json),
  ("profile_version", .int profile.profileVersion),
  ("applicable_from", .str profile.applicableFrom.isoformat),
  ("published_at", .str profile.publishedAt.isoformat),
  ("known_at", .str profile.knownAt.isoformat),
  ("supersedes_publication_id", optionalText profile.supersedesPublicationId),
  ("correction_reason", .str profile.correctionReason)]

def publicationId (profile : ResponseValidationProfile) : String :=
  identity "response-validation-profile-publication" (.obj profile.members)

end ResponseValidationProfile

/-- The canonical bytes of a stored profile. -/
def profilePayload (profile : ResponseValidationProfile) : String :=
  (Json.obj (profile.members ++ [("publication_id", .str profile.publicationId),
    ("content_hash", .str profile.spec.contentHash)])).dumps

/-- A row with its indexed columns. The payload column is the record it encodes. -/
structure ProfileRow where
  publicationId : String
  applicabilityKey : String
  profileVersion : Nat
  applicableFrom : String
  publishedAt : String
  knownAt : String
  supersedesPublicationId : Option String
  payloadHash : String
  payload : ResponseValidationProfile

def ProfileRow.of (profile : ResponseValidationProfile) : ProfileRow where
  publicationId := profile.publicationId
  applicabilityKey := profile.spec.applicabilityKey
  profileVersion := profile.profileVersion
  applicableFrom := profile.applicableFrom.isoformat
  publishedAt := profile.publishedAt.isoformat
  knownAt := profile.knownAt.isoformat
  supersedesPublicationId := profile.supersedesPublicationId
  payloadHash := sha256 (profilePayload profile)
  payload := profile

/-- The payload's own hash and every indexed column are checked on the way out. -/
def profileFromRow (row : ProfileRow) : Py ResponseValidationProfile := do
  let profile := row.payload
  require (sha256 (profilePayload profile) = row.payloadHash)
    (.persistenceCorruption "profile payload hash mismatch")
  let mismatch (name : String) : Exn := .persistenceCorruption
    ("profile SQL metadata does not match canonical payload: " ++ name)
  require (row.applicabilityKey = profile.spec.applicabilityKey) (mismatch "applicability_key")
  require (row.publicationId = profile.publicationId) (mismatch "publication_id")
  require (row.profileVersion = profile.profileVersion) (mismatch "profile_version")
  require (row.applicableFrom = profile.applicableFrom.isoformat) (mismatch "applicable_from")
  require (row.publishedAt = profile.publishedAt.isoformat) (mismatch "published_at")
  require (row.knownAt = profile.knownAt.isoformat) (mismatch "known_at")
  require (row.supersedesPublicationId = profile.supersedesPublicationId)
    (mismatch "supersedes_publication_id")
  .ok profile

abbrev ProfileTable : Type := List ProfileRow

/-- The unique keys of the table: the identity, the version within its history, and
the predecessor where there is one. -/
def ProfileRow.clashes (row other : ProfileRow) : Bool :=
  row.publicationId = other.publicationId ||
    (row.applicabilityKey = other.applicabilityKey && row.profileVersion = other.profileVersion) ||
    (row.supersedesPublicationId.isSome &&
      row.supersedesPublicationId = other.supersedesPublicationId)

def insertProfile (table : ProfileTable) (row : ProfileRow) : Py ProfileTable := do
  require (table.all fun other => !row.clashes other)
    (.persistenceConflict "append-only profile identity or lineage conflict")
  .ok (table ++ [row])

/-- `ORDER BY known_at, profile_version, publication_id`. -/
def ProfileRow.before (a b : ProfileRow) : Bool :=
  a.knownAt < b.knownAt || (a.knownAt = b.knownAt && (a.profileVersion < b.profileVersion ||
    (a.profileVersion = b.profileVersion && a.publicationId ≤ b.publicationId)))

def profileHistory (table : ProfileTable) (key : String) : Py (List ResponseValidationProfile) :=
  ((table.filter fun row => row.applicabilityKey = key).mergeSort ProfileRow.before).mapM
    profileFromRow

/-- The profiles that no profile of the history supersedes. -/
def profileHeads (history : List ResponseValidationProfile) : List ResponseValidationProfile :=
  Lineage.heads ResponseValidationProfile.publicationId
    ResponseValidationProfile.supersedesPublicationId history

def profileHead (history : List ResponseValidationProfile) :
    Py (Option ResponseValidationProfile) :=
  match history with
  | [] => .ok none
  | _ :: _ =>
      match profileHeads history with
      | [head] => .ok (some head)
      | _ => .error (.persistenceCorruption "profile history has ambiguous canonical head")

/-- The place of a profile in the history its publication claims. -/
def requireSuccessor (history : List ResponseValidationProfile) (profile : ResponseValidationProfile) :
    Option ResponseValidationProfile → Py Unit
  | none =>
      require (history = [] ∧ profile.profileVersion = 1 ∧ profile.supersedesPublicationId = none)
        (.persistenceConflict "invalid genesis profile history")
  | some head => do
      require (profile.profileVersion = head.profileVersion + 1)
        (.persistenceConflict "profile version must advance exactly once")
      require (profile.supersedesPublicationId = some head.publicationId)
        (.persistenceConflict "profile successor must name the exact current head")

/-- `_publish_profile_authorized`. -/
def publishAuthorized (table : ProfileTable) (applicabilityKey : String)
    (factory : Option ResponseValidationProfile → Py ResponseValidationProfile) :
    Py (ResponseValidationProfile × ProfileTable) := do
  let history ← profileHistory table applicabilityKey
  let predecessor ← profileHead history
  let profile ← factory predecessor
  require (profile.spec.applicabilityKey = applicabilityKey)
    (.persistenceConflict "profile applicability does not match claimed history")
  requireSuccessor history profile predecessor
  let table ← insertProfile table (.of profile)
  .ok (profile, table)

def genesisProfile (spec : ResponseValidationProfileSpec) (cutoff : Moment) :
    ResponseValidationProfile where
  spec
  profileVersion := 1
  applicableFrom := cutoff
  publishedAt := cutoff
  knownAt := cutoff
  supersedesPublicationId := none
  correctionReason := ""
  version_pos := Nat.zero_lt_one
  published_le := Fin.le_refl cutoff
  applicable_le := Fin.le_refl cutoff
  genesis := fun _ => ⟨rfl, rfl⟩
  successor := fun other => absurd rfl other

def publishProfile (now : ClockReading) (table : ProfileTable)
    (spec : ResponseValidationProfileSpec) : Py (ResponseValidationProfile × ProfileTable) :=
  publishAuthorized table spec.applicabilityKey fun predecessor => do
    require (predecessor = none)
      (.profileError "profile history already exists; publish a successor")
    let cutoff ← clockNow now "profile publication"
    .ok (genesisProfile spec cutoff)

def successorProfile (predecessor : ResponseValidationProfile) (spec : ResponseValidationProfileSpec)
    (cutoff : Moment) (correctionReason : CanonicalText) : ResponseValidationProfile where
  spec
  profileVersion := predecessor.profileVersion + 1
  applicableFrom := cutoff
  publishedAt := cutoff
  knownAt := cutoff
  supersedesPublicationId := some predecessor.publicationId
  correctionReason := correctionReason.val
  version_pos := Nat.le_add_left 1 _
  published_le := Fin.le_refl cutoff
  applicable_le := Fin.le_refl cutoff
  genesis := fun first => absurd (Nat.succ.inj first) (Nat.ne_of_gt predecessor.version_pos)
  successor := fun _ => ⟨⟨_, rfl, identity_ne _ _⟩, strip_ne_nil⟩

def supersedeProfile (now : ClockReading) (table : ProfileTable) (predecessorPublicationId : String)
    (spec : ResponseValidationProfileSpec) (correctionReason : String) :
    Py (ResponseValidationProfile × ProfileTable) := do
  let _ ← requiredText "predecessor_publication_id" predecessorPublicationId
  let reason ← requiredText "correction_reason" correctionReason
  publishAuthorized table spec.applicabilityKey fun
    | none => .error (.profileError "successor must name the exact canonical profile head")
    | some predecessor => do
        require (predecessor.publicationId = predecessorPublicationId)
          (.profileError "successor must name the exact canonical profile head")
        require (predecessor.spec.applicabilityKey = spec.applicabilityKey)
          (.profileError "successor cannot change profile applicability scope")
        let cutoff ← clockNow now "profile publication"
        require (¬ cutoff ≤ predecessor.knownAt)
          (.profileError "profile publication clock must advance beyond predecessor")
        .ok (successorProfile predecessor spec cutoff reason)

/-- Exact strict-known profile/version lineage at one trusted cutoff. -/
structure ResponseValidationProfileResolution where
  validationCutoff : Moment
  profile : ResponseValidationProfile
  publicationLineage : List String
  exact : publicationLineage.getLast? = some profile.publicationId

/-- The walk from a profile to the genesis it descends from, at most `fuel` profiles
long. What was walked comes out oldest first. -/
def profileLineage (eligible : List ResponseValidationProfile) :
    Nat → ResponseValidationProfile → List String → Py (List String)
  | 0, _, _ => .error (.profileResolutionError "canonical profile history contains a cycle")
  | fuel + 1, cursor, walked => do
      require (cursor.publicationId ∉ walked)
        (.profileResolutionError "canonical profile history contains a cycle")
      match cursor.supersedesPublicationId with
      | none =>
          require (cursor.profileVersion = 1)
            (.profileResolutionError "canonical profile lineage has no genesis")
          .ok (cursor.publicationId :: walked)
      | some predecessorId =>
          match eligible.find? fun profile => profile.publicationId = predecessorId with
          | none =>
              .error (.profileResolutionError "canonical profile predecessor is unresolvable")
          | some predecessor => do
              require (predecessor.profileVersion + 1 = cursor.profileVersion)
                (.profileResolutionError "canonical profile predecessor is unresolvable")
              profileLineage eligible fuel predecessor (cursor.publicationId :: walked)

/-- The profiles that were applicable, published and known. -/
def eligibleProfiles (history : List ResponseValidationProfile) (cutoff : Moment) :
    List ResponseValidationProfile :=
  history.filter fun profile => profile.applicableFrom ≤ cutoff ∧
    profile.publishedAt ≤ cutoff ∧ profile.knownAt ≤ cutoff

/-- The resolution among the profiles of one history. -/
def resolveAmong (history : List ResponseValidationProfile) (cutoff : Moment) :
    Py ResponseValidationProfileResolution := do
  let eligible := eligibleProfiles history cutoff
  require (eligible ≠ [])
    (.profileResolutionError "canonical profile history is unavailable at cutoff")
  let ids := eligible.map ResponseValidationProfile.publicationId
  require ids.Nodup
    (.profileResolutionError "canonical profile history contains duplicate identity")
  match profileHeads eligible with
  | [head] => do
      let walked ← profileLineage eligible (eligible.length + 1) head []
      require ((∀ id ∈ walked, id ∈ ids) ∧ ∀ id ∈ ids, id ∈ walked)
        (.profileResolutionError "canonical profile history contains disconnected branches")
      if exact : walked.getLast? = some head.publicationId then
        .ok ⟨cutoff, head, walked, exact⟩
      else
        .error (.profileResolutionError "profile resolution must preserve exact publication lineage")
  | _ => .error (.profileResolutionError "canonical profile history is ambiguous at cutoff")

def resolveStrictKnown (table : ProfileTable)
    (profileSelector contractIdentity contractVersion : String) (cutoff : Moment) :
    Py ResponseValidationProfileResolution := do
  let profileSelector ← requiredText "profile_selector" profileSelector
  let contractIdentity ← requiredText "requested_output_contract_identity" contractIdentity
  let contractVersion ← requiredText "requested_output_contract_version" contractVersion
  let history ← profileHistory table
    (profileApplicabilityKey profileSelector contractIdentity contractVersion)
  resolveAmong history cutoff

theorem profileFromRow_of (profile : ResponseValidationProfile) :
    profileFromRow (.of profile) = .ok profile := by
  simp [profileFromRow, ProfileRow.of, require]

/-- The profiles of one key: a line of versions with advancing times. -/
structure History (history : List ResponseValidationProfile) : Prop extends
    Lineage.Line ResponseValidationProfile.publicationId
      ResponseValidationProfile.supersedesPublicationId ResponseValidationProfile.profileVersion
      (fun a b => a.knownAt < b.knownAt) none 1 history where
  immediate : ∀ profile ∈ history,
    profile.applicableFrom = profile.knownAt ∧ profile.publishedAt = profile.knownAt

/-- The published profiles of a key, in the order of their publication. -/
def published (profiles : List ResponseValidationProfile) (key : String) :
    List ResponseValidationProfile :=
  profiles.filter fun profile => profile.spec.applicabilityKey = key

/-- What holds of the published profiles of a reachable table. -/
structure Histories (profiles : List ResponseValidationProfile) : Prop where
  distinct : (profiles.map ResponseValidationProfile.publicationId).Nodup
  history : ∀ key, History (published profiles key)

theorem History.snoc {front : List ResponseValidationProfile} {last : ResponseValidationProfile} :
    History (front ++ [last]) ↔ History front ∧
      last.supersedesPublicationId =
        Lineage.tip ResponseValidationProfile.publicationId none front ∧
      last.profileVersion = 1 + front.length ∧ (∀ profile ∈ front, profile.knownAt < last.knownAt) ∧
      last.applicableFrom = last.knownAt ∧ last.publishedAt = last.knownAt := by
  constructor
  · rintro ⟨line, immediate⟩
    obtain ⟨front_line, names, version, later⟩ := Lineage.Line.snoc.mp line
    refine ⟨⟨front_line, ?_⟩, names, version, later, ?_⟩
    · exact fun profile member => immediate profile (List.mem_append_left _ member)
    · exact immediate last (List.mem_append_right _ (List.mem_singleton_self last))
  · rintro ⟨⟨line, immediate⟩, names, version, later, exact_⟩
    refine ⟨Lineage.Line.snoc.mpr ⟨line, names, version, later⟩, ?_⟩
    intro profile member
    rcases List.mem_append.mp member with inside | single
    · exact immediate profile inside
    · rw [List.mem_singleton.mp single]
      exact exact_

theorem History.nil : History [] := ⟨Lineage.Line.nil, by simp⟩

/-- A history is stored in the order in which it is read. -/
theorem History.sorted {history : List ResponseValidationProfile} (h : History history) :
    (history.map ProfileRow.of).Pairwise fun a b => ProfileRow.before a b = true := by
  rw [List.pairwise_map]
  refine h.ordered.imp fun {a b} less => ?_
  have texts : a.knownAt.isoformat < b.knownAt.isoformat := isoformat_lt_iff.mpr less
  simp [ProfileRow.before, ProfileRow.of, texts]

theorem profileHistory_eq {profiles : List ResponseValidationProfile} (h : Histories profiles)
    (key : String) :
    profileHistory (profiles.map ProfileRow.of) key = .ok (published profiles key) := by
  have rows : (profiles.map ProfileRow.of).filter (fun row => row.applicabilityKey = key) =
      (published profiles key).map ProfileRow.of := by
    rw [List.filter_map]
    rfl
  rw [profileHistory, rows, List.mergeSort_of_pairwise (h.history key).sorted, List.mapM_map]
  have all : (published profiles key).mapM (fun profile => profileFromRow (.of profile)) =
      .ok ((published profiles key).map id) :=
    mapM_ok_of_forall fun profile _ => profileFromRow_of profile
  rwa [List.map_id] at all

theorem histories_empty : Histories [] := ⟨List.nodup_nil, fun _ => History.nil⟩

/-- The head of a history is its last profile. -/
theorem profileHead_eq {profiles : List ResponseValidationProfile} (h : Histories profiles)
    (key : String) :
    profileHead (published profiles key) = .ok (published profiles key).getLast? := by
  have distinct : ((published profiles key).map ResponseValidationProfile.publicationId).Nodup :=
    h.distinct.sublist (List.filter_sublist.map _)
  have linked := (h.history key).linked
  rcases List.eq_nil_or_concat (published profiles key) with empty | ⟨front, last, eq⟩
  · rw [empty]
    rfl
  · rw [List.concat_eq_append] at eq
    rw [eq] at distinct linked ⊢
    have single := Lineage.heads_snoc linked distinct
    rw [List.getLast?_concat]
    cases front with
    | nil =>
        rw [List.nil_append] at single ⊢
        simp [profileHead, profileHeads, single]
    | cons first rest =>
        rw [List.cons_append] at single ⊢
        simp [profileHead, profileHeads, single]

theorem insertProfile_ok {table after : ProfileTable} {row : ProfileRow} :
    insertProfile table row = .ok after ↔
      (∀ other ∈ table, row.clashes other = false) ∧ after = table ++ [row] := by
  rw [insertProfile, require_bind_ok, Except.ok.injEq, List.all_eq_true, eq_comm (a := after)]
  simp only [Bool.not_eq_true']

theorem published_append (profiles : List ResponseValidationProfile)
    (profile : ResponseValidationProfile) (key : String) :
    published (profiles ++ [profile]) key = published profiles key ++
      if profile.spec.applicabilityKey = key then [profile] else [] := by
  rw [published, List.filter_append, List.filter_singleton]
  simp [published]

/-- The history of a profile that follows what is published under its key. -/
structure Follows (profiles : List ResponseValidationProfile) (profile : ResponseValidationProfile) :
    Prop where
  fresh : profile.publicationId ∉ profiles.map ResponseValidationProfile.publicationId
  history : History (published profiles profile.spec.applicabilityKey ++ [profile])

theorem Follows.histories {profiles : List ResponseValidationProfile}
    {profile : ResponseValidationProfile} (next : Follows profiles profile)
    (h : Histories profiles) : Histories (profiles ++ [profile]) := by
  refine ⟨?_, fun key => ?_⟩
  · rw [List.map_append]
    refine List.nodup_append.mpr ⟨h.distinct, List.nodup_singleton _, ?_⟩
    intro id member other single same
    rw [List.mem_singleton.mp single] at same
    exact next.fresh (same ▸ member)
  · rw [published_append]
    by_cases own : profile.spec.applicabilityKey = key
    · rw [if_pos own, ← own]
      exact next.history
    · rw [if_neg own, List.append_nil]
      exact h.history key

/-- An accepted publication appends what the factory makes of the head. The line goes
on when the clock has advanced. -/
theorem publishAuthorized_ok {profiles : List ResponseValidationProfile} (h : Histories profiles)
    {key : String} {factory : Option ResponseValidationProfile → Py ResponseValidationProfile}
    {profile : ResponseValidationProfile} {table : ProfileTable}
    (ok : publishAuthorized (profiles.map ProfileRow.of) key factory = .ok (profile, table))
    (times : factory (published profiles key).getLast? = .ok profile →
      (profile.applicableFrom = profile.knownAt ∧ profile.publishedAt = profile.knownAt) ∧
        ∀ head ∈ (published profiles key).getLast?, head.knownAt < profile.knownAt) :
    table = (profiles ++ [profile]).map ProfileRow.of ∧ Follows profiles profile := by
  rw [publishAuthorized, profileHistory_eq h, ok_bind, profileHead_eq h, ok_bind, bind_ok] at ok
  obtain ⟨made, built, ok⟩ := ok
  rw [require_bind_ok] at ok
  obtain ⟨scope, ok⟩ := ok
  rw [check_ok, bind_ok] at ok
  obtain ⟨place, after, inserted, done⟩ := ok
  cases done
  obtain ⟨free, rfl⟩ := insertProfile_ok.mp inserted
  obtain ⟨immediate, advanced⟩ := times built
  refine ⟨by rw [List.map_append]; rfl, ?_, ?_⟩
  · intro member
    obtain ⟨other, inside, same⟩ := List.mem_map.mp member
    have clash := free (.of other) (List.mem_map_of_mem inside)
    simp [ProfileRow.clashes, ProfileRow.of, same] at clash
  · rw [scope]
    rcases List.eq_nil_or_concat (published profiles key) with empty | ⟨front, last, eq⟩
    · rw [empty, List.getLast?_nil, requireSuccessor, require_ok] at place
      rw [empty]
      exact History.snoc.mpr ⟨History.nil, place.2.2, place.2.1, by simp, immediate⟩
    · rw [List.concat_eq_append] at eq
      have line := h.history key
      rw [eq] at line
      obtain ⟨-, -, version, later, -⟩ := History.snoc.mp line
      rw [eq, List.getLast?_concat] at place advanced
      rw [requireSuccessor, require_bind_ok, require_ok] at place
      rw [eq]
      refine History.snoc.mpr ⟨line, ?_, ?_, ?_, immediate⟩
      · rw [Lineage.tip_append_singleton]
        exact place.2
      · rw [place.1, version, List.length_append, List.length_singleton, Nat.add_assoc]
      · intro other member
        have last_lt := advanced last rfl
        rcases List.mem_append.mp member with inside | single
        · exact (later other inside).trans last_lt
        · rw [List.mem_singleton.mp single]
          exact last_lt

theorem publishProfile_ok {profiles : List ResponseValidationProfile} (h : Histories profiles)
    {now : ClockReading} {spec : ResponseValidationProfileSpec} {profile : ResponseValidationProfile}
    {table : ProfileTable}
    (ok : publishProfile now (profiles.map ProfileRow.of) spec = .ok (profile, table)) :
    table = (profiles ++ [profile]).map ProfileRow.of ∧ Follows profiles profile := by
  refine publishAuthorized_ok h ok fun built => ?_
  rw [require_bind_ok, bind_ok] at built
  obtain ⟨first, cutoff, -, made⟩ := built
  cases made
  refine ⟨⟨rfl, rfl⟩, fun head found => ?_⟩
  rw [first] at found
  cases found

theorem supersedeProfile_ok {profiles : List ResponseValidationProfile} (h : Histories profiles)
    {now : ClockReading} {predecessor reason : String} {spec : ResponseValidationProfileSpec}
    {profile : ResponseValidationProfile} {table : ProfileTable}
    (ok : supersedeProfile now (profiles.map ProfileRow.of) predecessor spec reason =
      .ok (profile, table)) :
    table = (profiles ++ [profile]).map ProfileRow.of ∧ Follows profiles profile := by
  rw [supersedeProfile, bind_ok] at ok
  obtain ⟨-, -, ok⟩ := ok
  rw [bind_ok] at ok
  obtain ⟨correction, -, ok⟩ := ok
  refine publishAuthorized_ok h ok fun built => ?_
  cases head : (published profiles spec.applicabilityKey).getLast? with
  | none =>
      rw [head] at built
      cases built
  | some last =>
      rw [head] at built
      replace built := require_bind_ok.mp (require_bind_ok.mp built).2
      obtain ⟨cutoff, -, built⟩ := bind_ok.mp built.2
      obtain ⟨advanced, made⟩ := require_bind_ok.mp built
      cases made
      refine ⟨⟨rfl, rfl⟩, fun other found => ?_⟩
      cases found
      exact Fin.not_le.mp advanced

/-- A call of the profile authority, with the reading its clock gives. -/
inductive Publication where
  | publish (now : ClockReading) (spec : ResponseValidationProfileSpec)
  | supersede (now : ClockReading) (predecessorPublicationId : String)
      (spec : ResponseValidationProfileSpec) (correctionReason : String)

def Publication.run (table : ProfileTable) : Publication →
    Py (ResponseValidationProfile × ProfileTable)
  | .publish now spec => publishProfile now table spec
  | .supersede now predecessor spec reason => supersedeProfile now table predecessor spec reason

/-- A call and the table its transaction leaves. -/
def Publishes (table : ProfileTable) (call : Publication) (after : ProfileTable) : Prop :=
  after = committed table (call.run table)

theorem Publication.run_ok {profiles : List ResponseValidationProfile} (h : Histories profiles)
    {call : Publication} {profile : ResponseValidationProfile} {table : ProfileTable}
    (ok : call.run (profiles.map ProfileRow.of) = .ok (profile, table)) :
    table = (profiles ++ [profile]).map ProfileRow.of ∧ Follows profiles profile := by
  cases call with
  | publish now spec => exact publishProfile_ok h ok
  | supersede now predecessor spec reason => exact supersedeProfile_ok h ok

/-- A table of the rows of histories. -/
def Stored (table : ProfileTable) : Prop :=
  ∃ profiles : List ResponseValidationProfile,
    table = profiles.map ProfileRow.of ∧ Histories profiles

theorem Publishes.stored {table after : ProfileTable} {call : Publication}
    (step : Publishes table call after) (h : Stored table) : Stored after := by
  obtain ⟨profiles, rfl, histories⟩ := h
  rw [step]
  refine committed_cases ⟨profiles, rfl, histories⟩ fun profile after ok => ?_
  obtain ⟨rows, next⟩ := Publication.run_ok histories ok
  exact ⟨profiles ++ [profile], rows, next.histories histories⟩

theorem run_stored {calls : List Publication} {table : ProfileTable}
    (run : Run Publishes [] calls table) : Stored table :=
  run.preserves Stored (fun _ _ _ h step => step.stored h)
    ⟨[], rfl, List.nodup_nil, fun _ => History.nil⟩

/-- A history is cut at a cutoff: what was known, and what became known later. -/
theorem History.cut {history : List ResponseValidationProfile} (h : History history)
    (cutoff : Moment) :
    ∃ front back, history = front ++ back ∧ (∀ profile ∈ front, profile.knownAt ≤ cutoff) ∧
      ∀ profile ∈ back, cutoff < profile.knownAt := by
  obtain ⟨front, back, split, early, late⟩ := Lineage.cut
    (P := fun profile : ResponseValidationProfile => profile.knownAt ≤ cutoff)
    (h.ordered.imp fun {a b} less known => Fin.le_trans (Fin.le_of_lt less) known)
  exact ⟨front, back, split, early, fun profile member => Fin.not_le.mp (late profile member)⟩

theorem History.front {front back : List ResponseValidationProfile} (h : History (front ++ back)) :
    History front :=
  ⟨h.toLine.front, fun profile member => h.immediate profile (List.mem_append_left _ member)⟩

/-- The walk from the last profile of a line visits the whole line. -/
theorem profileLineage_line {eligible : List ResponseValidationProfile}
    (distinct : (eligible.map ResponseValidationProfile.publicationId).Nodup) {fuel : Nat}
    {front : List ResponseValidationProfile} {last : ResponseValidationProfile} {walked : List String}
    (line : History (front ++ [last])) (inside : ∀ profile ∈ front ++ [last], profile ∈ eligible)
    (enough : front.length < fuel)
    (apart : ((front ++ [last]).map ResponseValidationProfile.publicationId ++ walked).Nodup) :
    profileLineage eligible fuel last walked =
      .ok ((front ++ [last]).map ResponseValidationProfile.publicationId ++ walked) := by
  induction front using List.reverseRecOn generalizing fuel last walked with
  | nil =>
      obtain ⟨-, names, version, -⟩ := History.snoc.mp line
      cases fuel with
      | zero => exact absurd enough (Nat.not_lt_zero _)
      | succ fuel =>
          have fresh : last.publicationId ∉ walked := (List.nodup_cons.mp apart).1
          rw [profileLineage, require_of fresh, ok_bind, names]
          simp only [Lineage.tip_nil]
          rw [require_of (show last.profileVersion = 1 from version)]
          rfl
  | append_singleton front before ih =>
      obtain ⟨front_line, names, version, -⟩ := History.snoc.mp line
      obtain ⟨-, -, before_version, -⟩ := History.snoc.mp front_line
      rw [Lineage.tip_append_singleton] at names
      cases fuel with
      | zero => exact absurd enough (Nat.not_lt_zero _)
      | succ fuel =>
          rw [List.map_append, List.append_assoc, List.map_singleton, List.singleton_append] at apart
          have fresh : last.publicationId ∉ walked :=
            (List.nodup_cons.mp (List.nodup_append.mp apart).2.1).1
          have member : before ∈ eligible := inside before (by simp)
          have found : (eligible.find? fun profile =>
              profile.publicationId = before.publicationId) = some before :=
            Lineage.find?_key distinct member
          rw [profileLineage, require_of fresh, ok_bind, names]
          simp only [found]
          rw [require_of (by rw [before_version, version]; simp [Nat.add_assoc]), ok_bind,
            ih front_line (fun profile member => inside profile (List.mem_append_left _ member))
              (by simpa using enough) apart]
          simp

theorem eligible_late {history : List ResponseValidationProfile} {cutoff : Moment}
    (late : ∀ profile ∈ history, cutoff < profile.knownAt) : eligibleProfiles history cutoff = [] := by
  refine List.filter_eq_nil_iff.mpr fun profile member known => ?_
  simp only [decide_eq_true_eq] at known
  exact absurd (late profile member) (Fin.not_lt.mpr known.2.2)

theorem eligible_append (history later : List ResponseValidationProfile) (cutoff : Moment) :
    eligibleProfiles (history ++ later) cutoff =
      eligibleProfiles history cutoff ++ eligibleProfiles later cutoff :=
  List.filter_append ..

theorem eligible_early {history : List ResponseValidationProfile} {cutoff : Moment}
    (h : History history) (early : ∀ profile ∈ history, profile.knownAt ≤ cutoff) :
    eligibleProfiles history cutoff = history := by
  refine List.filter_eq_self.mpr fun profile member => ?_
  obtain ⟨applicable, published⟩ := h.immediate profile member
  rw [applicable, published]
  simpa using early profile member

/-- Before its genesis was known a history resolves to nothing. -/
theorem resolveAmong_unknown {history : List ResponseValidationProfile} {cutoff : Moment}
    (late : ∀ profile ∈ history, cutoff < profile.knownAt) :
    resolveAmong history cutoff =
      .error (.profileResolutionError "canonical profile history is unavailable at cutoff") := by
  rw [resolveAmong, eligible_late late]
  rfl

/-- A history resolves to the last profile that was known, with the line up to it. -/
theorem resolveAmong_known {front back : List ResponseValidationProfile}
    {last : ResponseValidationProfile} {cutoff : Moment}
    (h : History (front ++ [last] ++ back))
    (distinct : ((front ++ [last] ++ back).map ResponseValidationProfile.publicationId).Nodup)
    (known : ∀ profile ∈ front ++ [last], profile.knownAt ≤ cutoff)
    (late : ∀ profile ∈ back, cutoff < profile.knownAt) :
    ∃ exact, resolveAmong (front ++ [last] ++ back) cutoff =
      .ok ⟨cutoff, last, (front ++ [last]).map ResponseValidationProfile.publicationId, exact⟩ := by
  have line := h.front
  have eligible : eligibleProfiles (front ++ [last] ++ back) cutoff = front ++ [last] := by
    rw [eligible_append, eligible_early line known, eligible_late late, List.append_nil]
  have ids : ((front ++ [last]).map ResponseValidationProfile.publicationId).Nodup := by
    rw [List.map_append] at distinct
    exact (List.nodup_append.mp distinct).1
  have enough : front.length < (front ++ [last]).length + 1 := by
    rw [List.length_append]
    omega
  have walk : profileLineage (front ++ [last]) ((front ++ [last]).length + 1) last [] =
      .ok ((front ++ [last]).map ResponseValidationProfile.publicationId ++ []) :=
    profileLineage_line ids line (fun _ member => member) enough (by simpa using ids)
  have exact_ : ((front ++ [last]).map ResponseValidationProfile.publicationId).getLast? =
      some last.publicationId := by simp
  refine ⟨exact_, ?_⟩
  rw [List.append_nil] at walk
  rw [resolveAmong, eligible, require_of (by simp), ok_bind]
  dsimp only
  rw [require_of ids, ok_bind, profileHeads, Lineage.heads_snoc line.linked ids]
  simp only [walk, ok_bind]
  rw [require_of ⟨fun _ member => member, fun _ member => member⟩, ok_bind, dif_pos exact_]

/-- What a history resolves to at a cutoff: its latest known profile with the lineage
from the genesis. -/
structure Resolves (history : List ResponseValidationProfile) (cutoff : Moment)
    (resolution : ResponseValidationProfileResolution) : Prop where
  cutoff_eq : resolution.validationCutoff = cutoff
  member : resolution.profile ∈ history
  known : resolution.profile.knownAt ≤ cutoff
  latest : ∀ profile ∈ history, profile.knownAt ≤ cutoff →
    profile.profileVersion ≤ resolution.profile.profileVersion
  lineage : resolution.publicationLineage =
    (history.take resolution.profile.profileVersion).map ResponseValidationProfile.publicationId

/-- The resolution among the profiles of a history. -/
theorem resolveAmong_spec {history : List ResponseValidationProfile} (h : History history)
    (distinct : (history.map ResponseValidationProfile.publicationId).Nodup) (cutoff : Moment) :
    ((∃ resolution, resolveAmong history cutoff = .ok resolution) ↔
      ∃ genesis ∈ history, genesis.profileVersion = 1 ∧ genesis.knownAt ≤ cutoff) ∧
    ∀ resolution, resolveAmong history cutoff = .ok resolution →
      Resolves history cutoff resolution := by
  obtain ⟨front, back, rfl, early, late⟩ := h.cut cutoff
  rcases List.eq_nil_or_concat front with rfl | ⟨before, last, rfl⟩
  · have unknown := resolveAmong_unknown late
    rw [List.nil_append]
    refine ⟨iff_of_false ?_ ?_, fun resolution found => ?_⟩
    · rintro ⟨resolution, found⟩
      rw [unknown] at found
      cases found
    · rintro ⟨genesis, member, -, known⟩
      exact absurd (late genesis member) (Fin.not_lt.mpr known)
    · rw [unknown] at found
      cases found
  · rw [List.concat_eq_append] at *
    obtain ⟨exact_, found⟩ := resolveAmong_known h distinct early late
    obtain ⟨-, -, version, -⟩ := History.snoc.mp h.front
    refine ⟨iff_of_true ⟨_, found⟩ ?_, fun resolution other => ?_⟩
    · have versions := h.front.numbered
      cases first : before ++ [last] with
      | nil => simp at first
      | cons genesis rest =>
          rw [first, List.map_cons, List.length_cons, List.range'_succ] at versions
          refine ⟨genesis, ?_, (List.cons.inj versions).1, early genesis ?_⟩ <;> simp [first]
    · rw [found] at other
      cases other
      refine ⟨rfl, by simp, early last (by simp), ?_, ?_⟩
      · intro profile member known
        rcases List.mem_append.mp member with inside | later
        · have place := h.front.number_lt inside
          rw [List.length_append, List.length_singleton] at place
          dsimp only
          omega
        · exact absurd (late profile later) (Fin.not_lt.mpr known)
      · dsimp only
        rw [version, List.take_left' (by simp [Nat.add_comm])]

/-- What becomes known after a cutoff does not change the answer for it. -/
theorem resolveAmong_later {history : List ResponseValidationProfile} {cutoff : Moment}
    {later : ResponseValidationProfile} (h : cutoff < later.knownAt) :
    resolveAmong (history ++ [later]) cutoff = resolveAmong history cutoff := by
  have unseen : eligibleProfiles [later] cutoff = [] :=
    eligible_late fun profile single => (List.mem_singleton.mp single) ▸ h
  rw [resolveAmong, resolveAmong, eligible_append, unseen, List.append_nil]

theorem resolveStrictKnown_eq {profiles : List ResponseValidationProfile} (h : Histories profiles)
    (selector contract version : CanonicalText) (cutoff : Moment) :
    resolveStrictKnown (profiles.map ProfileRow.of) selector.val contract.val version.val cutoff =
      resolveAmong (published profiles (profileApplicabilityKey selector contract version))
        cutoff := by
  have read : ∀ name (text : CanonicalText), requiredText name text.val = .ok text :=
    fun name text => requiredText_ok.mpr rfl
  rw [resolveStrictKnown, read, ok_bind, read, ok_bind, read, ok_bind, profileHistory_eq h, ok_bind]

/-- A call whose profile, when it is accepted, becomes known after the cutoff. -/
def PublishesLater (cutoff : Moment) (table : ProfileTable) (call : Publication)
    (after : ProfileTable) : Prop :=
  Publishes table call after ∧
    ∀ profile stored, call.run table = .ok (profile, stored) → cutoff < profile.knownAt

theorem PublishesLater.resolve {cutoff : Moment} {table after : ProfileTable} {call : Publication}
    (step : PublishesLater cutoff table call after) (h : Stored table)
    (selector contract version : CanonicalText) :
    resolveStrictKnown after selector.val contract.val version.val cutoff =
      resolveStrictKnown table selector.val contract.val version.val cutoff := by
  obtain ⟨profiles, rfl, histories⟩ := h
  obtain ⟨step, later⟩ := step
  rw [step]
  refine committed_cases (P := fun after =>
    resolveStrictKnown after selector.val contract.val version.val cutoff = _) rfl
    fun profile after ok => ?_
  obtain ⟨rfl, next⟩ := Publication.run_ok histories ok
  rw [resolveStrictKnown_eq (next.histories histories), resolveStrictKnown_eq histories,
    published_append]
  by_cases own : profile.spec.applicabilityKey = profileApplicabilityKey selector contract version
  · rw [if_pos own]
    exact resolveAmong_later (later _ _ ok)
  · rw [if_neg own, List.append_nil]

/-- Strict-known resolution: at every cutoff a history that any sequence of calls has
left resolves exactly when its genesis was known, to the latest version that was known
and the lineage up to it. The profile that a further call returns ends its history, and
calls that publish later change nothing. -/
theorem resolveStrictKnown_history {calls : List Publication} {table : ProfileTable}
    (run : Run Publishes [] calls table) (selector contract version : CanonicalText)
    (cutoff : Moment) :
    ∃ history,
      profileHistory table (profileApplicabilityKey selector contract version) = .ok history ∧
      history.map ResponseValidationProfile.profileVersion = List.range' 1 history.length ∧
      ((∃ resolution, resolveStrictKnown table selector.val contract.val version.val cutoff =
          .ok resolution) ↔
        ∃ genesis ∈ history, genesis.profileVersion = 1 ∧ genesis.knownAt ≤ cutoff) ∧
      (∀ resolution, resolveStrictKnown table selector.val contract.val version.val cutoff =
          .ok resolution → Resolves history cutoff resolution) ∧
      (∀ (call : Publication) profile after, call.run table = .ok (profile, after) →
        profile.spec.applicabilityKey = profileApplicabilityKey selector contract version →
        profileHistory after (profileApplicabilityKey selector contract version) =
            .ok (history ++ [profile]) ∧
          profile.profileVersion = history.length + 1) ∧
      ∀ later after, Run (PublishesLater cutoff) table later after →
        resolveStrictKnown after selector.val contract.val version.val cutoff =
          resolveStrictKnown table selector.val contract.val version.val cutoff := by
  obtain ⟨profiles, rfl, histories⟩ := run_stored run
  have key := histories.history (profileApplicabilityKey selector contract version)
  have distinct := histories.distinct.sublist
    ((List.filter_sublist (p := fun profile => decide (profile.spec.applicabilityKey =
      profileApplicabilityKey selector contract version))).map _)
  refine ⟨_, profileHistory_eq histories _, key.numbered, ?_⟩
  rw [resolveStrictKnown_eq histories]
  refine ⟨(resolveAmong_spec key distinct cutoff).1, (resolveAmong_spec key distinct cutoff).2, ?_, ?_⟩
  · intro call profile after ok own
    obtain ⟨rfl, next⟩ := Publication.run_ok histories ok
    have line := next.history
    rw [own] at line
    obtain ⟨-, -, number, -⟩ := History.snoc.mp line
    rw [profileHistory_eq (next.histories histories), published_append, if_pos own, number, Nat.add_comm]
    exact ⟨rfl, rfl⟩
  intro later after rest
  rw [← resolveStrictKnown_eq histories]
  refine (rest.preserves (fun after => Stored after ∧ resolveStrictKnown after selector.val
    contract.val version.val cutoff = _) ?_ ⟨⟨profiles, rfl, histories⟩, rfl⟩).2
  rintro before call after ⟨stored, same⟩ step
  exact ⟨step.1.stored stored, (step.resolve stored selector contract version).trans same⟩

def sampleText : CanonicalText := ⟨"a", by decide⟩

def sampleSpec : ResponseValidationProfileSpec where
  profileSelector := sampleText
  requestedOutputContractIdentity := sampleText
  requestedOutputContractVersion := sampleText
  validatorContractIdentity := sampleText
  validatorContractVersion := sampleText
  syntaxSchemaRuleIdentity := sampleText
  syntaxSchemaRuleVersion := sampleText
  parserCanonicalizationIdentity := sampleText
  parserCanonicalizationVersion := sampleText
  evidenceReferenceRuleIdentity := sampleText
  evidenceReferenceRuleVersion := sampleText
  resourcePolicyIdentity := sampleText
  resourcePolicyVersion := sampleText
  requiredDimensions := [sampleText]
  dimensions_ne := List.cons_ne_nil _ _
  dimensions_sorted := List.pairwise_singleton _ _
  securityRule := none

/-- A genesis goes into an empty table. -/
theorem publishProfile_genesis (spec : ResponseValidationProfileSpec) (now : Moment) :
    publishProfile (some now) [] spec =
      .ok (genesisProfile spec now, [.of (genesisProfile spec now)]) := by
  have scope : (genesisProfile spec now).spec.applicabilityKey = spec.applicabilityKey := rfl
  have history : profileHistory [] spec.applicabilityKey = .ok [] :=
    profileHistory_eq histories_empty _
  rw [publishProfile, publishAuthorized, history, ok_bind, profileHead, ok_bind, require_of rfl,
    ok_bind, clockNow, ok_bind, ok_bind, require_of scope, ok_bind, requireSuccessor,
    require_of ⟨rfl, rfl, rfl⟩, ok_bind, insertProfile]
  rfl

/-- A genesis that stands alone is superseded. -/
theorem supersedeProfile_genesis {spec : ResponseValidationProfileSpec} {now later : Moment}
    {reason : CanonicalText} (advanced : now < later)
    (apart : (successorProfile (genesisProfile spec now) spec later reason).publicationId ≠
      (genesisProfile spec now).publicationId) :
    supersedeProfile (some later) [.of (genesisProfile spec now)] (genesisProfile spec now).publicationId spec
        reason.val =
      .ok (successorProfile (genesisProfile spec now) spec later reason,
        [.of (genesisProfile spec now), .of (successorProfile (genesisProfile spec now) spec later reason)]) := by
  have histories : Histories ([] ++ [genesisProfile spec now]) :=
    (publishProfile_ok histories_empty (publishProfile_genesis spec now)).2.histories histories_empty
  have same : (genesisProfile spec now).spec.applicabilityKey = spec.applicabilityKey := rfl
  have advances : ¬later ≤ (genesisProfile spec now).knownAt := Fin.not_le.mpr advanced
  have own : published ([] ++ [genesisProfile spec now]) spec.applicabilityKey = [genesisProfile spec now] := by
    rw [published_append, if_pos same]
    rfl
  have history : profileHistory [.of (genesisProfile spec now)] spec.applicabilityKey =
      .ok [genesisProfile spec now] := own ▸ profileHistory_eq histories spec.applicabilityKey
  have head : profileHead [genesisProfile spec now] = .ok (some (genesisProfile spec now)) := by
    have last := profileHead_eq histories spec.applicabilityKey
    rwa [own] at last
  obtain ⟨text, named⟩ : ∃ text : CanonicalText, text.val = (genesisProfile spec now).publicationId :=
    ⟨identityText "response-validation-profile-publication" _ (String.forall_scalars_of_all (by decide)), rfl⟩
  generalize made : successorProfile (genesisProfile spec now) spec later reason = successor at apart ⊢
  have scope : successor.spec.applicabilityKey = spec.applicabilityKey := made ▸ rfl
  have version : successor.profileVersion = (genesisProfile spec now).profileVersion + 1 := made ▸ rfl
  have names : successor.supersedesPublicationId = some (genesisProfile spec now).publicationId := made ▸ rfl
  have free : ([ProfileRow.of (genesisProfile spec now)].all fun other =>
      !ProfileRow.clashes (.of successor) other) = true := by
    have first : (genesisProfile spec now).supersedesPublicationId = none := rfl
    have one : (genesisProfile spec now).profileVersion = 1 := rfl
    simp [ProfileRow.clashes, ProfileRow.of, apart, version, names, first, one]
  rw [supersedeProfile, requiredText_ok.mpr named, ok_bind, requiredText_ok.mpr rfl, ok_bind, publishAuthorized,
    history, ok_bind, head, ok_bind]
  dsimp only
  rw [require_of rfl, ok_bind, require_of same, ok_bind, clockNow, ok_bind,
    require_of advances, ok_bind, made, ok_bind, require_of scope, ok_bind, requireSuccessor,
    require_of version, ok_bind, require_of names, ok_bind, insertProfile, require_of free]
  rfl

def sampleGenesis : ResponseValidationProfile := genesisProfile sampleSpec ⟨5, five_lt_end⟩

def sampleSuccessor : ResponseValidationProfile :=
  successorProfile sampleGenesis sampleSpec ⟨9, nine_lt_end⟩ sampleText

/-- The digests of the two publications, each evaluated once. -/
theorem sampleSuccessor_ne : sampleSuccessor.publicationId ≠ sampleGenesis.publicationId := by
  have genesis : sampleGenesis.publicationId = "response-validation-profile-publication:" ++
      "65d25db6c2c75db00903193dbb9e1a23963efe445ba54cd868ec0f588bc1fb23" :=
    identity_text (by decide)
  have successor : sampleSuccessor.publicationId = "response-validation-profile-publication:" ++
      "19c3c0d4f04e43a204ede1b02c69b7234f146773dd584e744f855dd3ee86ac0c" := by
    unfold ResponseValidationProfile.publicationId ResponseValidationProfile.members
    dsimp only [sampleSuccessor, successorProfile]
    rw [genesis]
    exact identity_text (by decide)
  rw [genesis, successor]
  decide

/-- Between the genesis and its successor the genesis is known, and later the successor. -/
theorem resolveStrictKnown_history_sample :
    (∃ resolution, resolveStrictKnown [.of sampleGenesis, .of sampleSuccessor] "a" "a" "a" ⟨7, by decide⟩ =
      .ok resolution ∧ resolution.profile = sampleGenesis ∧
        resolution.publicationLineage = [sampleGenesis.publicationId]) ∧
    ∃ resolution, resolveStrictKnown [.of sampleGenesis, .of sampleSuccessor] "a" "a" "a" ⟨11, by decide⟩ =
      .ok resolution ∧ resolution.profile = sampleSuccessor ∧
        resolution.publicationLineage = [sampleGenesis.publicationId, sampleSuccessor.publicationId] := by
  have publishes : (Publication.publish (some ⟨5, by decide⟩) sampleSpec).run [] =
      .ok (sampleGenesis, [.of sampleGenesis]) := publishProfile_genesis sampleSpec ⟨5, by decide⟩
  have supersedes : (Publication.supersede (some ⟨9, by decide⟩) sampleGenesis.publicationId sampleSpec "a").run
      [.of sampleGenesis] = .ok (sampleSuccessor, [.of sampleGenesis, .of sampleSuccessor]) :=
    supersedeProfile_genesis (by decide) sampleSuccessor_ne
  have first : Run Publishes [] _ [.of sampleGenesis] := Run.nil.snoc (by rw [Publishes, publishes]; rfl)
  have run : Run Publishes [] _ [.of sampleGenesis, .of sampleSuccessor] :=
    first.snoc (by rw [Publishes, supersedes]; rfl)
  have history : profileHistory [.of sampleGenesis, .of sampleSuccessor]
      (profileApplicabilityKey sampleText sampleText sampleText) = .ok [sampleGenesis, sampleSuccessor] := by
    obtain ⟨none, read, -, -, -, returned, -⟩ :=
      resolveStrictKnown_history Run.nil sampleText sampleText sampleText ⟨7, by decide⟩
    obtain ⟨one, read₁, -, -, -, returned₁, -⟩ :=
      resolveStrictKnown_history first sampleText sampleText sampleText ⟨7, by decide⟩
    cases Except.ok.inj ((profileHistory_eq histories_empty _).symm.trans read)
    cases Except.ok.inj ((returned _ _ _ publishes rfl).1.symm.trans read₁)
    exact (returned₁ _ _ _ supersedes rfl).1
  have resolved (cutoff : Moment) (known : sampleGenesis.knownAt ≤ cutoff) :
      ∃ resolution, resolveStrictKnown [.of sampleGenesis, .of sampleSuccessor] "a" "a" "a" cutoff =
        .ok resolution ∧ Resolves [sampleGenesis, sampleSuccessor] cutoff resolution := by
    obtain ⟨both, read, -, resolves, resolution_of, -⟩ :=
      resolveStrictKnown_history run sampleText sampleText sampleText cutoff
    cases Except.ok.inj (history.symm.trans read)
    obtain ⟨resolution, found⟩ := resolves.mpr ⟨sampleGenesis, List.mem_cons_self, rfl, known⟩
    exact ⟨resolution, found, resolution_of resolution found⟩
  constructor
  · obtain ⟨resolution, found, resolves⟩ := resolved ⟨7, by decide⟩ (by decide)
    have lineage := resolves.lineage
    rcases List.mem_cons.mp resolves.member with first | second
    · rw [first] at lineage
      exact ⟨resolution, found, first, lineage⟩
    · have late := resolves.known
      rw [List.mem_singleton.mp second] at late
      exact absurd late (by decide)
  · obtain ⟨resolution, found, resolves⟩ := resolved ⟨11, by decide⟩ (by decide)
    have lineage := resolves.lineage
    rcases List.mem_cons.mp resolves.member with first | second
    · have least := resolves.latest sampleSuccessor (List.mem_cons_of_mem _ List.mem_cons_self) (by decide)
      rw [first] at least
      exact absurd least (by decide)
    · rw [List.mem_singleton.mp second] at lineage
      exact ⟨resolution, found, List.mem_singleton.mp second, lineage⟩

end Hunter.ResponseValidator
