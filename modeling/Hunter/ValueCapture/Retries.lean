import Hunter.Machine.Run
import Hunter.Text.Joined
import Hunter.ValueCapture.Ingestion

/-!
Acquisitions that are ingested again. The identities of a record are computed before the conflict
policy may mark it, from what is stored at the time, and a correction that is stored is a branch of
its own predecessor. Where neither happens, the identities bind what is stored, and an ingestion
that was accepted is accepted again and changes nothing.
-/

namespace Hunter.ValueCapture

open Fallible
open MarketValidation (blank sha256 blank_sha256 sha256_length sha256_ofList)

variable {authorities : Authorities} {stored after : Store} {ingestion : Ingestion} {record : Record}

section

variable {recordId logicalId contentHash : String} (nonblank : blank recordId = false ∧ blank logicalId = false)

theorem identified_envelope (record : Record) :
    (record.identified recordId logicalId contentHash nonblank).envelope =
      record.envelope.identified recordId logicalId contentHash := by
  cases record <;> rfl

theorem identified_asdict (record : Record) :
    (record.identified recordId logicalId contentHash nonblank).asdict = record.asdict := by
  cases record <;> rfl

theorem identified_logicalText (record : Record) :
    (record.identified recordId logicalId contentHash nonblank).logicalText = record.logicalText := by
  cases record <;> rfl

end

/-- The identities of a record are the digests of what it says. -/
structure ContentBound (record : Record) : Prop where
  content : record.envelope.contentHash = record.contentHashOf record.envelope.logicalId
  identity : record.recordId = sha256 (record.envelope.logicalId ++ ":" ++ record.envelope.contentHash)

theorem normalize_bound (record : Record) : ContentBound record.normalize := by
  have envelope := @identified_envelope
    (sha256 (record.logicalIdOf ++ ":" ++ record.contentHashOf record.logicalIdOf))
    record.logicalIdOf (record.contentHashOf record.logicalIdOf) ⟨blank_sha256 _, blank_sha256 _⟩ record
  refine ⟨?_, ?_⟩
  · unfold Record.contentHashOf Record.normalize
    rw [identified_asdict, envelope]
    rfl
  · unfold Record.recordId Record.normalize
    rw [envelope]
    rfl

theorem normalize_logicalText (record : Record) : record.normalize.logicalText = record.logicalText :=
  identified_logicalText ⟨blank_sha256 _, blank_sha256 _⟩ record

theorem normalize_logicalId (record : Record) :
    record.normalize.envelope.logicalId = record.normalize.logicalIdOf := by
  unfold Record.logicalIdOf
  rw [normalize_logicalText]
  unfold Record.normalize
  rw [identified_envelope]
  rfl

def identityTexts (record : Record) : List String :=
  let identity := record.envelope.identity
  [identity.entityId, identity.economicClaimId, identity.assetId, identity.representationId,
    identity.tokenId, identity.chain, identity.contractAddress]

/-- The separator of logical texts is in none of the texts of the identity. -/
def Plain (record : Record) : Prop := ∀ text ∈ identityTexts record, '|' ∉ text.toList

theorem logicalText_inj {a b : Record} (plain : Plain a) (plain' : Plain b) (same : a.logicalText = b.logicalText) :
    a.envelope.identity = b.envelope.identity ∧ a.category = b.category := by
  obtain ⟨texts, category⟩ := @Joined.intercalate_inj "|" '|' (by decide) (identityTexts a) (identityTexts b)
    a.category b.category plain plain' rfl same
  refine ⟨?_, category⟩
  unfold identityTexts at texts
  simp only [List.cons.injEq, and_true] at texts
  obtain ⟨entity, claim, asset, representation, token, chain, contract⟩ := texts
  cases one : a.envelope.identity
  cases two : b.envelope.identity
  rw [one, two] at entity claim asset representation token chain contract
  cases entity
  cases claim
  cases asset
  cases representation
  cases token
  cases chain
  cases contract
  rfl

theorem load_none {id : String} (none : stored.load id = none) : id ∉ stored.map Row.id := by
  intro member
  obtain ⟨row, inside, same⟩ := List.mem_map.mp member
  exact absurd (decide_eq_true same) (List.find?_eq_none.mp none row inside)

theorem load_mem {id : String} {row : Row} (found : stored.load id = some row) : row ∈ stored ∧ row.id = id := by
  have inside := List.mem_of_find?_eq_some found
  have same := List.find?_some (show stored.find? (fun row => row.id = id) = some row from found)
  exact ⟨inside, of_decide_eq_true same⟩

theorem load_of_mem {row : Row} (distinct : (stored.map Row.id).Nodup) (there : row ∈ stored) :
    stored.load row.id = some row := by
  cases found : stored.load row.id with
  | none => exact absurd (List.mem_map_of_mem there) (load_none found)
  | some other =>
      obtain ⟨inside, same⟩ := load_mem found
      exact congrArg some (List.inj_on_of_nodup_map distinct inside there same)

/-- A row is saved where it is there already, and where its identity is new. -/
theorem save_ok {row : Row} (done : stored.save row = .ok after) :
    row ∈ stored ∧ after = stored ∨ row.id ∉ stored.map Row.id ∧ after = stored ++ [row] := by
  unfold Store.save at done
  cases found : stored.load row.id with
  | none =>
      rw [found] at done
      cases done
      exact Or.inr ⟨load_none found, rfl⟩
  | some existing =>
      rw [found] at done
      obtain ⟨same, done⟩ := require_bind_ok.mp done
      cases done
      exact Or.inl ⟨same ▸ (load_mem found).1, rfl⟩

theorem save_new {row : Row} (fresh : row.id ∉ stored.map Row.id) : stored.save row = .ok (stored ++ [row]) := by
  unfold Store.save
  cases found : stored.load row.id with
  | none => rfl
  | some existing =>
      obtain ⟨inside, same⟩ := load_mem found
      exact absurd (same ▸ List.mem_map_of_mem inside) fresh

theorem save_again {row : Row} (distinct : (stored.map Row.id).Nodup) (there : row ∈ stored) :
    stored.save row = .ok stored := by
  unfold Store.save
  rw [load_of_mem distinct there]
  exact require_bind_ok.mpr ⟨rfl, rfl⟩

/-- What a write of a row does to the rows. -/
structure Grows (stored after : Store) (row : Row) : Prop where
  distinct : (after.map Row.id).Nodup
  subset : stored ⊆ after
  there : row ∈ after
  only : ∀ other ∈ after, other ∈ stored ∨ other = row

theorem save_grows {row : Row} (distinct : (stored.map Row.id).Nodup) (done : stored.save row = .ok after) :
    Grows stored after row := by
  cases save_ok done with
  | inl old =>
      rw [old.2]
      exact ⟨distinct, List.Subset.refl _, old.1, fun other inside => Or.inl inside⟩
  | inr new =>
      obtain ⟨fresh, rfl⟩ := new
      refine ⟨?_, List.subset_append_left _ _, List.mem_append_right _ (List.mem_singleton_self row),
        fun other inside => ?_⟩
      · rw [List.map_append]
        apply List.nodup_append.mpr
        refine ⟨distinct, List.nodup_singleton _, fun id old other single same => ?_⟩
        rw [List.mem_singleton.mp single] at same
        exact fresh (same ▸ old)
      · exact (List.mem_append.mp inside).imp id List.mem_singleton.mp

/-- A record that was found is found in every later store. -/
theorem record_mono {kind : Kind} {id : String} (distinct : (after.map Row.id).Nodup) (grows : stored ⊆ after)
    (found : stored.record kind id = some record) : after.record kind id = some record := by
  unfold Store.record at found ⊢
  cases loaded : stored.load id with
  | none =>
      rw [loaded] at found
      cases found
  | some row =>
      obtain ⟨inside, same⟩ := load_mem loaded
      have still := load_of_mem distinct (grows inside)
      rw [same] at still
      rw [loaded] at found
      rw [still]
      exact found

theorem requireEvidence_mono (distinct : (after.map Row.id).Nodup) (grows : stored ⊆ after)
    (done : requireEvidence stored record = .ok ()) : requireEvidence after record = .ok () := by
  unfold requireEvidence at done ⊢
  rw [forM_ok] at done ⊢
  intro reference inside
  have checked := done reference inside
  unfold checkEvidence at checked ⊢
  cases found : stored.record .evidence reference.1 with
  | none =>
      rw [found] at checked
      cases checked
  | some evidence =>
      rw [found] at checked
      rw [record_mono distinct grows found]
      exact checked

/-- What an accepted ingestion leaves behind. -/
structure Remembered (authorities : Authorities) (stored : Store) (ingestion : Ingestion) (record : Record) :
    Prop where
  authorized : authorizeResult authorities ingestion = .ok ()
  evidence : requireEvidence stored record = .ok ()
  facts : requireObservedMarketFacts authorities record = .ok ()
  verified : authorities.verifyReceipt ingestion.result.receipt = true
  binding : validateReceiptBinding ingestion.result.receipt record = .ok ()
  received : Row.receipt ingestion.result.receipt ∈ stored
  kept : Row.record record ∈ stored

theorem Remembered.mono (remembered : Remembered authorities stored ingestion record)
    (distinct : (after.map Row.id).Nodup) (grows : stored ⊆ after) :
    Remembered authorities after ingestion record :=
  ⟨remembered.authorized, requireEvidence_mono distinct grows remembered.evidence, remembered.facts,
    remembered.verified, remembered.binding, grows remembered.received, grows remembered.kept⟩

theorem ingest_ok (distinct : (stored.map Row.id).Nodup)
    (done : ingest authorities stored ingestion = .ok (record, after)) :
    record = applyConflictPolicy stored ingestion.result.draft.normalize ∧
      Remembered authorities after ingestion record ∧ (after.map Row.id).Nodup ∧ stored ⊆ after ∧
      ∀ row ∈ after, row ∈ stored ∨ row = .receipt ingestion.result.receipt ∨ row = .record record := by
  simp only [ingest, bind_ok, exists_unit, require_ok, pure_eq_ok, Except.ok.injEq, Prod.mk.injEq] at done
  obtain ⟨authorized, -, evidence, facts, verified, binding, received, receipt, _, inserted, rfl, rfl⟩ := done
  have first := save_grows distinct receipt
  have second := save_grows first.distinct (check_ok.mp inserted).2
  refine ⟨rfl, ⟨authorized, ?_, facts, verified, binding, second.subset first.there, second.there⟩, second.distinct,
    fun row inside => second.subset (first.subset inside), fun row inside => ?_⟩
  · exact requireEvidence_mono second.distinct (fun row inside => second.subset (first.subset inside)) evidence
  · cases second.only row inside with
    | inl before => exact (first.only row before).imp id Or.inl
    | inr last => exact Or.inr (Or.inr last)

/-- The ingestion is not marked by the conflict policy, is no correction that is stored already,
and its logical text is told from those that are stored. -/
structure Careful (stored : Store) (ingestion : Ingestion) : Prop where
  unmarked : ¬(Divergent stored ingestion.result.draft.normalize ∧
    ingestion.result.draft.normalize.envelope.conflictState = .none)
  once : Row.record ingestion.result.draft.normalize ∈ stored →
    ingestion.result.draft.normalize.supersedesRecordId = none
  plain : Plain ingestion.result.draft.normalize
  apart : ∀ other, Row.record other ∈ stored →
    other.logicalIdOf = ingestion.result.draft.normalize.logicalIdOf →
      other.logicalText = ingestion.result.draft.normalize.logicalText

theorem Careful.policy (careful : Careful stored ingestion) :
    applyConflictPolicy stored ingestion.result.draft.normalize = ingestion.result.draft.normalize :=
  if_neg careful.unmarked

/-- What was accepted once is accepted again, and nothing changes. -/
theorem ingest_again (distinct : (stored.map Row.id).Nodup) (careful : Careful stored ingestion)
    (remembered : Remembered authorities stored ingestion ingestion.result.draft.normalize) :
    ingest authorities stored ingestion = .ok (ingestion.result.draft.normalize, stored) := by
  have root := careful.once remembered.kept
  have corrected : authorizeCorrection authorities stored ingestion.result.draft.normalize = .ok () := by
    unfold authorizeCorrection
    rw [root]
  have unfollowed : checkPredecessor stored ingestion.result.draft.normalize = .ok () := by
    unfold checkPredecessor
    rw [root]
  unfold ingest
  rw [careful.policy, remembered.authorized, ok_bind]
  dsimp only
  rw [corrected, ok_bind, remembered.evidence, ok_bind,
    remembered.facts, ok_bind, require_of remembered.verified, ok_bind, remembered.binding, ok_bind,
    save_again distinct remembered.received, ok_bind, insertRecord, unfollowed, ok_bind,
    save_again distinct remembered.kept, ok_bind]
  rfl

/-- One ingestion, with the record that it returned. -/
inductive Step (authorities : Authorities) : Store → Ingestion × Option Record → Store → Prop where
  | accepted {stored after : Store} {ingestion : Ingestion} {record : Record}
      (done : ingest authorities stored ingestion = .ok (record, after)) :
      Step authorities stored (ingestion, some record) after
  | refused {stored : Store} {ingestion : Ingestion} {exn : Exn}
      (raised : ingest authorities stored ingestion = .error exn) :
      Step authorities stored (ingestion, none) stored

/-- Records of one logical identity are of one economic identity and one category. -/
def IdentityBound (stored : Store) : Prop :=
  ∀ a b, Row.record a ∈ stored → Row.record b ∈ stored → a.envelope.logicalId = b.envelope.logicalId →
    a.envelope.identity = b.envelope.identity ∧ a.category = b.category

def CarefulStep (authorities : Authorities) (stored : Store) (event : Ingestion × Option Record) (after : Store) :
    Prop :=
  Careful stored event.1 ∧ Step authorities stored event after

structure Safe (authorities : Authorities) (events : List (Ingestion × Option Record)) (stored : Store) : Prop where
  distinct : (stored.map Row.id).Nodup
  bound : ∀ record, Row.record record ∈ stored →
    ContentBound record ∧ record.envelope.logicalId = record.logicalIdOf ∧ Plain record
  apart : ∀ a b, Row.record a ∈ stored → Row.record b ∈ stored → a.logicalIdOf = b.logicalIdOf →
    a.logicalText = b.logicalText
  remembered : ∀ ingestion record, (ingestion, some record) ∈ events →
    record = ingestion.result.draft.normalize ∧ Remembered authorities stored ingestion record

theorem safe_nil : Safe authorities [] [] :=
  ⟨List.nodup_nil, fun _ inside => absurd inside List.not_mem_nil, fun _ _ inside => absurd inside List.not_mem_nil,
    fun _ _ inside => absurd inside List.not_mem_nil⟩

theorem safe_step {events : List (Ingestion × Option Record)} {event : Ingestion × Option Record}
    (safe : Safe authorities events stored) (step : CarefulStep authorities stored event after) :
    Safe authorities (events ++ [event]) after := by
  obtain ⟨careful, step⟩ := step
  cases step with
  | refused raised =>
      refine ⟨safe.distinct, safe.bound, safe.apart, fun ingestion record inside => ?_⟩
      cases List.mem_append.mp inside with
      | inl before => exact safe.remembered ingestion record before
      | inr last => cases List.mem_singleton.mp last
  | @accepted _ ingestion record done =>
      obtain ⟨made, remembered, distinct, grows, only⟩ := ingest_ok safe.distinct done
      rw [careful.policy] at made
      have old : ∀ {other : Record}, Row.record other ∈ after → Row.record other ∈ stored ∨ other = record := by
        intro other inside
        rcases only _ inside with before | received | kept
        · exact Or.inl before
        · cases received
        · exact Or.inr (Row.record.inj kept)
      refine ⟨distinct, fun other inside => ?_, fun a b inside inside' same => ?_, fun other result inside => ?_⟩
      · cases old inside with
        | inl before => exact safe.bound other before
        | inr new =>
            rw [new, made]
            exact ⟨normalize_bound _, normalize_logicalId _, careful.plain⟩
      · cases old inside with
        | inl before =>
            cases old inside' with
            | inl before' => exact safe.apart a b before before' same
            | inr new =>
                rw [new, made] at same ⊢
                exact careful.apart a before same
        | inr new =>
            cases old inside' with
            | inl before' =>
                rw [new, made] at same ⊢
                exact (careful.apart b before' same.symm).symm
            | inr new' => rw [new, new']
      · cases List.mem_append.mp inside with
        | inl before =>
            obtain ⟨same, known⟩ := safe.remembered other result before
            exact ⟨same, known.mono distinct grows⟩
        | inr last =>
            cases List.mem_singleton.mp last
            exact ⟨made, remembered⟩

/-- In every state that careful ingestions reach. -/
theorem ingestion_safe {events : List (Ingestion × Option Record)}
    (run : Run (CarefulStep authorities) [] events stored) :
    (∀ record, Row.record record ∈ stored → ContentBound record) ∧ IdentityBound stored ∧
      ∀ ingestion record, (ingestion, some record) ∈ events → Careful stored ingestion →
        Row.record record ∈ stored ∧ ingest authorities stored ingestion = .ok (record, stored) := by
  have safe : Safe authorities events stored :=
    run.invariant _ safe_nil fun _ _ _ _ _ safe step => safe_step safe step
  refine ⟨fun record inside => (safe.bound record inside).1, fun a b inside inside' same => ?_,
    fun ingestion record inside careful => ?_⟩
  · obtain ⟨-, named, plain⟩ := safe.bound a inside
    obtain ⟨-, named', plain'⟩ := safe.bound b inside'
    rw [named, named'] at same
    exact logicalText_inj plain plain' (safe.apart a b inside inside' same)
  · obtain ⟨rfl, remembered⟩ := safe.remembered ingestion record inside
    exact ⟨remembered.kept, ingest_again safe.distinct careful remembered⟩

theorem applyConflictPolicy_keeps (stored : Store) (record : Record) :
    (applyConflictPolicy stored record).kind = record.kind ∧
      (applyConflictPolicy stored record).supersedesRecordId = record.supersedesRecordId := by
  unfold applyConflictPolicy
  split
  · cases record <;> exact ⟨rfl, rfl⟩
  · exact ⟨rfl, rfl⟩

theorem authorizeCorrection_found {predecessorId : String} {predecessor : Record}
    (names : record.supersedesRecordId = some predecessorId)
    (found : stored.record record.kind predecessorId = some predecessor) :
    authorizeCorrection authorities stored record =
      authorizeCorrectionTransition authorities predecessor.envelope.sourceId record.envelope.sourceId := by
  unfold authorizeCorrection
  rw [names]
  dsimp only
  rw [found]

theorem checkPredecessor_found {predecessorId : String} {predecessor : Record}
    (names : record.supersedesRecordId = some predecessorId)
    (found : stored.record record.kind predecessorId = some predecessor)
    (logical : predecessor.envelope.logicalId = record.envelope.logicalId)
    (recorded : predecessor.envelope.recordedAt < record.envelope.recordedAt)
    (known : predecessor.envelope.knownAt < record.envelope.knownAt)
    (unbranched : ∀ item ∈ stored.records record.kind, item.supersedesRecordId ≠ some predecessorId) :
    checkPredecessor stored record = .ok () := by
  unfold checkPredecessor
  rw [names]
  dsimp only
  rw [found]
  exact require_bind_ok.mpr ⟨logical, require_bind_ok.mpr ⟨recorded, require_bind_ok.mpr ⟨known,
    require_of unbranched⟩⟩⟩

/-- A correction that was accepted is a branch of its predecessor when it comes again. -/
theorem correction_refused {predecessor : String} (distinct : (stored.map Row.id).Nodup)
    (done : ingest authorities stored ingestion = .ok (record, after))
    (corrects : ingestion.result.draft.normalize.supersedesRecordId = some predecessor) (result : Record × Store) :
    ingest authorities after ingestion ≠ .ok result := by
  intro again
  obtain ⟨made, remembered, distinct', -⟩ := ingest_ok distinct done
  simp only [ingest, bind_ok, exists_unit, pure_eq_ok, Except.ok.injEq] at again
  obtain ⟨-, -, -, -, -, -, received, receipt, _, inserted, -⟩ := again
  have unfollowed := (check_ok.mp inserted).1
  obtain ⟨kind, supersedes⟩ := applyConflictPolicy_keeps after ingestion.result.draft.normalize
  obtain ⟨kind', supersedes'⟩ := applyConflictPolicy_keeps stored ingestion.result.draft.normalize
  unfold checkPredecessor at unfollowed
  rw [supersedes, corrects] at unfollowed
  dsimp only at unfollowed
  split at unfollowed
  · cases unfollowed
  · obtain ⟨-, -, -, unbranched⟩ : _ ∧ _ ∧ _ ∧ _ := by
      simpa only [require_bind_ok, require_ok] using unfollowed
    refine unbranched record ?_ (by rw [made, supersedes', corrects])
    refine List.mem_filter.mpr ⟨List.mem_filterMap.mpr ⟨.record record, ?_, rfl⟩, ?_⟩
    · exact (save_grows distinct' receipt).subset remembered.kept
    · rw [decide_eq_true_eq, kind, made, kind']

theorem sample_lt_end (n : Fin 10) : n.val < 3652059 * Calendar.microsPerDay :=
  Nat.lt_trans n.isLt (by decide)

def sampleMoment (n : Fin 10) : Calendar.Moment := ⟨n.val, sample_lt_end n⟩

theorem sample_texts :
    ∀ text ∈ ["entity", "claim", "asset", "token", "token"], blank text = false := by
  decide

def sampleIdentity : EconomicClaimIdentity where
  entityId := "entity"
  economicClaimId := "claim"
  assetId := "asset"
  representationId := "token"
  tokenId := "token"
  chain := ""
  contractAddress := ""
  texts := sample_texts
  contract := EconomicClaimIdentity.no_contract

def sampleHash : String := "0000000000000000000000000000000000000000000000000000000000000000"

theorem sample_bounded : ∀ text ∈ ["1", "1", "0"], boundedDecimal text := by
  have one : boundedDecimal "1" := ⟨⟨false, 1, 0⟩, by decide +kernel, by decide +kernel⟩
  have zero : boundedDecimal "0" := ⟨⟨false, 0, 0⟩, by decide +kernel, by decide +kernel⟩
  simp only [List.mem_cons, List.not_mem_nil, or_false, forall_eq_or_imp, forall_eq]
  exact ⟨one, one, zero⟩

/-- Evidence that was acquired at the given instant. -/
theorem sample_named {acquisitionId : String} (given : blank acquisitionId = false) :
    ∀ text ∈ ["pending", "pending", "1", "1", "source", "official", "report", "1", "claim", "rule", "method",
      "row", "1", sampleHash, acquisitionId], blank text = false := by
  simp only [List.mem_cons, List.not_mem_nil, or_false, forall_eq_or_imp, forall_eq]
  refine ⟨?_, ?_, ?_, ?_, ?_, ?_, ?_, ?_, ?_, ?_, ?_, ?_, ?_, ?_, given⟩
  all_goals decide

theorem sample_effective (n : Fin 10) : sampleMoment 0 ≤ sampleMoment n := Nat.zero_le n.val

theorem sample_recorded (n : Fin 10) : sampleMoment n ≤ sampleMoment n := Nat.le_refl n.val

theorem sample_start : sampleMoment 0 ≤ sampleMoment 0 := Nat.le_refl 0

theorem sample_hashed : isHash sampleHash :=
  ⟨by decide, String.forall_scalars_of_all (by decide)⟩

theorem sample_measured : ∀ text ∈ (none : Option String),
    (Decimal.parse text.scalars).isSome ∧ ∃ name ∈ (none : Option String), blank name = false := by
  rintro _ ⟨⟩

theorem sample_unmeasured : (none : Option String) = none → (none : Option String) = none :=
  fun _ => rfl

def sampleEvidence (n : Fin 10) (acquisitionId : String) (given : blank acquisitionId = false)
    (supersedesRecordId : Option String) (correctionReason : String)
    (correction : correctionGiven supersedesRecordId correctionReason) : FundamentalEvidenceRecord where
  recordId := "pending"
  logicalId := "pending"
  schemaVersion := "1"
  semanticVersion := "1"
  identity := sampleIdentity
  evidenceType := .officialDisclosure
  sourceId := "source"
  sourceAuthorityTier := "official"
  sourceReference := "report"
  parserVersion := "1"
  extractedClaim := "claim"
  amount := none
  unit := none
  accountingPeriodStart := sampleMoment 0
  accountingPeriodEnd := sampleMoment 0
  attributionRuleId := "rule"
  sourceMethodology := "method"
  sourceRecordId := "row"
  sourceRecordVersion := "1"
  entityLinkConfidence := "1"
  evidenceConfidence := "1"
  uncertainty := "0"
  effectiveAt := sampleMoment 0
  recordedAt := sampleMoment n
  knownAt := sampleMoment n
  rawContentHash := sampleHash
  qualityState := .accepted
  conflictState := .none
  supersedesRecordId
  correctionReason
  contentHash := ""
  acquisitionId
  texts := sample_named given
  effective := sample_effective n
  recorded := sample_recorded n
  correction
  period := sample_start
  observed := sample_start
  bounded := sample_bounded
  hashed := sample_hashed
  measured := sample_measured
  unmeasured := sample_unmeasured

def sampleReceipt (n : Fin 10) (acquisitionId : String) : AcquisitionReceipt where
  acquisitionId
  kind := .evidence
  capability := "evidence:official_disclosure"
  sourceId := "source"
  sourceAuthorityTier := "official"
  endpoint := "https://source/report"
  parserVersion := "1"
  registryFingerprint := "fingerprint"
  signingKeyId := "key"
  acquiredAt := sampleMoment n
  identity := sampleIdentity
  rawPayloadHash := sampleHash
  receiptHash := sampleHash
  signature := sampleHash

def sampleProvider : RegisteredValueCaptureProvider := ⟨"source", fun _ => true⟩

def sampleAuthorities : Authorities where
  sources := [⟨"source", .official, "fingerprint", []⟩]
  admits _ _ := .ok ()
  verifyReceipt _ := true
  marketFact _ := none

def sampleIngestion (n : Fin 10) (acquisitionId : String) (given : blank acquisitionId = false)
    (supersedesRecordId : Option String) (correctionReason : String)
    (correction : correctionGiven supersedesRecordId correctionReason) : Ingestion where
  provider := sampleProvider
  result :=
    { receipt := sampleReceipt n acquisitionId
      draft := .evidence (sampleEvidence n acquisitionId given supersedesRecordId correctionReason correction)
      covers := ⟨rfl, rfl, rfl, fun _ there => (Option.some.inj there).symm, rfl, rfl, rfl, rfl, rfl⟩
      pending := ⟨rfl, rfl, rfl⟩ }
  expectedKind := .evidence

theorem uncorrected : correctionGiven none "" := iff_of_true (Or.inl rfl) (by decide)

def sampleRoot : Ingestion := sampleIngestion 1 "first" (by decide) none "" uncorrected

def sampleRootId : String := "4b43aebb71cfe0f9340399c47567608b6bf1229bde3a7f31384035fe48111526"

def sampleCorrection : Ingestion := sampleIngestion 2 "second" (by decide) (some sampleRootId) "restated"
  (iff_of_false (by decide) (by decide))

def sampleRootRecord : Record := sampleRoot.result.draft.normalize

def sampleCorrectionRecord : Record := sampleCorrection.result.draft.normalize

def sampleRows : Store := [.receipt (sampleReceipt 1 "first"), .record sampleRootRecord]

theorem sampleId_ne {record : Record} {text : String} (short : text.toList.length ≠ 64) :
    text ≠ record.normalize.recordId := by
  intro same
  refine short ?_
  rw [same, (normalize_bound record).identity]
  exact sha256_length _

theorem sample_root : ingest sampleAuthorities [] sampleRoot = .ok (sampleRootRecord, sampleRows) := by
  have unmarked : applyConflictPolicy [] sampleRoot.result.draft.normalize = sampleRootRecord := by
    refine if_neg fun marked => ?_
    obtain ⟨item, inside, -⟩ := marked.1
    exact absurd inside List.not_mem_nil
  have saved : Store.save [.receipt (sampleReceipt 1 "first")] (.record sampleRootRecord) = .ok sampleRows := by
    refine save_new fun there => ?_
    exact @sampleId_ne sampleRoot.result.draft "first" (by decide) (List.mem_singleton.mp there).symm
  unfold ingest
  rw [unmarked]
  refine bind_ok.mpr ⟨(), rfl, bind_ok.mpr ⟨(), rfl, bind_ok.mpr ⟨(), rfl, bind_ok.mpr ⟨(), rfl,
    bind_ok.mpr ⟨(), rfl, bind_ok.mpr ⟨(), rfl, bind_ok.mpr ⟨_, rfl,
      bind_ok.mpr ⟨_, bind_ok.mpr ⟨(), rfl, saved⟩, rfl⟩⟩⟩⟩⟩⟩⟩⟩

theorem sampleRoot_careful : Careful [] sampleRoot where
  unmarked marked := by
    obtain ⟨item, inside, -⟩ := marked.1
    exact absurd inside List.not_mem_nil
  once inside := absurd inside List.not_mem_nil
  plain := by
    show ∀ text ∈ ["entity", "claim", "asset", "token", "token", "", ""], '|' ∉ text.toList
    decide
  apart _ inside := absurd inside List.not_mem_nil

theorem sample_distinct : (sampleRows.map Row.id).Nodup := by
  refine List.nodup_cons.mpr ⟨fun there => ?_, List.nodup_singleton _⟩
  exact @sampleId_ne sampleRoot.result.draft "first" (by decide) (List.mem_singleton.mp there)

/-! The digests of the sample records, each evaluated once. -/

def sampleLogicalId : String := "2223f2297788808654949b818f7c760039d9f031af9f92c88ad32c2478279e02"

theorem sample_logicalId : sampleRoot.result.draft.logicalIdOf = sampleLogicalId := by
  have text : sampleRoot.result.draft.logicalText =
      String.ofList "entity|claim|asset|token|token|||evidence:official_disclosure:report".toList := by
    decide
  unfold Record.logicalIdOf
  rw [text, sha256_ofList]
  decide

theorem sample_contentHashes :
    sampleRoot.result.draft.contentHashOf sampleLogicalId =
      "f66b5517e879f511fe31b6d3f2197beb997a88d5b3964f46870e4c417379f48c" ∧
    sampleCorrection.result.draft.contentHashOf sampleLogicalId =
      "3d50baaad9ab81e612559f3dc744513317dc0a8f00411ecabf10a2f9923827e4" := by
  unfold Record.contentHashOf
  constructor
  · rw [Json.asciiDumps, sha256_ofList]
    decide +kernel
  · rw [Json.asciiDumps, sha256_ofList]
    decide +kernel

theorem normalize_recordId (record : Record) :
    record.normalize.recordId = sha256 (record.logicalIdOf ++ ":" ++ record.contentHashOf record.logicalIdOf) := by
  unfold Record.recordId Record.normalize
  rw [identified_envelope]
  rfl

theorem sample_recordIds : sampleRootRecord.recordId = sampleRootId ∧
    sampleCorrectionRecord.recordId = "0adad3ae8a9530cc7592a81569dbaaf750fae8f319e705293c444cbd9ad70bc3" := by
  have same : sampleCorrection.result.draft.logicalIdOf = sampleLogicalId := sample_logicalId
  have first : sampleLogicalId ++ ":" ++ "f66b5517e879f511fe31b6d3f2197beb997a88d5b3964f46870e4c417379f48c" =
      String.ofList (sampleLogicalId ++ ":" ++
        "f66b5517e879f511fe31b6d3f2197beb997a88d5b3964f46870e4c417379f48c").toList :=
    String.ofList_toList.symm
  have second : sampleLogicalId ++ ":" ++ "3d50baaad9ab81e612559f3dc744513317dc0a8f00411ecabf10a2f9923827e4" =
      String.ofList (sampleLogicalId ++ ":" ++
        "3d50baaad9ab81e612559f3dc744513317dc0a8f00411ecabf10a2f9923827e4").toList :=
    String.ofList_toList.symm
  constructor
  · unfold sampleRootRecord
    rw [normalize_recordId, sample_logicalId, sample_contentHashes.1, first, sha256_ofList]
    decide +kernel
  · unfold sampleCorrectionRecord
    rw [normalize_recordId, same, sample_contentHashes.2, second, sha256_ofList]
    decide +kernel

theorem sample_root_there : Row.record sampleRootRecord ∈ sampleRows := List.mem_cons_of_mem _ List.mem_cons_self

theorem sample_logicalIds : sampleRootRecord.envelope.logicalId = sampleLogicalId ∧
    sampleCorrectionRecord.envelope.logicalId = sampleLogicalId := by
  have same : sampleCorrection.result.draft.logicalIdOf = sampleLogicalId := sample_logicalId
  unfold sampleRootRecord sampleCorrectionRecord
  rw [normalize_logicalId, normalize_logicalId, Record.logicalIdOf, Record.logicalIdOf, normalize_logicalText,
    normalize_logicalText]
  exact ⟨sample_logicalId, same⟩

def sampleCorrectedRows : Store :=
  sampleRows ++ [.receipt (sampleReceipt 2 "second")] ++ [.record sampleCorrectionRecord]

theorem sampleCorrection_supersedes :
    sampleCorrectionRecord.supersedesRecordId = some sampleRootRecord.recordId := by
  rw [sample_recordIds.1]
  rfl

theorem sampleCorrection_unmarked : ¬Divergent sampleRows sampleCorrectionRecord := by
  rintro ⟨item, inside, -, other, -⟩
  have root : item = sampleRootRecord :=
    List.mem_singleton.mp (List.mem_of_mem_filter (List.mem_of_mem_filter inside))
  rw [root] at other
  exact other sampleCorrection_supersedes.symm

/-- The correction of the root is accepted. -/
theorem sample_correction :
    ingest sampleAuthorities sampleRows sampleCorrection = .ok (sampleCorrectionRecord, sampleCorrectedRows) := by
  obtain ⟨rootId, correctionId⟩ := sample_recordIds
  have supersedes := sampleCorrection_supersedes
  have unmarked : applyConflictPolicy sampleRows sampleCorrection.result.draft.normalize = sampleCorrectionRecord :=
    if_neg fun marked => sampleCorrection_unmarked marked.1
  have found : ∀ rows : Store, (rows.map Row.id).Nodup → Row.record sampleRootRecord ∈ rows →
      rows.record .evidence sampleRootRecord.recordId = some sampleRootRecord := by
    intro rows distinct there
    unfold Store.record
    rw [show sampleRootRecord.recordId = (Row.record sampleRootRecord).id from rfl, load_of_mem distinct there]
    rfl
  have received : sampleRows.save (.receipt (sampleReceipt 2 "second")) =
      .ok (sampleRows ++ [.receipt (sampleReceipt 2 "second")]) := by
    refine save_new fun there => ?_
    have ids : sampleRows.map Row.id = ["first", sampleRootRecord.recordId] := rfl
    rw [ids, rootId] at there
    exact absurd there (by decide)
  have grown := save_grows sample_distinct received
  have corrected : authorizeCorrection sampleAuthorities sampleRows sampleCorrectionRecord = .ok () :=
    (authorizeCorrection_found supersedes (found sampleRows sample_distinct sample_root_there)).trans rfl
  have follows :
      checkPredecessor (sampleRows ++ [.receipt (sampleReceipt 2 "second")]) sampleCorrectionRecord = .ok () := by
    refine checkPredecessor_found supersedes (found _ grown.distinct (grown.subset sample_root_there)) ?_ (by decide)
      (by decide) fun item inside => ?_
    · rw [sample_logicalIds.1, sample_logicalIds.2]
    · rw [List.mem_singleton.mp (List.mem_of_mem_filter inside)]
      nofun
  have saved : Store.save (sampleRows ++ [.receipt (sampleReceipt 2 "second")]) (.record sampleCorrectionRecord) =
      .ok sampleCorrectedRows := by
    refine save_new fun there => ?_
    have ids : (sampleRows ++ [Row.receipt (sampleReceipt 2 "second")]).map Row.id =
        ["first", sampleRootRecord.recordId, "second"] := rfl
    rw [ids, rootId, show (Row.record sampleCorrectionRecord).id = sampleCorrectionRecord.recordId from rfl,
      correctionId] at there
    exact absurd there (by decide)
  unfold ingest
  rw [unmarked]
  refine bind_ok.mpr ⟨(), rfl, bind_ok.mpr ⟨(), corrected, bind_ok.mpr ⟨(), rfl, bind_ok.mpr ⟨(), rfl,
    bind_ok.mpr ⟨(), rfl, bind_ok.mpr ⟨(), rfl, bind_ok.mpr ⟨_, received,
      bind_ok.mpr ⟨_, bind_ok.mpr ⟨(), follows, saved⟩, rfl⟩⟩⟩⟩⟩⟩⟩⟩

theorem sampleCorrection_careful : Careful sampleRows sampleCorrection where
  unmarked marked := sampleCorrection_unmarked marked.1
  once inside := by
    have same : sampleCorrectionRecord.recordId ∈ sampleRows.map Row.id := List.mem_map_of_mem inside
    have ids : sampleRows.map Row.id = ["first", sampleRootRecord.recordId] := rfl
    rw [ids, sample_recordIds.1, sample_recordIds.2] at same
    exact absurd same (by decide)
  plain := by
    show ∀ text ∈ ["entity", "claim", "asset", "token", "token", "", ""], '|' ∉ text.toList
    decide
  apart other inside _ := by
    have root : Row.record other = Row.record sampleRootRecord := by
      rcases List.mem_cons.mp inside with first | second
      · cases first
      · exact List.mem_singleton.mp second
    cases Row.record.inj root
    unfold sampleRootRecord
    rw [normalize_logicalText, normalize_logicalText]
    rfl

theorem sample_fingerprints : sampleCorrectionRecord.valueFingerprint = sampleRootRecord.valueFingerprint := by
  unfold Record.valueFingerprint
  refine congrArg (fun fields => sha256 (Json.asciiDumps (.obj fields))) ?_
  decide +kernel

theorem sampleCorrectedRows_records {record : Record} (inside : Row.record record ∈ sampleCorrectedRows) :
    record = sampleRootRecord ∨ record = sampleCorrectionRecord := by
  simp only [sampleCorrectedRows, sampleRows, List.cons_append, List.nil_append, List.mem_cons,
    List.not_mem_nil, or_false, reduceCtorEq, false_or, Row.record.injEq] at inside
  exact inside

/-- The root is superseded, and its correction says the same. -/
theorem sampleRoot_careful_again : Careful sampleCorrectedRows sampleRoot where
  unmarked marked := by
    obtain ⟨item, inside, current, -, -, -, differs⟩ := marked.1
    have listed : Row.record item ∈ sampleCorrectedRows := by
      obtain ⟨row, there, found⟩ := List.mem_filterMap.mp (List.mem_of_mem_filter (List.mem_of_mem_filter inside))
      cases row with
      | receipt _ => cases found
      | record other =>
          cases found
          exact there
    rcases sampleCorrectedRows_records listed with rfl | rfl
    · refine current (List.mem_filterMap.mpr ⟨sampleCorrectionRecord, ?_, sampleCorrection_supersedes⟩)
      have there : sampleCorrectionRecord ∈ sampleCorrectedRows.records .evidence :=
        List.mem_cons_of_mem _ List.mem_cons_self
      refine List.mem_filter.mpr ⟨there, decide_eq_true ?_⟩
      rw [sample_logicalIds.2]
      exact sample_logicalIds.1.symm
    · exact differs sample_fingerprints
  once _ := rfl
  plain := sampleRoot_careful.plain
  apart other inside _ := by
    rcases sampleCorrectedRows_records inside with rfl | rfl
    · rfl
    · unfold sampleCorrectionRecord
      rw [normalize_logicalText, normalize_logicalText]
      rfl

/-- After a correction both records are bound to their contents, and the root is accepted again. -/
theorem ingestion_safe_sample : IdentityBound sampleCorrectedRows ∧ ContentBound sampleCorrectionRecord ∧
    ingest sampleAuthorities sampleCorrectedRows sampleRoot = .ok (sampleRootRecord, sampleCorrectedRows) := by
  have run : Run (CarefulStep sampleAuthorities) [] _ sampleCorrectedRows :=
    (Run.nil.snoc ⟨sampleRoot_careful, .accepted sample_root⟩).snoc
      ⟨sampleCorrection_careful, .accepted sample_correction⟩
  obtain ⟨bound, identities, again⟩ := ingestion_safe run
  have there : Row.record sampleCorrectionRecord ∈ sampleCorrectedRows :=
    List.mem_append_right _ List.mem_cons_self
  exact ⟨identities, bound sampleCorrectionRecord there,
    (again sampleRoot sampleRootRecord List.mem_cons_self sampleRoot_careful_again).2⟩

/-- A correction that was accepted is refused when it is ingested again. -/
theorem ingestion_safe_fails : ∃ events, Run (Step sampleAuthorities) [] events sampleCorrectedRows ∧
    (sampleCorrection, some sampleCorrectionRecord) ∈ events ∧
      ∀ result, ingest sampleAuthorities sampleCorrectedRows sampleCorrection ≠ .ok result := by
  refine ⟨_, (Run.nil.snoc (.accepted sample_root)).snoc (.accepted sample_correction),
    List.mem_append_right _ List.mem_cons_self, ?_⟩
  exact correction_refused sample_distinct sample_correction rfl

end Hunter.ValueCapture
