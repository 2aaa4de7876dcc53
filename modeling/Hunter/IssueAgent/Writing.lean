import Hunter.IssueAgent.Admission
import Hunter.Json.Size

/-!
The record a control job writes: one signed record on top of the view of a freshly
verified chain, with the identity of the writing run. Reading it back gives the
fields it was written from, so whether a verifier takes it depends on these alone.
-/

namespace Hunter.IssueAgent

/-- The control job writing a record, bound to its own run. -/
structure Writer where
  workflowPath : String
  job : String
  role : Role
  runId : Int
  runAttempt : Int
  headSha : String

def Writer.recordedBy (writer : Writer) : Json :=
  .obj [("workflow_path", .str writer.workflowPath), ("job", .str writer.job),
    ("role", .str writer.role.text), ("run_id", .int writer.runId),
    ("run_attempt", .int writer.runAttempt), ("head_sha", .str writer.headSha)]

/-- The writer's own identity as the ledger's schema reads it. -/
def Writer.Conforms (writer : Writer) (by_ : RecordedBy) : Prop :=
  writer.workflowPath = by_.workflowPath.val ∧ writer.job = by_.job.val ∧
    writer.role = by_.role ∧ writer.runId = by_.runId.val ∧
    writer.runAttempt = by_.runAttempt.val ∧ writer.headSha = by_.headSha.val

theorem recordedBy_iff {writer : Writer} {by_ : RecordedBy} (place : String) :
    recordedBy writer.recordedBy place = .ok by_ ↔ writer.Conforms by_ := by
  have role (place : String) : enum Role.text roles (.str writer.role.text) place =
      .ok writer.role :=
    enum_text place (by cases writer.role <;> decide)
  rw [recordedBy, Writer.recordedBy, object_fields (by simp) (by simp)]
  simp only [Schema.read_seq, Schema.read_map, Schema.read_field]
  simp [Json.lookup, seq_ok, map_ok, pattern_iff, int_iff, role, Writer.Conforms]
  constructor
  · rintro ⟨workflow, job, ⟨hw, hj⟩, runId, attempt, head, hh, rfl⟩
    exact ⟨hw, hj, rfl, rfl, rfl, hh⟩
  · rintro ⟨workflow, job, role, run, attempt, head⟩
    refine ⟨by_.workflowPath, by_.job, ⟨workflow, job⟩, run ▸ by_.runId.property,
      attempt ▸ by_.runAttempt.property, by_.headSha, head, ?_⟩
    simp only [role, run, attempt]

def Writer.of (by_ : RecordedBy) : Writer :=
  ⟨by_.workflowPath.val, by_.job.val, by_.role, by_.runId.val, by_.runAttempt.val, by_.headSha.val⟩

theorem Writer.of_conforms (by_ : RecordedBy) : (Writer.of by_).Conforms by_ :=
  ⟨rfl, rfl, rfl, rfl, rfl, rfl⟩

/-- Only the numbers of an identity are unbounded. -/
theorem weight_recordedBy {writer : Writer} {by_ : RecordedBy} (conforms : writer.Conforms by_) :
    Json.weight writer.recordedBy ≤
      3000 + Json.weight (.int writer.runId) + Json.weight (.int writer.runAttempt) := by
  obtain ⟨workflow, job, -, -, -, head⟩ := conforms
  have workflow_length : writer.workflowPath.scalars.length ≤ 123 :=
    workflow ▸ by_.workflowPath.length_le
  have job_length : writer.job.scalars.length ≤ 64 := job ▸ by_.job.length_le
  have head_length : writer.headSha.scalars.length ≤ 40 := head ▸ by_.headSha.length_le
  have role : writer.role.text.scalars.length ≤ 30 := by cases writer.role <;> decide
  have keys : Json.keyWeight
      ["workflow_path", "job", "role", "run_id", "run_attempt", "head_sha"] ≤ 400 := by
    decide
  simp only [Writer.recordedBy, Json.weight_obj, Json.weight_str, List.map_cons, List.map_nil,
    List.sum_cons, List.sum_nil]
  omega

/-- What a job wants to record of an authorization. -/
structure Draft where
  authorizationId : AuthorizationId
  kind : Kind
  target : State
  evidence : List (String × Json)
  now : Timestamp

def unsignedRecord (view : LedgerView) (writer : Writer) (repositoryId issue : Positive)
    (draft : Draft) : List (String × Json) :=
  [("schema_version", .str recordSchemaVersion), ("kind", .str draft.kind.text),
    ("record_seq", .int view.nextSeq),
    ("prev_record_sha256", optionalJson (fun digest => .str digest.val) view.headRecordDigest),
    ("recorded_at", .str draft.now.val), ("recorded_by", writer.recordedBy),
    ("repository_id", .int repositoryId.val), ("issue_number", .int issue.val),
    ("authorization_id", .str draft.authorizationId.val), ("state", .str draft.target.text),
    ("evidence", .obj draft.evidence)]

section Signed

variable {view : LedgerView} {writer : Writer} {repositoryId issue : Positive} {draft : Draft}

theorem unsigned_unsignedRecord :
    (unsignedRecord view writer repositoryId issue draft).filter
        (fun field => field.1 != "signature") =
      unsignedRecord view writer repositoryId issue draft := rfl

variable [Ed25519] {key : Ed25519.PrivateKey}

def signedRecord (view : LedgerView) (writer : Writer) (repositoryId issue : Positive)
    (key : Ed25519.PrivateKey) (draft : Draft) : Json :=
  signRecord (unsignedRecord view writer repositoryId issue draft) key stateSignatureDomain

/-- The record is within the bounds of the schema. -/
def Fits (record : Json) : Prop :=
  (canonicalJson record).length ≤ maxRecordBytes ∧ depth record.canon ≤ maxDepth

/-- What a verifier reads from a record that was written on top of a view. -/
def writtenRecord (view : LedgerView) (by_ : RecordedBy) (repositoryId issue : Positive)
    (key : Ed25519.PrivateKey) (writer : Writer) (draft : Draft) (payload : Payload) : Record where
  recordSeq := ⟨view.nextSeq, Int.natCast_nonneg _⟩
  prevRecordSha256 := view.headRecordDigest
  recordedAt := draft.now
  recordedBy := by_
  repositoryId := repositoryId
  issueNumber := issue
  authorizationId := draft.authorizationId
  payload := payload
  signature := ⟨publicKeyId (Ed25519.publicKey key), Ed25519.sign key (signedBytes
    stateSignatureDomain (.obj (unsignedRecord view writer repositoryId issue draft)))⟩
  raw := (signedRecord view writer repositoryId issue key draft).canon

theorem object_recordBase_signed (place : String) :
    object recordBase (signedRecord view writer repositoryId issue key draft) place =
      (fun by_ => (draft.kind, draft.target, fun payload raw =>
        { writtenRecord view by_ repositoryId issue key writer draft payload with raw := raw })) <$>
      recordedBy writer.recordedBy (place ++ "." ++ "recorded_by") := by
  have kind (place : String) : enum Kind.text kinds (.str draft.kind.text) place = .ok draft.kind :=
    enum_text place (by cases draft.kind <;> decide)
  have state (place : String) :
      enum State.text states (.str draft.target.text) place = .ok draft.target :=
    enum_text place (by cases draft.target <;> decide)
  have prev (place : String) : optional (pattern sha64Pattern)
      (optionalJson (fun digest => .str digest.val) view.headRecordDigest) place =
        .ok view.headRecordDigest :=
    optional_json (fun digest => pattern_val digest _) nofun _
  have seq (place : String) : int 0 (.int view.nextSeq) place =
      .ok ⟨view.nextSeq, Int.natCast_nonneg _⟩ :=
    int_iff.mpr rfl
  have signature (place : String) (value : Signature) :
      recordSignature stateSignatureDomain (.obj [("alg", .str "ed25519"),
        ("key_id", .str (publicKeyId (Ed25519.publicKey key)).val),
        ("domain", .str stateSignatureDomain), ("value", .str value.val)]) place =
        .ok ⟨publicKeyId (Ed25519.publicKey key), value⟩ := by
    rw [recordSignature, object_fields (by simp) (by simp)]
    simp [Json.lookup]
  simp only [signedRecord, signRecord, unsigned_unsignedRecord, writtenRecord]
  generalize Ed25519.sign key _ = value
  rw [unsignedRecord, recordBase, object_fields (by simp) (by simp)]
  simp only [Schema.read_seq, Schema.read_map, Schema.read_field]
  cases read : recordedBy writer.recordedBy (place ++ "." ++ "recorded_by") with
  | error exn => simp [Json.lookup, kind, prev, seq, read]
  | ok by_ => simp [Json.lookup, kind, state, prev, seq, anything, signature, read]

theorem get?_evidence_signed :
    (signedRecord view writer repositoryId issue key draft).get? "evidence" =
      some (.obj draft.evidence) := by
  rw [signedRecord, signRecord, unsigned_unsignedRecord]
  simp [unsignedRecord, Json.get?, Json.lookup]

/-- A record is read back exactly if the writer, the evidence and the bounds conform. -/
theorem decodeRecord_signed {record : Record} :
    decodeRecord (signedRecord view writer repositoryId issue key draft) = .ok record ↔
      Fits (signedRecord view writer repositoryId issue key draft) ∧
        ∃ by_ payload, writer.Conforms by_ ∧
          validatePayload draft.kind draft.target (.obj draft.evidence) = .ok payload ∧
          writtenRecord view by_ repositoryId issue key writer draft payload = record := by
  rw [decodeRecord, reload_eq, ok_bind, reraise_ok, validateRecordSchema_ok]
  simp only [Stable.canon, object_recordBase_signed, map_ok, recordedBy_iff, canonicalJson_canon,
    Json.get?_canon, get?_evidence_signed, Option.map_some, Option.some.injEq, Fits]
  constructor
  · rintro ⟨fits, kind, state, finish, ⟨by_, conforms, read⟩, _, rfl, payload, valid, rfl⟩
    cases read
    exact ⟨fits, by_, payload, conforms, validatePayload_canon _ _ _ ▸ valid, rfl⟩
  · rintro ⟨fits, by_, payload, conforms, valid, rfl⟩
    exact ⟨fits, _, _, _, ⟨by_, conforms, rfl⟩, _, rfl, payload,
      (validatePayload_canon _ _ _).trans valid, rfl⟩

/-- A record is within the bounds if its evidence and its numbers are small. -/
theorem fits_signedRecord {by_ : RecordedBy} (conforms : writer.Conforms by_)
    (small : Json.weight (.obj draft.evidence) + Json.weight (.int view.nextSeq) +
      Json.weight (.int repositoryId.val) + Json.weight (.int issue.val) +
      Json.weight (.int writer.runId) + Json.weight (.int writer.runAttempt) ≤ 50000)
    (shallow : depth (.obj draft.evidence) < maxDepth) :
    Fits (signedRecord view writer repositoryId issue key draft) := by
  constructor
  · refine Nat.le_trans (Json.bytes_dump_le _) ?_
    rw [signedRecord, signRecord, unsigned_unsignedRecord]
    generalize Ed25519.sign key _ = signature
    have by_weight := weight_recordedBy conforms
    have id : draft.authorizationId.val.scalars.length ≤ 97 := draft.authorizationId.length_le
    have now : draft.now.val.scalars.length ≤ 27 := draft.now.length_le
    have signer : (publicKeyId (Ed25519.publicKey key)).val.scalars.length ≤ 64 :=
      (publicKeyId (Ed25519.publicKey key)).length_le
    have value : signature.val.scalars.length ≤ 128 := signature.length_le
    have prev : Json.weight (optionalJson (fun digest => .str digest.val) view.headRecordDigest) ≤
        6 * 64 + 2 := by
      cases view.headRecordDigest with
      | none => decide
      | some digest => exact Nat.add_le_add_right (Nat.mul_le_mul_left 6 digest.length_le) 2
    have kind : draft.kind.text.scalars.length ≤ 16 := by cases draft.kind <;> decide
    have state : draft.target.text.scalars.length ≤ 19 := by cases draft.target <;> decide
    have keys : Json.keyWeight ["schema_version", "kind", "record_seq", "prev_record_sha256",
        "recorded_at", "recorded_by", "repository_id", "issue_number", "authorization_id", "state",
        "evidence", "signature"] = 834 := by decide
    have signature_keys : Json.keyWeight ["alg", "key_id", "domain", "value"] = 136 := by
      decide
    have version : recordSchemaVersion.scalars.length = 38 := by decide
    have domain : stateSignatureDomain.scalars.length = 27 := by decide
    have algorithm : "ed25519".scalars.length = 7 := by decide
    rw [unsignedRecord]
    generalize Json.obj draft.evidence = evidence at small
    simp only [List.cons_append, List.nil_append, Json.weight_obj, Json.weight_str, List.map_cons,
      List.map_nil, List.sum_cons, List.sum_nil, maxRecordBytes, keys, signature_keys, version,
      domain, algorithm]
    clear keys signature_keys version domain algorithm shallow conforms
    -- what is left is a sum of named numbers
    generalize Json.weight writer.recordedBy = by_bytes at by_weight ⊢
    generalize Json.weight evidence = evidence_bytes at small ⊢
    generalize Json.weight (optionalJson _ _) = prev_bytes at prev ⊢
    generalize draft.kind.text.scalars.length = kind_bytes at kind ⊢
    generalize draft.target.text.scalars.length = state_bytes at state ⊢
    generalize draft.authorizationId.val.scalars.length = id_bytes at id ⊢
    generalize draft.now.val.scalars.length = now_bytes at now ⊢
    generalize signature.val.scalars.length = value_bytes at value ⊢
    generalize (publicKeyId (Ed25519.publicKey key)).val.scalars.length = signer_bytes at signer ⊢
    omega
  · refine Nat.le_trans (depth_canon _) ?_
    have prev : depth (optionalJson (fun digest => .str digest.val) view.headRecordDigest) = 0 := by
      cases view.headRecordDigest <;> rfl
    have writing : depth writer.recordedBy = 1 := rfl
    rw [signedRecord, signRecord, unsigned_unsignedRecord]
    simp only [unsignedRecord, List.cons_append, List.nil_append, depth, depthFields, prev, writing]
    simp only [depth] at shallow
    simp only [maxDepth] at shallow ⊢
    omega

/-- A record of a trusted run under a pinned key is taken exactly if it conforms to
the schema and folds into the view it was written on. -/
theorem applyRecord_signed {trust : TrustRoots} {provenance : ProvenanceCheck} {view' : LedgerView}
    (pinned : trust.stateKeys (publicKeyId (Ed25519.publicKey key)) = some (Ed25519.publicKey key))
    (repository : view.repositoryId = repositoryId.val) (home : trust.repositoryId = repositoryId.val)
    (same_issue : view.issueNumber = issue.val)
    (trusted : ∀ by_ record, writer.Conforms by_ → provenance by_ record = .ok true) :
    applyRecord trust provenance view (signedRecord view writer repositoryId issue key draft) none =
        .ok view' ↔
      Fits (signedRecord view writer repositoryId issue key draft) ∧
        ∃ by_ payload, writer.Conforms by_ ∧
          validatePayload draft.kind draft.target (.obj draft.evidence) = .ok payload ∧
          foldRecord view (writtenRecord view by_ repositoryId issue key writer draft payload) =
            .ok view' := by
  have checked (by_ : RecordedBy) (payload : Payload) (conforms : writer.Conforms by_) :
      checkRecord view (writtenRecord view by_ repositoryId issue key writer draft payload) trust
        provenance = .ok () := by
    have verified := verifyRecordSignature_signed
      (unsignedRecord view writer repositoryId issue draft) key stateSignatureDomain pinned
    rw [unsigned_unsignedRecord] at verified
    simp only [checkRecord, check_ok, require_ok]
    exact ⟨verified, rfl, rfl, ⟨repository.symm, same_issue.symm⟩, home.symm,
      bind_ok.mpr ⟨true, trusted by_ _ conforms, require_of rfl⟩⟩
  simp only [applyRecord, checkIndex, bind_ok, decodeRecord_signed]
  constructor
  · rintro ⟨_, ⟨fits, by_, payload, conforms, valid, rfl⟩, _, -, _, folds, _, -, same⟩
    cases same
    exact ⟨fits, by_, payload, conforms, valid, folds⟩
  · rintro ⟨fits, by_, payload, conforms, valid, folds⟩
    exact ⟨_, ⟨fits, by_, payload, conforms, valid, rfl⟩, (), checked by_ payload conforms, view',
      folds, (), trivial, rfl⟩

end Signed

/-- What one job of a chain writes. -/
structure Entry where
  by_ : RecordedBy
  authorizationId : AuthorizationId
  payload : Payload
  now : Timestamp

section Chain

variable [Ed25519] (repositoryId issue : Positive) (key : Ed25519.PrivateKey)

namespace Entry

def draft (entry : Entry) : Draft :=
  ⟨entry.authorizationId, entry.payload.kind, entry.payload.state, entry.payload.fields, entry.now⟩

def json (view : LedgerView) (entry : Entry) : Json :=
  signedRecord view (.of entry.by_) repositoryId issue key entry.draft

def record (view : LedgerView) (entry : Entry) : Record :=
  writtenRecord view entry.by_ repositoryId issue key (.of entry.by_) entry.draft entry.payload

/-- The entry can be written on the view and leaves the other one. -/
structure Writes (view : LedgerView) (entry : Entry) (view' : LedgerView) : Prop where
  writable : entry.payload.Writable
  fits : Fits (entry.json repositoryId issue key view)
  folds : foldRecord view (entry.record repositoryId issue key view) = .ok view'

/-- The record says what the entry says. -/
def Describes (entry : Entry) (record : Record) : Prop :=
  record.payload = entry.payload ∧ record.authorizationId = entry.authorizationId ∧
    record.recordedBy = entry.by_

end Entry

/-- The chain of the entries, each written on the view the ones before it leave. -/
def writeChain : LedgerView → List Entry → List (Json × Option Json)
  | _, [] => []
  | view, entry :: entries =>
      (entry.json repositoryId issue key view, none) ::
        match foldRecord view (entry.record repositoryId issue key view) with
        | .ok view => writeChain view entries
        | .error _ => []

variable {repositoryId issue key} {trust : TrustRoots} {provenance : ProvenanceCheck}

theorem Entry.Writes.decodes {view view' : LedgerView} {entry : Entry}
    (h : entry.Writes repositoryId issue key view view') :
    decodeRecord (entry.json repositoryId issue key view) =
      .ok (entry.record repositoryId issue key view) :=
  decodeRecord_signed.mpr ⟨h.fits, entry.by_, entry.payload, Writer.of_conforms _,
    validatePayload_fields h.writable, rfl⟩

theorem Entry.Writes.same {view view' : LedgerView} {entry : Entry}
    (h : entry.Writes repositoryId issue key view view') :
    view'.repositoryId = view.repositoryId ∧ view'.issueNumber = view.issueNumber := by
  cases foldRecord_iff.mp h.folds <;> exact ⟨rfl, rfl⟩

theorem writeChain_cons {view view' : LedgerView} {entry : Entry} {entries : List Entry}
    (h : entry.Writes repositoryId issue key view view') :
    writeChain repositoryId issue key view (entry :: entries) =
      (entry.json repositoryId issue key view, none) ::
        writeChain repositoryId issue key view' entries := by
  rw [writeChain, h.folds]

/-- What a verifier of the chain has to trust. -/
structure Trusted (repositoryId : Positive) (key : Ed25519.PrivateKey) (trust : TrustRoots)
    (provenance : ProvenanceCheck) : Prop where
  pinned : trust.stateKeys (publicKeyId (Ed25519.publicKey key)) = some (Ed25519.publicKey key)
  home : trust.repositoryId = repositoryId.val
  runs : ∀ by_ record, provenance by_ record = .ok true

theorem Entry.Writes.applies {view view' : LedgerView} {entry : Entry}
    (trusted : Trusted repositoryId key trust provenance)
    (repository : view.repositoryId = repositoryId.val) (same_issue : view.issueNumber = issue.val)
    (h : entry.Writes repositoryId issue key view view') :
    applyRecord trust provenance view (entry.json repositoryId issue key view) none = .ok view' :=
  (applyRecord_signed trusted.pinned repository trusted.home same_issue
    fun by_ record _ => trusted.runs by_ record).mpr ⟨h.fits, entry.by_, entry.payload,
      Writer.of_conforms _, validatePayload_fields h.writable, h.folds⟩

/-- A chain of entries that fold verifies, and its records say what was written. -/
theorem writeChain_verifies {view view' : LedgerView} {entries : List Entry}
    (trusted : Trusted repositoryId key trust provenance)
    (repository : view.repositoryId = repositoryId.val) (same_issue : view.issueNumber = issue.val)
    (run : Run (fun view entry view' => entry.Writes repositoryId issue key view view')
      view entries view') :
    (writeChain repositoryId issue key view entries).foldlM
        (fun view entry => applyRecord trust provenance view entry.1 entry.2) view = .ok view' ∧
      ∃ records, Decoded (writeChain repositoryId issue key view entries) records ∧
        List.Forall₂ Entry.Describes entries records := by
  induction entries generalizing view with
  | nil =>
      cases Run.nil_inv run
      exact ⟨rfl, [], .nil, .nil⟩
  | cons entry entries ih =>
      obtain ⟨next, writes, rest⟩ := Run.cons_inv run
      have applied := writes.applies trusted repository same_issue
      obtain ⟨verified, records, each, described⟩ :=
        ih (writes.same.1.trans repository) (writes.same.2.trans same_issue) rest
      rw [writeChain_cons writes, List.foldlM_cons, applied]
      exact ⟨verified, _ :: records, .cons writes.decodes each, .cons ⟨rfl, rfl, rfl⟩ described⟩

/-- Conditions on the entries are conditions on the records of the chain. -/
theorem writeChain_everyStep {C : LedgerView → Record → Prop} {view view' : LedgerView}
    {entries : List Entry} (trusted : Trusted repositoryId key trust provenance)
    (repository : view.repositoryId = repositoryId.val) (same_issue : view.issueNumber = issue.val)
    (run : Run (fun view entry view' => entry.Writes repositoryId issue key view view' ∧
      C view (entry.record repositoryId issue key view)) view entries view') :
    EveryStep trust provenance C view (writeChain repositoryId issue key view entries) := by
  induction entries generalizing view with
  | nil => trivial
  | cons entry entries ih =>
      obtain ⟨next, ⟨writes, holds⟩, rest⟩ := Run.cons_inv run
      rw [writeChain_cons writes]
      intro record view' decoded applied
      cases writes.decodes.symm.trans decoded
      cases (writes.applies trusted repository same_issue).symm.trans applied
      exact ⟨holds, ih (writes.same.1.trans repository) (writes.same.2.trans same_issue) rest⟩

end Chain

end Hunter.IssueAgent
