import Hunter.IssueAgent.Writing
import Hunter.Knowledge.Admission

/-!
The record an append signs on top of a view, and exactly when a verifier takes it.
-/

namespace Hunter.Knowledge

open IssueAgent

/-- One write of a batch: the evidence as it was handed in. -/
structure Write where
  kind : Kind
  evidence : List (String × Json)

def Write.json (write : Write) : Json := .obj write.evidence

def Write.of (evidence : Evidence) : Write := ⟨evidence.kind, evidence.fields⟩

section Job

variable [Ed25519]

/-- The run that appends: its identity, its clock and its signing key. -/
structure Job where
  signingKey : Ed25519.PrivateKey
  recordedBy : Json
  recordedAt : String

/-- What the schema reads from the run's identity and its clock. -/
def Job.Conforms (job : Job) (by_ : RecordedBy) (time : Timestamp) : Prop :=
  IssueAgent.recordedBy job.recordedBy ("knowledge record" ++ "." ++ "recorded_by") = .ok by_ ∧
    job.recordedAt = time.val

variable (repositoryId : Int) (view : KnowledgeView) (job : Job) (write : Write) (key : String)

def unsignedRecord : List (String × Json) :=
  [("schema_version", .str recordSchemaVersion), ("kind", .str write.kind.text), ("key", .str key),
    ("record_seq", .int view.nextSeq),
    ("prev_record_sha256", optionalJson (fun digest => .str digest.val) view.headRecordDigest),
    ("recorded_at", .str job.recordedAt), ("recorded_by", job.recordedBy),
    ("repository_id", .int repositoryId), ("evidence", write.json)]

def signedRecord : Json :=
  signRecord (unsignedRecord repositoryId view job write key) job.signingKey knowledgeLedgerDomain

theorem unsigned_unsignedRecord :
    (unsignedRecord repositoryId view job write key).filter (fun field => field.1 != "signature") =
      unsignedRecord repositoryId view job write key := rfl

/-- The record is within its size bound. -/
def Fits (record : Json) : Prop := (canonicalJson record).length ≤ maxRecordBytes

variable {repositoryId view job write key}

/-- The evidence is of its kind's schema. -/
def Write.Validates (write : Write) (evidence : Evidence) : Prop :=
  evidenceSchemas write.kind write.json ("knowledge evidence[" ++ write.kind.text ++ "]") =
    .ok evidence

/-- What a verifier reads from a record that was signed on top of a view. -/
def writtenRecord (repositoryId : Positive) (view : KnowledgeView) (job : Job) (write : Write)
    (by_ : RecordedBy) (time : Timestamp) (evidence : Evidence) : Record where
  key := evidence.key
  recordSeq := ⟨view.nextSeq, Int.natCast_nonneg _⟩
  prevRecordSha256 := view.headRecordDigest
  recordedAt := time
  recordedBy := by_
  repositoryId := repositoryId
  evidence := evidence
  rawEvidence := write.json.canon
  raw := (signedRecord repositoryId.val view job write evidence.key.val).canon

theorem object_recordSchema_signed {kind : Kind} {finish : Evidence → Json → Json → Record} :
    object recordSchema (signedRecord repositoryId view job write key) "knowledge record" =
        .ok (kind, finish) ↔
      ∃ (slot : Sha64) (repository : Positive) (by_ : RecordedBy) (time : Timestamp),
        (key = slot.val ∧ repositoryId = repository.val) ∧ job.Conforms by_ time ∧
          kind = write.kind ∧ finish = fun evidence raw whole =>
            ⟨slot, ⟨view.nextSeq, Int.natCast_nonneg _⟩, view.headRecordDigest, time, by_,
              repository, evidence, raw, whole⟩ := by
  have kinds_text (place : String) :
      enum Kind.text kinds (.str write.kind.text) place = .ok write.kind :=
    enum_text place (by cases write.kind <;> decide)
  have prev (place : String) : optional (pattern sha64Pattern)
      (optionalJson (fun digest => .str digest.val) view.headRecordDigest) place =
        .ok view.headRecordDigest :=
    optional_json (fun digest => pattern_val digest _) nofun _
  have seq (place : String) : int 0 (.int view.nextSeq) place =
      .ok ⟨view.nextSeq, Int.natCast_nonneg _⟩ :=
    int_iff.mpr rfl
  simp only [signedRecord, signRecord, unsigned_unsignedRecord]
  generalize Ed25519.sign job.signingKey _ = value
  rw [unsignedRecord, recordSchema, object_fields (by simp) (by simp)]
  simp only [Schema.read_seq, Schema.read_map, Schema.read_field]
  simp only [List.cons_append, List.nil_append, Json.lookup, String.reduceEq, ↓reduceIte,
    Option.or_self, Option.or_some, Option.getD_none, Option.or_none, item_some,
    String.reduceAppend, ok_bind, exactText_self, kinds_text, seq, prev, anything, map_of_ok,
    ok_seq, seq_ok, map_ok, pattern_iff, int_iff, Except.ok.injEq, exists_eq_left',
    exists_exists_and_eq_and, exists_exists_and_exists_and_eq_and, Subtype.exists, exists_and_left,
    ↓existsAndEq, and_true, true_and, exists_const, Prod.mk.injEq, Job.Conforms]
  constructor
  · rintro ⟨slot, time, by_, ⟨rfl, clock, writer⟩, rfl, repository, rfl⟩
    exact ⟨slot, rfl, repository, by_, time, ⟨writer, clock⟩, rfl, rfl⟩
  · rintro ⟨slot, rfl, repository, by_, time, ⟨writer, clock⟩, rfl, rfl⟩
    exact ⟨slot, time, by_, ⟨rfl, clock, writer⟩, rfl, repository, rfl⟩

theorem decodeRecord_signed {record : Record}
    (named : recordKey write.kind write.json = .ok key) :
    decodeRecord (signedRecord repositoryId view job write key) = .ok record ↔
      Fits (signedRecord repositoryId view job write key) ∧
        ∃ (repository : Positive) (by_ : RecordedBy) (time : Timestamp) (evidence : Evidence),
          repositoryId = repository.val ∧ job.Conforms by_ time ∧ write.Validates evidence ∧
            writtenRecord repository view job write by_ time evidence = record := by
  have raw : (signedRecord repositoryId view job write key).canon.get? "evidence" =
      some write.json.canon := by
    rw [Json.get?_canon, signedRecord, signRecord, unsigned_unsignedRecord]
    simp [unsignedRecord, Json.get?, Json.lookup]
  have key_of (evidence : Evidence) (valid : write.Validates evidence) : key = evidence.key.val :=
    Except.ok.inj (named.symm.trans (recordKey_of_valid valid))
  simp only [decodeRecord, reload_eq, ok_bind, validateRecord, raw, item_some, Stable.canon,
    bind_ok, reraise_ok, Prod.exists, object_recordSchema_signed, pure_eq_ok, ok_inj]
  constructor
  · rintro ⟨_, ⟨kind, finish, ⟨slot, repository, by_, time, ⟨same_key, rfl⟩, conforms, rfl, rfl⟩,
      evidence, valid, rfl⟩, _, small, rfl⟩
    have fits := require_ok.mp small
    rw [List.drop_eq_nil_iff, canonicalJson_canon] at fits
    cases key_of evidence valid
    cases Regex.Matching.ext same_key
    exact ⟨fits, repository, by_, time, evidence, rfl, conforms, valid, rfl⟩
  · rintro ⟨fits, repository, by_, time, evidence, rfl, conforms, valid, rfl⟩
    rw [Fits, ← canonicalJson_canon] at fits
    cases key_of evidence valid
    exact ⟨_, ⟨_, _, ⟨evidence.key, repository, by_, time, ⟨rfl, rfl⟩, conforms, rfl, rfl⟩,
      evidence, valid, rfl⟩, (), require_of (List.drop_eq_nil_iff.mpr fits), rfl⟩

/-- What has to hold of a write so that its record extends a view, apart from its size. -/
structure Writable (view : KnowledgeView) (job : Job) (write : Write) (by_ : RecordedBy)
    (time : Timestamp) (evidence : Evidence) : Prop where
  conforms : job.Conforms by_ time
  valid : write.Validates evidence
  role : by_.role ∈ writerRoles write.kind
  fresh : ¬view.Taken write.kind evidence.key

/-- A record of a trusted run under a pinned key is taken exactly if its evidence is
admitted under a key of its own. -/
theorem apply_signed {repositoryId : Positive} {view' : KnowledgeView} {trust : TrustRoots}
    {provenance : ProvenanceCheck} (named : recordKey write.kind write.json = .ok key)
    (pinned : trust.stateKeys (publicKeyId (Ed25519.publicKey job.signingKey)) =
      some (Ed25519.publicKey job.signingKey))
    (home : trust.repositoryId = repositoryId.val) (repository : view.repositoryId = trust.repositoryId)
    (trusted : ∀ by_ time record, job.Conforms by_ time → provenance by_ record = .ok true) :
    apply trust provenance view (signedRecord trust.repositoryId view job write key) = .ok view' ↔
      Fits (signedRecord trust.repositoryId view job write key) ∧
        ∃ by_ time evidence, Writable view job write by_ time evidence ∧
          ∃ folded, Admits view evidence folded ∧
            folded.append (writtenRecord repositoryId view job write by_ time evidence) = view' := by
  have kind_of {evidence : Evidence} (valid : write.Validates evidence) : evidence.kind = write.kind :=
    evidenceSchemas_kind valid
  have checked {by_ : RecordedBy} {time : Timestamp} {evidence : Evidence}
      (conforms : job.Conforms by_ time) (valid : write.Validates evidence) :
      checkRecord view (writtenRecord repositoryId view job write by_ time evidence) trust
          provenance = .ok () ↔
        by_.role ∈ writerRoles write.kind ∧ ¬view.Taken write.kind evidence.key := by
    have verified : verifyRawSignature (signedRecord repositoryId.val view job write
        evidence.key.val).canon trust.stateKeys knowledgeLedgerDomain = .ok () :=
      verifyRawSignature_signed _ job.signingKey knowledgeLedgerDomain pinned
    have derived : recordKey evidence.kind write.json.canon = .ok evidence.key.val := by
      rw [kind_of valid]
      exact recordKey_of_valid ((Stable.canon _ _).trans valid)
    have trusts := trusted by_ time (writtenRecord repositoryId view job write by_ time evidence)
      conforms
    simp only [checkRecord, check_ok, require_ok, writtenRecord, Record.kind, Record.slot, derived,
      ok_bind] at trusts ⊢
    simp only [trusts, ok_bind, check_ok, require_ok, verified, home, repository, kind_of valid,
      KnowledgeView.Taken, and_self, true_and, Bool.not_eq_true, Option.isSome_eq_false_iff,
      Option.isNone_iff_eq_none]
  simp only [apply_ok, decodeRecord_signed named, home]
  constructor
  · rintro ⟨_, ⟨fits, _, by_, time, evidence, same, conforms, valid, rfl⟩, checks, folds⟩
    cases Subtype.ext same
    obtain ⟨role, fresh⟩ := (checked conforms valid).mp checks
    exact ⟨fits, by_, time, evidence, ⟨conforms, valid, role, fresh⟩, folds⟩
  · rintro ⟨fits, by_, time, evidence, ⟨conforms, valid, role, fresh⟩, folds⟩
    exact ⟨_, ⟨fits, repositoryId, by_, time, evidence, rfl, conforms, valid, rfl⟩,
      (checked conforms valid).mpr ⟨role, fresh⟩, folds⟩

omit [Ed25519] in
theorem decodeRecord_canon (record : Json) : decodeRecord record.canon = decodeRecord record := by
  simp only [decodeRecord, reload_eq, Json.canon_canon]

theorem apply_canon {trust : TrustRoots} {provenance : ProvenanceCheck} (record : Json) :
    apply trust provenance view record.canon = apply trust provenance view record := by
  rw [apply, decodeRecord_canon, apply]

/-- What is folded in of a record that was signed is its write, under its key. -/
theorem apply_signed_extends {view' : KnowledgeView} {trust : TrustRoots}
    {provenance : ProvenanceCheck} (named : recordKey write.kind write.json = .ok key)
    (h : apply trust provenance view (signedRecord repositoryId view job write key) = .ok view') :
    ∃ record, decodeRecord (signedRecord repositoryId view job write key) = .ok record ∧
      Extends view record view' ∧ record.slot = (write.kind, key) ∧
        record.rawEvidence = write.json.canon := by
  obtain ⟨record, decoded, extended⟩ := apply_extends h
  refine ⟨record, decoded, extended, ?_⟩
  obtain ⟨-, repository, by_, time, evidence, -, -, valid, rfl⟩ := (decodeRecord_signed named).mp decoded
  have same : key = evidence.key.val := Except.ok.inj (named.symm.trans (recordKey_of_valid valid))
  have kind : evidence.kind = write.kind := evidenceSchemas_kind valid
  refine ⟨?_, rfl⟩
  simp only [Record.slot, Record.kind, writtenRecord, kind, same]

/-- A record is within its bound if its evidence, its clock and its numbers are small. -/
theorem fits_signedRecord {repositoryId : Int} {slot : Sha64}
    (small : Json.weight write.json + Json.weight job.recordedBy + Json.weight (.str job.recordedAt) +
      Json.weight (.int view.nextSeq) + Json.weight (.int repositoryId) ≤ 50000) :
    Fits (signedRecord repositoryId view job write slot.val) := by
  refine Nat.le_trans (Json.bytes_dump_le _) ?_
  rw [signedRecord, signRecord, unsigned_unsignedRecord]
  generalize Ed25519.sign job.signingKey _ = signature
  have key : slot.val.scalars.length ≤ 64 := slot.length_le
  have signer : (publicKeyId (Ed25519.publicKey job.signingKey)).val.scalars.length ≤ 64 :=
    (publicKeyId (Ed25519.publicKey job.signingKey)).length_le
  have value : signature.val.scalars.length ≤ 128 := signature.length_le
  have prev : Json.weight (optionalJson (fun digest => .str digest.val) view.headRecordDigest) ≤
      6 * 64 + 2 := by
    cases view.headRecordDigest with
    | none => decide
    | some digest => exact Nat.add_le_add_right (Nat.mul_le_mul_left 6 digest.length_le) 2
  have kind : write.kind.text.scalars.length ≤ 28 := by cases write.kind <;> decide
  have keys : Json.keyWeight ["schema_version", "kind", "key", "record_seq", "prev_record_sha256",
      "recorded_at", "recorded_by", "repository_id", "evidence", "signature"] ≤ 700 := by
    decide
  have signature_keys : Json.keyWeight ["alg", "key_id", "domain", "value"] = 136 := by
    decide
  have version : recordSchemaVersion.scalars.length ≤ 30 := by decide
  have domain : knowledgeLedgerDomain.scalars.length ≤ 30 := by decide
  have algorithm : "ed25519".scalars.length = 7 := by decide
  rw [unsignedRecord]
  generalize write.json = evidence at small ⊢
  simp only [List.cons_append, List.nil_append, Json.weight_obj, Json.weight_str, List.map_cons,
    List.map_nil, List.sum_cons, List.sum_nil, maxRecordBytes, signature_keys, algorithm] at small ⊢
  -- what is left is a sum of named numbers
  generalize Json.keyWeight _ = key_bytes at keys ⊢
  generalize Json.weight job.recordedBy = by_bytes at small ⊢
  generalize Json.weight evidence = evidence_bytes at small ⊢
  generalize Json.weight (optionalJson _ _) = prev_bytes at prev ⊢
  generalize write.kind.text.scalars.length = kind_bytes at kind ⊢
  generalize recordSchemaVersion.scalars.length = version_bytes at version ⊢
  generalize knowledgeLedgerDomain.scalars.length = domain_bytes at domain ⊢
  omega

end Job

end Hunter.Knowledge
