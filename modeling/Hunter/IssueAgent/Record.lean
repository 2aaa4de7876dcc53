import Hunter.IssueAgent.Evidence
import Hunter.IssueAgent.Signing

/-!
Records of the Issue ledger. A validated record holds its typed fields and the
JSON they were read from, which is what the next record's digest chains to.
-/

namespace Hunter.IssueAgent

open Schema (field)

def recordSchemaVersion : String := "hunter-issue-agent-execution-record-v1"

def stateSignatureDomain : String := "hunter-issue-agent-state-v1"

def maxRecordBytes : Nat := 64 * 1024

def maxDepth : Nat := 6

structure RecordedBy where
  workflowPath : workflowPattern.Matching
  job : jobPattern.Matching
  role : Role
  runId : Positive
  runAttempt : Positive
  headSha : Sha40
  deriving DecidableEq

def recordedBy : Validator RecordedBy :=
  object (RecordedBy.mk <$> field "workflow_path" (pattern workflowPattern) <*>
    field "job" (pattern jobPattern) <*> field "role" (enum Role.text roles) <*>
    field "run_id" positive <*> field "run_attempt" positive <*> field "head_sha" sha40)

instance : Stable recordedBy := by unfold recordedBy; infer_instance

/-- What a record says: a transition with its evidence, or one of the three resume
records with the state it was written in. -/
inductive Payload where
  | transition (evidence : Evidence)
  | resumeRequested (state : State) (evidence : ResumeRequested)
  | resumeBound (state : State) (evidence : ResumeBound)
  | resumeAbandoned (state : State) (evidence : ResumeAbandoned)

def Payload.state : Payload → State
  | .transition evidence => evidence.state
  | .resumeRequested state _ | .resumeBound state _ | .resumeAbandoned state _ => state

def Payload.kind : Payload → Kind
  | .transition _ => .transition
  | .resumeRequested _ _ => .resumeRequested
  | .resumeBound _ _ => .resumeBound
  | .resumeAbandoned _ _ => .resumeAbandoned

structure Record where
  recordSeq : { n : Int // 0 ≤ n }
  prevRecordSha256 : Option Sha64
  recordedAt : Timestamp
  recordedBy : RecordedBy
  repositoryId : Positive
  issueNumber : Positive
  authorizationId : AuthorizationId
  payload : Payload
  signature : RecordSignature
  raw : Json

def validatePayload (kind : Kind) (state : State) (evidence : Json) : Py Payload :=
  match kind with
  | .transition =>
      .transition <$> evidenceSchemas state evidence ("record.evidence[" ++ state.text ++ "]")
  | .resumeRequested =>
      .resumeRequested state <$> resumeRequested evidence "record.evidence[resume_requested]"
  | .resumeBound => .resumeBound state <$> resumeBound evidence "record.evidence[resume_bound]"
  | .resumeAbandoned =>
      .resumeAbandoned state <$> resumeAbandoned evidence "record.evidence[resume_abandoned]"

theorem validatePayload_canon (kind : Kind) (state : State) (evidence : Json) :
    validatePayload kind state evidence.canon = validatePayload kind state evidence := by
  cases kind <;> simp only [validatePayload, Stable.canon]

mutual
/-- How deep arrays and objects are nested above the deepest item. -/
def depth : Json → Nat
  | .arr items => depthItems items
  | .obj fields => depthFields fields
  | _ => 0
def depthItems : List Json → Nat
  | [] => 0
  | j :: items => max (depth j + 1) (depthItems items)
def depthFields : List (String × Json) → Nat
  | [] => 0
  | (_, j) :: fields => max (depth j + 1) (depthFields fields)
end

theorem depthFields_insertField (k : String) (v : Json) (fields : List (String × Json)) :
    depthFields (Json.insertField k v fields) ≤ max (depth v + 1) (depthFields fields) := by
  induction fields with
  | nil => exact Nat.le_refl _
  | cons field fields ih =>
      obtain ⟨k', v'⟩ := field
      simp only [Json.insertField]
      split
      · exact Nat.le_refl _
      · split <;> simp only [depthFields] <;> omega

theorem depth_canon (j : Json) : depth j.canon ≤ depth j := by
  induction j with
  | null | bool _ | int _ | float _ | str _ => exact Nat.le_refl _
  | arr items ih =>
      simp only [Json.canon, depth]
      induction items with
      | nil => exact Nat.le_refl _
      | cons j items rest =>
          have first := ih j (by simp)
          have others := rest fun item member => ih item (by simp [member])
          simp only [Json.canonItems, depthItems]
          omega
  | obj fields ih =>
      simp only [Json.canon, depth]
      induction fields with
      | nil => exact Nat.le_refl _
      | cons field fields rest =>
          obtain ⟨k, v⟩ := field
          have value : depth v.canon ≤ depth v := ih (k, v) (by simp)
          have others := rest fun field member => ih field (by simp [member])
          have inserted := depthFields_insertField k (Json.canon v) (Json.canonFields fields)
          simp only [Json.canonFields, depthFields]
          omega

def anything : Validator Unit := fun _ _ => .ok ()

instance : Stable anything where
  canon _ _ := rfl

/-- `_RECORD_BASE`: the evidence is validated by its kind and state afterwards. -/
def recordBase : Schema (Kind × State × (Payload → Json → Record)) :=
  (fun _ kind seq prev recordedAt by_ repository issue id state _ signature =>
      (kind, state, fun payload raw =>
        ⟨seq, prev, recordedAt, by_, repository, issue, id, payload, signature, raw⟩)) <$>
    field "schema_version" (exactText recordSchemaVersion) <*>
    field "kind" (enum Kind.text kinds) <*> field "record_seq" (int 0) <*>
    field "prev_record_sha256" (optional sha64) <*> field "recorded_at" timestamp <*>
    field "recorded_by" recordedBy <*> field "repository_id" positive <*>
    field "issue_number" positive <*> field "authorization_id" authorizationId <*>
    field "state" (enum State.text states) <*> field "evidence" anything <*>
    field "signature" (recordSignature stateSignatureDomain)

instance : recordBase.Stable := by unfold recordBase; infer_instance

/-- Refuse anything outside the closed record schema: types, vocabulary, size, depth. -/
def validateRecordSchema (record : Json) : Py Record :=
  match record with
  | .obj _ => do
      require ((canonicalJson record).drop maxRecordBytes = [] ∧ depth record ≤ maxDepth)
        (.ledgerSchemaError "record exceeds the size or depth bound")
      let (kind, state, finish) ← object recordBase record "record"
      let evidence ← item "evidence" (record.get? "evidence")
      let payload ← validatePayload kind state evidence
      return finish payload record
  | _ => .error (.ledgerSchemaError "record must be an object")

theorem validateRecordSchema_ok {json : Json} {record : Record} :
    validateRecordSchema json = .ok record ↔
      ((canonicalJson json).length ≤ maxRecordBytes ∧ depth json ≤ maxDepth) ∧
        ∃ kind state finish, object recordBase json "record" = .ok (kind, state, finish) ∧
          ∃ evidence, json.get? "evidence" = some evidence ∧
            ∃ payload, validatePayload kind state evidence = .ok payload ∧
              finish payload json = record := by
  cases json with
  | obj fields =>
      simp only [validateRecordSchema, List.drop_eq_nil_iff]
      rw [check_ok, require_ok]
      simp only [bind_ok, item_ok, pure_eq_ok, Except.ok.injEq, Prod.exists]
  | _ => simp [validateRecordSchema, object]

/-- The digest the next record must carry, signature included. -/
def recordDigest (record : Json) : Sha64 := sha256Hex (canonicalJson record)

/-- An authorization has at most one primary and one fallback execution. -/
inductive ExecutionAttempt where
  | primary | fallback
  deriving DecidableEq, Repr

def executionIdentity (id : AuthorizationId) (authorizeRunId : Positive) (controlSha : Sha40)
    (handoffSha256 : Sha64) (attempt : ExecutionAttempt) : Sha64 :=
  let material := [("authorization_id", .str id.val), ("authorize_run_id", .int authorizeRunId.val),
    ("run_attempt", .int 1), ("control_sha", .str controlSha.val),
    ("handoff_sha256", .str handoffSha256.val)]
  match attempt with
  | .primary => sha256Hex (canonicalJson (.obj material))
  | .fallback => sha256Hex (canonicalJson (.obj (material ++ [("execution_attempt", .int 2)])))

/-- Deterministic idempotency identity of one publication. -/
def publicationIdentity (repositoryId issueNumber : Int) (id : AuthorizationId) (baseSha : Sha40)
    (taskScopeSha256 executionId resultSha256 : Sha64) (treeSha unsignedCommitSha controlSha : Sha40)
    (writerLogin : String) : Sha64 :=
  sha256Hex (canonicalJson (.obj [("repository_id", .int repositoryId),
    ("issue_number", .int issueNumber), ("authorization_id", .str id.val),
    ("base_sha", .str baseSha.val), ("task_scope_sha256", .str taskScopeSha256.val),
    ("execution_id", .str executionId.val), ("result_sha256", .str resultSha256.val),
    ("tree_sha", .str treeSha.val), ("unsigned_commit_sha", .str unsignedCommitSha.val),
    ("control_sha", .str controlSha.val), ("writer_login", .str writerLogin)]))

end Hunter.IssueAgent
