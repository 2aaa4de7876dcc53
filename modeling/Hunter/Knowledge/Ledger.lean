import Mathlib
import Hunter.IssueAgent.Ledger
import Hunter.Knowledge.Encoding

/-!
The verified view of the knowledge ledger and the fold that builds it. Every kind
of record is insert-only and unique by its key. One record is checked against the
verified prefix and folded in.
-/

namespace Hunter.Knowledge

open IssueAgent
open IssueAgent.Schema (field)

def knowledgeLedgerDomain : String := "hunter-knowledge-ledger-v1"

def recordSchemaVersion : String := "hunter-knowledge-record-v1"

def maxRemediationsPerFinding : Nat := 2

def maxRemediationsPerPr : Nat := 5

def findingId (repositoryId pullRequestNumber commentId : Int) : Sha64 :=
  sha256Hex (canonicalJson (.obj [("repository_id", .int repositoryId),
    ("pull_request_number", .int pullRequestNumber), ("comment_id", .int commentId)]))

def fingerprint (path claim : String) : Sha64 :=
  sha256Hex (canonicalJson (.obj [("path", .str path), ("claim", .str claim)]))

/-- `int(digits, 16)`. -/
def hexNumber (digits : List Char) : Nat :=
  digits.foldl (fun n c => 16 * n + (Json.hexValue c).getD 0) 0

/-- Sonar identities are apart from the comment numbers of GitHub. -/
def sonarCommentId (issueKey : String) : Int :=
  let digest := sha256Hex (canonicalJson (.obj [("sonar_issue_key", .str issueKey)]))
  hexNumber (digest.val.scalars.take 15) + 10 ^ 18

/-- `sorted(texts)`. -/
def sorted (texts : List String) : List String :=
  texts.insertionSort fun a b => a.scalars ≤ b.scalars

def candidateId (invariant : String) (changedPaths : List String) : Sha64 :=
  sha256Hex (canonicalJson (.obj [("invariant", .str invariant),
    ("changed_paths", textsJson id (sorted changedPaths))]))

def evidenceDigest (evidence : Json) : Sha64 := sha256Hex (canonicalJson evidence)

theorem evidenceDigest_canon (evidence : Json) :
    evidenceDigest evidence.canon = evidenceDigest evidence := by
  rw [evidenceDigest, canonicalJson_canon, evidenceDigest]

/-- `str(evidence[name])`. A text that is no word is no key either. -/
def textMember (name : String) (evidence : Json) : Py String := do
  let j ← item name (evidence.get? name)
  return (wordText j).getD ""

def digestOf (names : List String) (evidence : Json) : Py String := do
  let fields ← names.mapM fun name => do
    let j ← item name (evidence.get? name)
    return (name, j)
  return (sha256Hex (canonicalJson (.obj fields))).val

/-- The uniqueness key of a record, derived only from its evidence. -/
def recordKey (kind : Kind) (evidence : Json) : Py String :=
  match kind with
  | .findingIngested | .findingProven | .threadResolved | .historicalEvidenceAssessed =>
      textMember "finding_id" evidence
  | .findingClassified => digestOf ["finding_id", "basis"] evidence
  | .familyCandidate => textMember "candidate_id" evidence
  | .remediationRequested => digestOf ["finding_id", "attempt"] evidence
  | .recurrence => digestOf ["family_id", "finding_id"] evidence

def classificationKey (finding : Sha64) (basis : Basis) : Sha64 :=
  sha256Hex (canonicalJson (.obj [("finding_id", .str finding.val), ("basis", .str basis.text)]))

def remediationKey (finding : Sha64) (attempt : Int) : Sha64 :=
  sha256Hex (canonicalJson (.obj [("finding_id", .str finding.val), ("attempt", .int attempt)]))

def recurrenceKey (family : FamilyId) (finding : Sha64) : Sha64 :=
  sha256Hex (canonicalJson (.obj [("family_id", .str family.val), ("finding_id", .str finding.val)]))

def Evidence.key : Evidence → Sha64
  | .findingIngested e => e.findingId
  | .findingClassified e => classificationKey e.findingId e.basis
  | .historicalEvidenceAssessed e => e.findingId
  | .familyCandidate e => e.candidateId
  | .remediationRequested e => remediationKey e.findingId e.attempt.val
  | .findingProven e => e.findingId
  | .threadResolved e => e.findingId
  | .recurrence e => recurrenceKey e.familyId e.findingId

structure Finding where
  ingested : FindingIngested
  classifications : Basis → Option FindingClassified
  remediations : List RemediationRequested
  proven : Option FindingProven
  resolved : Option ThreadResolved
  historicalAssessment : Option HistoricalEvidenceAssessed

namespace Finding

def start (evidence : FindingIngested) : Finding := ⟨evidence, fun _ => none, [], none, none, none⟩

def path (item : Finding) : String := item.ingested.provenance.path.val

def pullRequestNumber (item : Finding) : Int := item.ingested.provenance.pullRequestNumber.val

/-- A proven classification comes before a deterministic one. -/
def classification (item : Finding) : Option FindingClassified :=
  (item.classifications .proven).or (item.classifications .deterministic)

def isOpen (item : Finding) : Bool := item.resolved.isNone

def classify (item : Finding) (evidence : FindingClassified) : Finding :=
  { item with classifications := Function.update item.classifications evidence.basis (some evidence) }

theorem classifications_classify (item : Finding) (evidence : FindingClassified) (basis : Basis) :
    (item.classify evidence).classifications basis =
      if basis = evidence.basis then some evidence else item.classifications basis :=
  Function.update_apply _ _ _ _

def request (item : Finding) (evidence : RemediationRequested) : Finding :=
  { item with remediations := item.remediations ++ [evidence] }

end Finding

structure KnowledgeView where
  repositoryId : Int
  findings : Dict Sha64 Finding
  candidates : Dict Sha64 FamilyCandidate
  recurrences : List (FamilyId × Sha64)
  /-- The evidence digest under the kind and the key. -/
  keys : Dict (Kind × String) Sha64
  headRecordDigest : Option Sha64
  nextSeq : Nat

namespace KnowledgeView

def empty (repositoryId : Int) : KnowledgeView := ⟨repositoryId, .empty, .empty, [], .empty, none, 0⟩

/-- A record of the kind is under the key. -/
def Taken (view : KnowledgeView) (kind : Kind) (key : Sha64) : Prop :=
  (view.keys.get? (kind, key.val)).isSome

/-- The families that findings of one fingerprint are matched to. -/
def matchedFamilies (view : KnowledgeView) (print : Sha64) : List (Option FamilyId) :=
  (view.findings.values.filterMap fun item =>
    if item.ingested.fingerprint = print then
      (item.classification.filter fun c => c.outcome = .matched).map (·.familyId)
    else none).dedup

def matchedFamilyFor (view : KnowledgeView) (print : Sha64) : Option FamilyId :=
  match view.matchedFamilies print with
  | [family] => family
  | _ => none

def remediationsForPr (view : KnowledgeView) (pullRequestNumber : Int) : Nat :=
  ((view.findings.values.filter fun item => item.pullRequestNumber = pullRequestNumber).map
    fun item => item.remediations.length).sum

/-- `item` is a reference: an update of it is one of the view. -/
def setFinding (view : KnowledgeView) (id : Sha64) (item : Finding) : KnowledgeView :=
  { view with findings := view.findings.set id item }

end KnowledgeView

def refusal (message : String) : Exn := .knowledgeLedgerError message

def checkSonarIdentity (p : Provenance) : Py Unit :=
  match p.provider, p.sourceIssueKey with
  | .githubReview, _ => .ok ()
  | .sonar, none => .error (refusal "Sonar finding lacks source identity")
  | .sonar, some key =>
      require (p.commentId.val = sonarCommentId key.val) (refusal "Sonar source identity mismatch")

def foldIngested (view : KnowledgeView) (e : FindingIngested) : Py KnowledgeView := do
  checkSonarIdentity e.provenance
  let expected := findingId view.repositoryId e.provenance.pullRequestNumber.val
    e.provenance.commentId.val
  require (e.findingId = expected) (refusal "finding id is not derived from its provenance")
  require (e.fingerprint = fingerprint e.provenance.path.val e.claim.val) (refusal "fingerprint")
  return view.setFinding expected (.start e)

def foldCandidate (view : KnowledgeView) (e : FamilyCandidate) : Py KnowledgeView := do
  require (e.candidateId = candidateId e.invariant.val (e.changedPaths.map (·.val)))
    (refusal "candidate id is not derived from its invariant and paths")
  require (∀ source ∈ e.sourceFindingIds, (view.findings.get? source).isSome)
    (refusal "family candidate names an unknown finding")
  return { view with candidates := view.candidates.set e.candidateId e }

def findItem (view : KnowledgeView) (kind : Kind) (id : Sha64) : Py Finding :=
  match view.findings.get? id with
  | some item => .ok item
  | none => .error (refusal (kind.text ++ " for an unknown finding"))

def foldAssessed (view : KnowledgeView) (item : Finding) (e : HistoricalEvidenceAssessed) :
    Py KnowledgeView := do
  let source := item.ingested.provenance
  require (source.pullRequestNumber = e.pullRequestNumber ∧ source.commentId = e.commentId ∧
      source.reviewedHeadSha = e.ingestedHeadSha.getD e.reviewedHeadSha)
    (refusal "historical assessment does not bind the ingested review identity")
  require (e.regressionTests ≠ []) (refusal "historical assessment must name regression tests")
  return view.setFinding e.findingId { item with historicalAssessment := some e }

def checkMapping (item : Finding) (e : FindingClassified) : Py Unit :=
  match item.classifications .deterministic with
  | some d =>
      require (d.outcome = .matched → e.familyId = d.familyId)
        (refusal "proof contradicts the mapping")
  | none => .ok ()

def checkProven (view : KnowledgeView) (item : Finding) (e : FindingClassified) : Py Unit := do
  require (e.outcome = .matched ∨ e.outcome = .candidateNewFamily)
    (refusal "only a mapping can be proven")
  require (e.regressionTests ≠ [] ∧ e.authorizationId.isSome) (refusal "no proof")
  checkMapping item e
  require (e.outcome = .candidateNewFamily → ∀ id ∈ e.candidateId, (view.candidates.get? id).isSome)
    (refusal "proven candidate is not recorded")

def checkDeterministic (e : FindingClassified) : Py Unit := do
  require (e.regressionTests = [] ∧ e.authorizationId = none) (refusal "not deterministic")
  require (e.outcome = .matched ∨ e.outcome = .ambiguous)
    (refusal "a deterministic outcome is a match or ambiguous")

def checkBasis (view : KnowledgeView) (item : Finding) (e : FindingClassified) : Py Unit :=
  match e.basis with
  | .proven => checkProven view item e
  | .deterministic => checkDeterministic e

def foldClassified (view : KnowledgeView) (item : Finding) (e : FindingClassified) :
    Py KnowledgeView := do
  require (e.outcome = .matched ↔ e.familyId.isSome) (refusal "family id iff matched")
  require (e.outcome = .candidateNewFamily ↔ e.candidateId.isSome)
    (refusal "candidate id iff candidate-new-family")
  checkBasis view item e
  return view.setFinding e.findingId (item.classify e)

def foldRequested (view : KnowledgeView) (item : Finding) (e : RemediationRequested) :
    Py KnowledgeView := do
  require (item.isOpen = true ∧ item.proven = none) (refusal "remediation of a closed finding")
  require (e.attempt.val = item.remediations.length + 1)
    (refusal "remediation attempt is not the next attempt")
  require (e.attempt.val ≤ maxRemediationsPerFinding)
    (refusal "per-finding remediation budget exhausted")
  require (e.pullRequestNumber.val = item.pullRequestNumber)
    (refusal "remediation targets another PR")
  require (view.remediationsForPr item.pullRequestNumber < maxRemediationsPerPr)
    (refusal "PR budget exhausted")
  return view.setFinding e.findingId (item.request e)

/-- `set(a) == set(b)`. -/
def SameSet {α : Type} (a b : List α) : Prop := a ⊆ b ∧ b ⊆ a

instance {α : Type} [DecidableEq α] (a b : List α) : Decidable (SameSet a b) :=
  inferInstanceAs (Decidable (_ ∧ _))

def foldProven (view : KnowledgeView) (item : Finding) (e : FindingProven) : Py KnowledgeView :=
  match item.classifications .proven with
  | none => .error (refusal "a finding is proven only after a proven classification")
  | some proven => do
      require (proven.authorizationId = some e.authorizationId)
        (refusal "proof from another remediation")
      require (SameSet e.regressionTests proven.regressionTests)
        (refusal "proof tests differ")
      return view.setFinding e.findingId { item with proven := some e }

def foldResolved (view : KnowledgeView) (item : Finding) (e : ThreadResolved) : Py KnowledgeView :=
  match item.proven with
  | none => .error (refusal "a thread is resolved only after exact-head proof")
  | some proven => do
      require (e.remediatedHeadSha = proven.remediatedHeadSha) (refusal "resolution at another head")
      return view.setFinding e.findingId { item with resolved := some e }

def foldRecurrence (view : KnowledgeView) (item : Finding) (e : Recurrence) : Py KnowledgeView := do
  require (item.proven.isSome ∧ ∃ c ∈ item.classification, c.familyId = some e.familyId)
    (refusal "recurrence of an unproven or differently mapped finding")
  return { view with recurrences := view.recurrences.insert (e.familyId, e.findingId) }

def fold (view : KnowledgeView) : Evidence → Py KnowledgeView
  | .findingIngested e => foldIngested view e
  | .familyCandidate e => foldCandidate view e
  | .historicalEvidenceAssessed e => do
      foldAssessed view (← findItem view .historicalEvidenceAssessed e.findingId) e
  | .findingClassified e => do
      foldClassified view (← findItem view .findingClassified e.findingId) e
  | .remediationRequested e => do
      foldRequested view (← findItem view .remediationRequested e.findingId) e
  | .findingProven e => do foldProven view (← findItem view .findingProven e.findingId) e
  | .threadResolved e => do foldResolved view (← findItem view .threadResolved e.findingId) e
  | .recurrence e => do foldRecurrence view (← findItem view .recurrence e.findingId) e

structure Record where
  key : Sha64
  recordSeq : { n : Int // 0 ≤ n }
  prevRecordSha256 : Option Sha64
  recordedAt : Timestamp
  recordedBy : RecordedBy
  repositoryId : Positive
  evidence : Evidence
  rawEvidence : Json
  raw : Json

def Record.kind (record : Record) : Kind := record.evidence.kind

/-- What two records of one ledger may not share. -/
def Record.slot (record : Record) : Kind × String := (record.kind, record.key.val)

/-- `_RECORD`: the evidence is validated by its kind afterwards, the signature on
its own. -/
def recordSchema : Schema (Kind × (Evidence → Json → Json → Record)) :=
  (fun _ kind key seq prev recordedAt by_ repository _ _ =>
      (kind, fun evidence rawEvidence raw =>
        ⟨key, seq, prev, recordedAt, by_, repository, evidence, rawEvidence, raw⟩)) <$>
    field "schema_version" (exactText recordSchemaVersion) <*>
    field "kind" (enum Kind.text kinds) <*> field "key" sha64 <*> field "record_seq" (int 0) <*>
    field "prev_record_sha256" (optional sha64) <*> field "recorded_at" timestamp <*>
    field "recorded_by" recordedBy <*> field "repository_id" positive <*>
    field "evidence" anything <*> field "signature" anything

instance : recordSchema.Stable := by unfold recordSchema; infer_instance

def validateRecord (record : Json) : Py Record := do
  let (kind, finish) ← object recordSchema record "knowledge record"
  let raw ← item "evidence" (record.get? "evidence")
  let evidence ← evidenceSchemas kind raw ("knowledge evidence[" ++ kind.text ++ "]")
  return finish evidence raw record

def schemaRefusal : Exn → Exn
  | .ledgerSchemaError message => refusal ("schema: " ++ message)
  | exn => exn

def decodeRecord (record : Json) : Py Record := do
  let record ← reraise schemaRefusal (validateRecord (← reload record))
  require ((canonicalJson record.raw).drop maxRecordBytes = [])
    (refusal "knowledge record exceeds its size bound")
  return record

/-- The view after the record is folded in. -/
def KnowledgeView.append (view : KnowledgeView) (record : Record) : KnowledgeView :=
  { view with
    keys := view.keys.set record.slot (evidenceDigest record.rawEvidence)
    headRecordDigest := some (recordDigest record.raw)
    nextSeq := view.nextSeq + 1 }

namespace KnowledgeView

@[simp] theorem get?_setFinding (view : KnowledgeView) (id k : Sha64) (item : Finding) :
    (view.setFinding id item).findings.get? k =
      if k = id then some item else view.findings.get? k :=
  Dict.get?_set _ _ _ _

@[simp] theorem append_findings (view : KnowledgeView) (record : Record) :
    (view.append record).findings = view.findings := rfl

theorem get?_append_keys (view : KnowledgeView) (record : Record) (slot : Kind × String) :
    (view.append record).keys.get? slot =
      if slot = record.slot then some (evidenceDigest record.rawEvidence)
      else view.keys.get? slot :=
  Dict.get?_set _ _ _ _

end KnowledgeView

section Apply

variable [Ed25519]

/-- Whether the writing run is a trusted lifecycle run. Finding out may fail. -/
abbrev ProvenanceCheck : Type := RecordedBy → Record → Py Bool

def checkRecord (view : KnowledgeView) (record : Record) (trust : TrustRoots)
    (provenance : ProvenanceCheck) : Py Unit := do
  verifyRawSignature record.raw trust.stateKeys knowledgeLedgerDomain
  require (record.recordSeq.val = view.nextSeq)
    (refusal "knowledge record sequence is not contiguous")
  require (record.prevRecordSha256 = view.headRecordDigest)
    (refusal "knowledge record does not chain")
  require (record.repositoryId.val = view.repositoryId ∧ view.repositoryId = trust.repositoryId)
    (refusal "foreign repository")
  require (record.recordedBy.role ∈ writerRoles record.kind)
    (refusal ("role may not write " ++ record.kind.text))
  let trusted ← provenance record.recordedBy record
  require (trusted = true) (refusal "knowledge record was not written by a trusted run")
  let key ← recordKey record.kind record.rawEvidence
  require (record.key.val = key) (refusal "knowledge record key is not derived from its evidence")
  require (view.keys.get? record.slot = none)
    (refusal (record.kind.text ++ " is insert-only and already recorded"))

def apply (trust : TrustRoots) (provenance : ProvenanceCheck) (view : KnowledgeView)
    (record : Json) : Py KnowledgeView := do
  let record ← decodeRecord record
  checkRecord view record trust provenance
  let view ← fold view record.evidence
  return view.append record

/-- The records of a ledger, folded from the empty view. -/
def applyAll (trust : TrustRoots) (provenance : ProvenanceCheck) (records : List Json) :
    Py KnowledgeView :=
  records.foldlM (apply trust provenance) (.empty trust.repositoryId)

end Apply

end Hunter.Knowledge
