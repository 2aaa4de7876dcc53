import Mathlib
import Hunter.Data.Dict
import Hunter.Data.Fallible
import Hunter.Execution.AsciiJson
import Hunter.Text.Timestamp
import Hunter.Text.Words

/-!
The history of membership evidence. A snapshot is admitted with the time its ingress
reads and with a signature over the rest of its content, and is appended to a chain of
digests that starts from the repository. A read checks the chain against an external
anchor, takes for each candidate the last snapshot that was known and ingested by the
cutoff and has its signature verified again.
-/

namespace Hunter.MarketValidation

open Calendar Fallible

inductive Exn where
  | valueError (message : String)
  | keyError (name : String)
  | typeError
  | overflowError
  | integrityError (message : String)
  deriving DecidableEq, Repr

abbrev Py : Type → Type := Except Exn

def blank (text : String) : Bool := (Chars.strip text.scalars).isEmpty

@[irreducible] def sha256 (text : String) : String := Sha256.hexdigest (Chars.encode text.scalars)

theorem sha256_ofList (text : List Char) :
    sha256 (String.ofList text) = Sha256.hexdigest (Chars.encode text) := by
  rw [sha256, String.scalars_ofList]

/-- The metadata are held in the order of their keys. -/
structure ProjectValidationTarget where
  projectId : String
  name : String
  sector : String
  metadata : List (String × Json)
  texts : ∀ value ∈ [projectId, name, sector], blank value = false
  canonical : Json.Canonical (.obj metadata)
  deriving DecidableEq

structure HistoricalMembershipSnapshot where
  candidateId : String
  canonicalEntityId : String
  project : ProjectValidationTarget
  identityOutcome : String
  lifecycleStatus : String
  observedAt : Moment
  knownAt : Moment
  sourceDigest : String
  registryReference : String
  upstreamAttestation : String
  deriving DecidableEq

structure TrustedHistoryAnchor where
  repository : String
  sequence : Nat
  digest : String
  deriving DecidableEq, Repr

/-- A time with an offset, as its instant, or without one. -/
inductive Datetime where
  | aware (instant : Moment)
  | naive (clock : Moment)
  deriving DecidableEq, Repr

structure MembershipEvidence where
  candidateId : String
  canonicalEntityId : String
  project : ProjectValidationTarget
  identityOutcome : String
  lifecycleStatus : String
  knownAt : Datetime
  observedAt : Datetime
  sourceDigest : String
  registryReference : String
  provenanceVerified : Bool
  deriving DecidableEq

structure Row where
  sequence : Nat
  candidateId : String
  knownAt : String
  content : String
  digest : String
  previousDigest : String
  deriving DecidableEq, Repr

structure ImmutableMembershipHistory where
  repository : String
  rows : List Row
  deriving DecidableEq, Repr

/-- A registry, whether a verifier of its attestations is given, and its answer to whether
a candidate was an entity at a moment, if it has that method. -/
structure Registry where
  attestationVerifier : Bool
  verifyHistoricalEntity : Option (String → String → Moment → String → Bool)

structure Ingress where
  registry : Option Registry
  signEvidenceDigest : Option (String → String)
  verifyEvidence : Option (String → String → Bool)

def identityOutcomes : List String := ["exact", "ambiguous", "conflict", "unresolved", "rejected"]

def entityStart (c : Char) : Bool := ('a' ≤ c && c ≤ 'z') || ('0' ≤ c && c ≤ '9')

/-- `[a-z0-9][a-z0-9._:-]*`. -/
def entityId (text : String) : Bool :=
  match text.scalars with
  | [] => false
  | c :: rest => entityStart c && rest.all fun d => entityStart d || d ∈ ['.', '_', ':', '-']

def projectJson (project : ProjectValidationTarget) : Json :=
  .obj [("project_id", .str project.projectId), ("name", .str project.name),
    ("sector", .str project.sector), ("metadata", .obj project.metadata)]

def payload (snapshot : HistoricalMembershipSnapshot) (ingested : Moment) (attestation : String) :
    List (String × Json) :=
  [("candidate_id", .str snapshot.candidateId),
    ("canonical_entity_id", .str snapshot.canonicalEntityId),
    ("project", projectJson snapshot.project),
    ("identity_outcome", .str snapshot.identityOutcome),
    ("lifecycle_status", .str snapshot.lifecycleStatus),
    ("known_at", .str snapshot.knownAt.isoformat),
    ("observed_at", .str snapshot.observedAt.isoformat),
    ("source_digest", .str snapshot.sourceDigest),
    ("registry_reference", .str snapshot.registryReference),
    ("ingested_at", .str ingested.isoformat),
    ("upstream_attestation", .str attestation)]

/-- The digest of a payload without its attestation. -/
def evidenceDigest (members : List (String × Json)) : String :=
  sha256 (Json.asciiDumps (.obj (members.filter fun member => member.1 ≠ "upstream_attestation")))

def genesis (repository : String) : String := "GENESIS:" ++ repository

def chained (previous content : String) : String := sha256 (previous ++ "\n" ++ content)

theorem chained_ofList (previous : String) (text : List Char) :
    chained previous (String.ofList text) =
      Sha256.hexdigest (Chars.encode (previous.scalars ++ '\n' :: text)) := by
  rw [chained, sha256, String.scalars_eq_toList, String.toList_append, String.toList_append,
    String.toList_ofList, String.toList_ofList, List.append_assoc, String.scalars_eq_toList]
  rfl

namespace ImmutableMembershipHistory

def checkRegistry (history : ImmutableMembershipHistory) (snapshot : HistoricalMembershipSnapshot) :
    Option Registry → Py Unit
  | none => .ok ()
  | some registry => do
      require (registry.attestationVerifier = true ∧ history.repository ≠ "")
        (.valueError "authenticated historical Registry verifier required")
      require ((registry.verifyHistoricalEntity.any fun verifier => verifier snapshot.canonicalEntityId
          snapshot.candidateId snapshot.knownAt history.repository) = true)
        (.valueError "canonical economic entity not verified by Registry")

def checkSnapshot (snapshot : HistoricalMembershipSnapshot) (ingress : Ingress) (now : Moment) :
    Py Unit := do
  require (snapshot.identityOutcome ∈ identityOutcomes) (.valueError "invalid identity outcome")
  require (blank snapshot.candidateId = false ∧ blank snapshot.canonicalEntityId = false)
    (.valueError "candidate and canonical economic identity required")
  require (entityId snapshot.canonicalEntityId = true)
    (.valueError "canonical entity ID must be normalized")
  require (snapshot.project.projectId = snapshot.canonicalEntityId)
    (.valueError "canonical entity mapping must match project identity")
  require (blank snapshot.sourceDigest = false ∧ blank snapshot.registryReference = false)
    (.valueError "source provenance required")
  require (blank snapshot.upstreamAttestation = false ∨ ingress.signEvidenceDigest.isSome)
    (.valueError "independent upstream attestation required")
  require (ingress.signEvidenceDigest.isSome →
      ingress.verifyEvidence.isSome ∧ snapshot.upstreamAttestation = "")
    (.valueError "signed ingress requires a pinned verifier and unsigned snapshot")
  require (snapshot.observedAt.isoformat ≤ snapshot.knownAt.isoformat)
    (.valueError "evidence cannot be known before observation")
  require (snapshot.knownAt.isoformat ≤ now.isoformat)
    (.valueError "evidence cannot be known before trusted ingestion")

/-- The attestation of the snapshot: the given one, or a signature that the verifier takes. -/
def attest (snapshot : HistoricalMembershipSnapshot) (ingress : Ingress) (now : Moment) : Py String :=
  match ingress.signEvidenceDigest with
  | none => .ok snapshot.upstreamAttestation
  | some sign =>
      let digest := evidenceDigest (payload snapshot now snapshot.upstreamAttestation)
      if ingress.verifyEvidence.any fun verify => verify (sign digest) digest then .ok (sign digest)
      else .error (.valueError "membership evidence attestation unverified")

def lastDigest (history : ImmutableMembershipHistory) : String :=
  (history.rows.getLast?.map Row.digest).getD (genesis history.repository)

def checkAdvance (history : ImmutableMembershipHistory) (candidateId known : String) : Py Unit :=
  match (history.rows.filter fun row => row.candidateId = candidateId).getLast? with
  | none => .ok ()
  | some previous =>
      require (previous.knownAt < known) (.valueError "same-candidate history must advance known_at")

/-- A trigger refuses a digest that is in the table. -/
def insert (history : ImmutableMembershipHistory) (candidateId known content : String) :
    Py (String × ImmutableMembershipHistory) := do
  let digest := chained history.lastDigest content
  require (digest ∉ history.rows.map Row.digest) (.integrityError "immutable history conflict")
  .ok (digest,
    { history with
      rows := history.rows ++
        [{ sequence := (history.rows.getLast?.map Row.sequence).getD 0 + 1
           candidateId := candidateId
           knownAt := known
           content := content
           digest := digest
           previousDigest := history.lastDigest }] })

def append (history : ImmutableMembershipHistory) (snapshot : HistoricalMembershipSnapshot)
    (ingress : Ingress) (now : Moment) : Py (String × ImmutableMembershipHistory) := do
  checkSnapshot snapshot ingress now
  history.checkRegistry snapshot ingress.registry
  let attestation ← attest snapshot ingress now
  history.checkAdvance snapshot.candidateId snapshot.knownAt.isoformat
  history.insert snapshot.candidateId snapshot.knownAt.isoformat
    (Json.asciiDumps (.obj (payload snapshot now attestation)))

end ImmutableMembershipHistory

def member (data : Json) (name : String) : Py Json :=
  match data.get? name with
  | some value => .ok value
  | none => .error (.keyError name)

def textMember (data : Json) (name : String) : Py String := do
  match ← member data name with
  | .str value => .ok value
  | _ => .error .typeError

def loadContent (content : String) : Py Json :=
  match Json.loads content with
  | some data => .ok data
  | none => .error (.valueError "not a JSON document")

/-- `datetime.fromisoformat`. -/
def readTime (text : String) : Py Datetime :=
  match fromisoformat text.scalars with
  | none => .error (.valueError "Invalid isoformat string")
  | some (moment, none) => .ok (.naive moment)
  | some (moment, some offset) =>
      match moment.utc offset with
      | some instant => .ok (.aware instant)
      | none => .error .overflowError

def objectMember (data : Json) (name : String) : Py (List (String × Json)) := do
  match ← member data name with
  | .obj fields => .ok fields
  | _ => .error .typeError

/-- `ProjectValidationTarget(**data)`. -/
def readProject (data : Json) : Py ProjectValidationTarget := do
  let projectId ← textMember data "project_id"
  let name ← textMember data "name"
  let sector ← textMember data "sector"
  let metadata ← objectMember data "metadata"
  if texts : ∀ value ∈ [projectId, name, sector], blank value = false then
    .ok
      { projectId := projectId
        name := name
        sector := sector
        metadata := Json.canonFields metadata
        texts := texts
        canonical := Json.canon_canonical (.obj metadata) }
  else .error (.valueError "project texts are required")

abbrev Latest : Type := Dict String (Json × String)

def visible (limit : String) (data : Json) : Py Bool := do
  let known ← textMember data "known_at"
  let ingested ← textMember data "ingested_at"
  .ok (known ≤ limit && ingested ≤ limit)

def note (latest : Latest) (candidateId digest : String) (data : Json) (seen : Bool) : Latest :=
  if seen then latest.set candidateId (data, digest) else latest

def readRow (limit : String) (state : String × Latest) (row : Row) : Py (String × Latest) := do
  let digest := chained state.1 row.content
  require (row.previousDigest = state.1 ∧ row.digest = digest)
    (.valueError "membership history integrity failure")
  let data ← loadContent row.content
  let candidateId ← textMember data "candidate_id"
  let known ← textMember data "known_at"
  require (candidateId = row.candidateId ∧ known = row.knownAt)
    (.valueError "membership history index mismatch")
  let seen ← visible limit data
  .ok (digest, note state.2 candidateId digest data seen)

def dataDigest : Json → String
  | .obj fields => evidenceDigest fields
  | _ => evidenceDigest []

def readEvidence (verify : Option (String → String → Bool)) (found : String × Json × String) :
    Py MembershipEvidence := do
  let (candidateId, data, digest) := found
  let projectData ← member data "project"
  let project ← readProject projectData
  let canonicalEntityId ← textMember data "canonical_entity_id"
  let identityOutcome ← textMember data "identity_outcome"
  let lifecycleStatus ← textMember data "lifecycle_status"
  let knownText ← textMember data "known_at"
  let knownAt ← readTime knownText
  let observedText ← textMember data "observed_at"
  let observedAt ← readTime observedText
  let sourceDigest ← textMember data "source_digest"
  let attestation ← textMember data "upstream_attestation"
  .ok
    { candidateId := candidateId
      canonicalEntityId := canonicalEntityId
      project := project
      identityOutcome := identityOutcome
      lifecycleStatus := lifecycleStatus
      knownAt := knownAt
      observedAt := observedAt
      sourceDigest := sourceDigest
      registryReference := "history:" ++ digest
      provenanceVerified := verify.any fun verify => verify attestation (dataDigest data) }

namespace ImmutableMembershipHistory

def checkAnchor (history : ImmutableMembershipHistory) : Option TrustedHistoryAnchor →
    Py TrustedHistoryAnchor
  | none => .error (.valueError "external trusted history anchor required")
  | some anchor =>
      if history.repository ≠ "" ∧ anchor.repository ≠ history.repository then
        .error (.valueError "anchor repository does not match history repository")
      else .ok anchor

def asOf (history : ImmutableMembershipHistory) (cutoff : Moment)
    (verify : Option (String → String → Bool)) (trusted : Option TrustedHistoryAnchor) :
    Py (List MembershipEvidence) := do
  let anchor ← history.checkAnchor trusted
  let (previous, latest) ← history.rows.foldlM (readRow cutoff.isoformat)
    (genesis anchor.repository, Dict.empty)
  require (history.rows.map Row.sequence = List.range' 1 history.rows.length)
    (.valueError "membership history sequence gap")
  require (history.rows.length = anchor.sequence ∧ previous = anchor.digest)
    (.valueError "external history anchor mismatch")
  (latest.entries.mergeSort fun a b => a.1 ≤ b.1).mapM (readEvidence verify)

end ImmutableMembershipHistory

end Hunter.MarketValidation
