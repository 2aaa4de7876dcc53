import Mathlib
import Hunter.MarketValidation.History

/-!
The authorization of a universe from membership evidence. The evidence is taken in the order
of the candidates and each item is decided once: the first eligible candidate of an entity is
included and later ones are duplicates. A candidate that is named twice, up to blanks, stops
the authorization.
-/

namespace Hunter.MarketValidation

open Calendar Fallible

inductive Outcome where
  | included | notIncluded | unavailable
  deriving DecidableEq, Repr

def Outcome.text : Outcome → String
  | .included => "included"
  | .notIncluded => "not_included"
  | .unavailable => "unavailable"

structure MembershipDecision where
  candidateId : String
  entityId : String
  outcome : Outcome
  reason : String
  deriving DecidableEq, Repr

structure AuthorizedUniverse where
  runId : String
  cutoff : Moment
  policyVersion : String
  decisions : List MembershipDecision
  targets : List ProjectValidationTarget
  manifestDigest : String
  runnable : Bool
  deriving DecidableEq

structure RunParameters where
  runId : String
  baselineRunId : String
  policyVersion : String
  minimumEntities : Nat
  outputDirectory : String
  baselineOutputDirectory : String
  deriving DecidableEq, Repr

def strip (text : String) : String := String.ofList (Chars.strip text.scalars)

/-- The names of a `PurePosixPath`, without its root. -/
def pathParts (path : String) : List (List Char) :=
  (path.scalars.splitOn '/').filter fun part => part ≠ [] ∧ part ≠ ['.']

def isAbsolute (path : String) : Bool := path.scalars.head? = some '/'

def pathText (path : String) : String :=
  if pathParts path = [] then "." else String.ofList (['/'].intercalate (pathParts path))

def checkParameters (run : RunParameters) : Py Unit := do
  require (blank run.runId = false ∧ blank run.policyVersion = false)
    (.valueError "aware cutoff, run_id and policy_version are required")
  require (run.runId ≠ run.baselineRunId ∧ 50 ≤ run.minimumEntities ∧
      blank run.outputDirectory = false ∧ blank run.baselineOutputDirectory = false)
    (.valueError "candidate run must be isolated and preserve the 50-entity minimum")
  require (['.', '.'] ∉ pathParts run.outputDirectory ++ pathParts run.baselineOutputDirectory)
    (.valueError "noncanonical output paths are forbidden")
  require (isAbsolute run.outputDirectory = false ∧ isAbsolute run.baselineOutputDirectory = false)
    (.valueError "output paths must be relative to the same workspace root")
  require (¬pathParts run.outputDirectory <+: pathParts run.baselineOutputDirectory ∧
      ¬pathParts run.baselineOutputDirectory <+: pathParts run.outputDirectory)
    (.valueError "candidate output must not overlap baseline output")

def Datetime.isAware : Datetime → Bool
  | .aware _ => true
  | .naive _ => false

def Datetime.after (time : Datetime) (cutoff : Moment) : Bool :=
  match time with
  | .aware instant => cutoff < instant
  | .naive _ => false

/-- A naive time is written without the offset. -/
def Datetime.isoformat : Datetime → String
  | .aware instant => instant.isoformat
  | .naive clock =>
      String.ofList (clock.isoformat.scalars.take (clock.isoformat.scalars.length - 6))

structure Progress where
  decisions : List MembershipDecision
  targets : List ProjectValidationTarget
  usedEntities : List String
  usedCandidates : List String

/-- The outcome of an item and its reason, given the entities that are included. -/
def judge (cutoff : Moment) (usedEntities : List String) (item : MembershipEvidence) : Outcome × String :=
  let entity := strip item.canonicalEntityId
  if item.knownAt.isAware = false ∨ item.observedAt.isAware = false then
    (.unavailable, "missing aware historical timestamps")
  else if item.knownAt.after cutoff ∨ item.observedAt.after cutoff then
    (.unavailable, "evidence not knowable at cutoff")
  else if item.provenanceVerified = false ∨ blank item.sourceDigest ∨ blank item.registryReference then
    (.unavailable, "missing authenticated evidence provenance")
  else if entityId item.canonicalEntityId = false ∨ item.canonicalEntityId ≠ entity ∨
      item.project.projectId ≠ entity then
    (.unavailable, "unproven canonical economic entity mapping")
  else if item.identityOutcome ≠ "exact" ∨ item.lifecycleStatus ∈ ["rejected", "archived"] then
    (.notIncluded, "identity or lifecycle ineligible")
  else if entity ∈ usedEntities then (.notIncluded, "duplicate economic entity")
  else (.included, "eligible distinct economic entity")

def Progress.decided (progress : Progress) (item : MembershipEvidence) (outcome : Outcome) (reason : String) :
    Progress where
  decisions := progress.decisions ++
    [⟨strip item.candidateId, strip item.canonicalEntityId, outcome, reason⟩]
  targets := if outcome = .included then progress.targets ++ [item.project] else progress.targets
  usedEntities :=
    if outcome = .included then strip item.canonicalEntityId :: progress.usedEntities
    else progress.usedEntities
  usedCandidates := strip item.candidateId :: progress.usedCandidates

def decideItem (cutoff : Moment) (progress : Progress) (item : MembershipEvidence) : Py Progress :=
  if strip item.candidateId = "" ∨ strip item.candidateId ∈ progress.usedCandidates then
    .error (.valueError "missing or duplicate candidate identity")
  else
    let (outcome, reason) := judge cutoff progress.usedEntities item
    .ok (progress.decided item outcome reason)

def MembershipEvidence.place (item : MembershipEvidence) : String ×ₗ String :=
  toLex (item.candidateId, item.canonicalEntityId)

def ordered (evidence : List MembershipEvidence) : List MembershipEvidence :=
  evidence.mergeSort fun a b => a.place ≤ b.place

def evidenceJson (item : MembershipEvidence) : Json :=
  .obj [("candidate_id", .str item.candidateId), ("entity_id", .str item.canonicalEntityId),
    ("known_at", .str item.knownAt.isoformat), ("observed_at", .str item.observedAt.isoformat),
    ("digest", .str item.sourceDigest), ("registry", .str item.registryReference),
    ("verified", .bool item.provenanceVerified)]

def decisionJson (decision : MembershipDecision) : Json :=
  .obj [("candidate_id", .str decision.candidateId), ("entity_id", .str decision.entityId),
    ("outcome", .str decision.outcome.text), ("reason", .str decision.reason)]

def manifest (evidence : List MembershipEvidence) (cutoff : Moment) (run : RunParameters)
    (progress : Progress) (runnable : Bool) : Json :=
  .obj [("cutoff", .str cutoff.isoformat), ("run_id", .str run.runId),
    ("policy_version", .str run.policyVersion),
    ("output_directory", .str (pathText run.outputDirectory)),
    ("evidence", .arr ((ordered evidence).map evidenceJson)),
    ("decisions", .arr (progress.decisions.map decisionJson)),
    ("targets", .arr (progress.targets.map projectJson)),
    ("runnable", .bool runnable)]

/-- `MarketValidationUniverseMembershipAuthority.authorize`. -/
def authorize (evidence : List MembershipEvidence) (cutoff : Moment) (run : RunParameters) :
    Py AuthorizedUniverse := do
  checkParameters run
  let progress ← (ordered evidence).foldlM (decideItem cutoff) ⟨[], [], [], []⟩
  let runnable := decide (run.minimumEntities ≤ progress.targets.length)
  .ok
    { runId := run.runId
      cutoff := cutoff
      policyVersion := run.policyVersion
      decisions := progress.decisions
      targets := progress.targets
      manifestDigest := sha256 (Json.asciiDumps (manifest evidence cutoff run progress runnable))
      runnable := runnable }

end Hunter.MarketValidation
