import Hunter.Data.Fallible
import Hunter.Json.Value
import Hunter.Text.Words

/-!
The durable record by which the right to publish moves from a legacy authority
to its successor. One file holds the record. Every operation reads the file with
all its coherence checks, decides, and replaces the file by the record it
returns. An operation that raises leaves the file as it is.
-/

namespace Hunter.Cutover

open Fallible

inductive CutoverState where
  | labValidated
  | shadowInstalled
  | historicalReplayVerified
  | shadowRuntimeVerified
  | cutoverCandidate
  | legacyAuthorityDisabled
  | newAuthorityEnabled
  | postCutoverVerified
  | legacyCodeRemovable
  | legacyCodeRemoved
  | cutoverComplete
  deriving DecidableEq

namespace CutoverState

def value : CutoverState → String
  | labValidated => "LAB_VALIDATED"
  | shadowInstalled => "SHADOW_INSTALLED"
  | historicalReplayVerified => "HISTORICAL_REPLAY_VERIFIED"
  | shadowRuntimeVerified => "SHADOW_RUNTIME_VERIFIED"
  | cutoverCandidate => "CUTOVER_CANDIDATE"
  | legacyAuthorityDisabled => "LEGACY_AUTHORITY_DISABLED"
  | newAuthorityEnabled => "NEW_AUTHORITY_ENABLED"
  | postCutoverVerified => "POST_CUTOVER_VERIFIED"
  | legacyCodeRemovable => "LEGACY_CODE_REMOVABLE"
  | legacyCodeRemoved => "LEGACY_CODE_REMOVED"
  | cutoverComplete => "CUTOVER_COMPLETE"

/-- The position in the order of the enumeration. -/
def rank : CutoverState → Nat
  | labValidated => 0
  | shadowInstalled => 1
  | historicalReplayVerified => 2
  | shadowRuntimeVerified => 3
  | cutoverCandidate => 4
  | legacyAuthorityDisabled => 5
  | newAuthorityEnabled => 6
  | postCutoverVerified => 7
  | legacyCodeRemovable => 8
  | legacyCodeRemoved => 9
  | cutoverComplete => 10

/-- `_NEXT`. -/
def next : CutoverState → Option CutoverState
  | labValidated => some shadowInstalled
  | shadowInstalled => some historicalReplayVerified
  | historicalReplayVerified => some shadowRuntimeVerified
  | shadowRuntimeVerified => some cutoverCandidate
  | cutoverCandidate => some legacyAuthorityDisabled
  | legacyAuthorityDisabled => some newAuthorityEnabled
  | newAuthorityEnabled => some postCutoverVerified
  | postCutoverVerified => some legacyCodeRemovable
  | legacyCodeRemovable => some legacyCodeRemoved
  | legacyCodeRemoved => some cutoverComplete
  | cutoverComplete => none

/-- The states in which the successor is the authority. -/
def successor : CutoverState → Bool
  | newAuthorityEnabled | postCutoverVerified | legacyCodeRemovable | legacyCodeRemoved
  | cutoverComplete => true
  | _ => false

/-- The states in which the legacy authority no longer is one. -/
def disabled (state : CutoverState) : Bool :=
  state == legacyAuthorityDisabled || state.successor

end CutoverState

inductive EvidenceKind where
  | shadowProof
  | replayEquality
  | runtimeParity
  | fencingVerified
  | transferAuthorized
  | postCutoverParity
  | legacyRemovalVerified
  | legacyRemoved
  | rollbackExcluded
  deriving DecidableEq

def EvidenceKind.value : EvidenceKind → String
  | shadowProof => "SHADOW_PROOF"
  | replayEquality => "REPLAY_EQUALITY"
  | runtimeParity => "RUNTIME_PARITY"
  | fencingVerified => "FENCING_VERIFIED"
  | transferAuthorized => "TRANSFER_AUTHORIZED"
  | postCutoverParity => "POST_CUTOVER_PARITY"
  | legacyRemovalVerified => "LEGACY_REMOVAL_VERIFIED"
  | legacyRemoved => "LEGACY_REMOVED"
  | rollbackExcluded => "ROLLBACK_EXCLUDED"

inductive PublicationOwner where
  | legacy
  | new
  deriving DecidableEq

structure CutoverEvidence where
  kind : EvidenceKind
  sha256 : String
  producedAt : String
  producedBy : String
  payload : List (String × Json)
  deriving DecidableEq

structure CutoverRecord where
  generation : Int
  implementationSha : String
  policySha : String
  authorizedBy : String
  shadowInstalledAt : String
  state : CutoverState
  enabledAt : Option String
  legacyWorkflowDisabled : Bool
  legacyTriggersRemoved : Bool
  legacyWritersFenced : Bool
  consumersSwitched : Bool
  consumerGeneration : Option Int
  newAuthorityFenced : Bool
  rollbackHold : Bool
  evidence : List CutoverEvidence

/-- `_REQUIRED_KIND`, in the order of its entries. -/
def gates : List (CutoverState × EvidenceKind) :=
  [(.historicalReplayVerified, .replayEquality), (.shadowRuntimeVerified, .runtimeParity),
    (.cutoverCandidate, .fencingVerified), (.newAuthorityEnabled, .transferAuthorized),
    (.postCutoverVerified, .postCutoverParity), (.legacyCodeRemovable, .legacyRemovalVerified),
    (.legacyCodeRemoved, .legacyRemoved)]

def requiredKind (target : CutoverState) : Option EvidenceKind :=
  (gates.find? fun gate => gate.1 = target).map Prod.snd

/-- The kinds that a record in this state must hold evidence of. -/
def requiredKinds (state : CutoverState) : List EvidenceKind :=
  .shadowProof :: (gates.filter fun gate => gate.1.rank ≤ state.rank).map Prod.snd

/-- How Python compares what the payloads hold beyond integers, truth values and
texts: a float with an integer, and two whole pieces of evidence. -/
structure Comparison where
  number : Json → Int → Bool
  evidence : CutoverEvidence → CutoverEvidence → Bool

def blank (text : String) : Bool := (Chars.strip text.scalars).isEmpty

def equalsText (value : Option Json) (text : String) : Bool :=
  match value with
  | some (.str other) => other == text
  | _ => false

def CutoverEvidence.get (evidence : CutoverEvidence) (key : String) : Option Json :=
  Json.lookup key evidence.payload

def CutoverRecord.legacyFenceComplete (record : CutoverRecord) : Bool :=
  record.legacyWorkflowDisabled && record.legacyTriggersRemoved && record.legacyWritersFenced &&
    record.consumersSwitched && record.consumerGeneration == some record.generation

section

variable (python : Comparison)

def equalsInt (value : Option Json) (number : Int) : Bool :=
  match value with
  | some (.int other) => other == number
  | some (.bool truth) => (if truth then 1 else 0) == number
  | some (.float text) => python.number (.float text) number
  | _ => false

/-- The evidence names the transfer of the record. -/
def CutoverRecord.binds (record : CutoverRecord) (evidence : CutoverEvidence) : Bool :=
  equalsInt python (evidence.get "generation") record.generation &&
    equalsText (evidence.get "implementation_sha") record.implementationSha &&
    equalsText (evidence.get "policy_sha") record.policySha

/-- `_validate_persisted_evidence_chain`: of each kind the last piece of evidence
counts. -/
def validatePersistedEvidenceChain (record : CutoverRecord) : Except String Unit :=
  (requiredKinds record.state).forM fun kind =>
    match (record.evidence.filter fun item => item.kind = kind).getLast? with
    | none => .error ("incoherent cutover record: evidence chain missing " ++ kind.value)
    | some item => require (record.binds python item = true)
        ("incoherent cutover record: evidence chain identity mismatch for " ++ kind.value)

def load (file : Option CutoverRecord) : Except String CutoverRecord :=
  match file with
  | none => .error "invalid or corrupt cutover record"
  | some record => do
      require (1 ≤ record.generation ∧ ∀ text ∈ [record.implementationSha, record.policySha,
          record.authorizedBy, record.shadowInstalledAt], blank text = false)
        "invalid or corrupt cutover record"
      require (record.state.successor = true → record.legacyFenceComplete = true)
        "incoherent cutover record: successor active without complete legacy fence"
      require (record.state = .legacyAuthorityDisabled → record.legacyFenceComplete = true)
        "incoherent cutover record: legacy disabled without complete fence"
      require (record.state.successor = true → record.enabledAt.any (fun text => text != "") = true)
        "incoherent cutover record: successor active without enablement time"
      validatePersistedEvidenceChain python record
      return record

def validateEvidenceIdentity (evidence : CutoverEvidence) : Except String Unit :=
  require (∀ text ∈ [evidence.sha256, evidence.producedAt, evidence.producedBy], blank text = false)
    "invalid evidence identity"

/-- `_require_bound`. -/
def requireBound (record : CutoverRecord) (evidence : Option CutoverEvidence) (kind : EvidenceKind) :
    Except String CutoverEvidence :=
  match evidence with
  | none => .error ("missing " ++ kind.value ++ " evidence")
  | some item => do
      validateEvidenceIdentity item
      require (item.kind = kind) ("evidence must be " ++ kind.value)
      require (record.binds python item = true) "evidence is not bound to active transfer identity"
      return item

/-- `_same_install`. -/
def sameInstall (current : CutoverRecord) (evidence : CutoverEvidence) : Bool :=
  current.binds python evidence && equalsText (evidence.get "authorized_by") current.authorizedBy

/-- The generation that the payload gives, where a truth value is an integer. -/
def givenGeneration (value : Option Json) : Option Int :=
  match value with
  | some (.int number) => some number
  | some (.bool truth) => some (if truth then 1 else 0)
  | _ => none

def givenText (value : Option Json) : Option String :=
  match value with
  | some (.str text) => if blank text then none else some text
  | _ => none

/-- The record of a new transfer, where the payload names one. -/
def installed (evidence : CutoverEvidence) : Option CutoverRecord :=
  match givenGeneration (evidence.get "generation"), givenText (evidence.get "implementation_sha"),
    givenText (evidence.get "policy_sha"), givenText (evidence.get "authorized_by") with
  | some generation, some implementationSha, some policySha, some authorizedBy =>
      if 1 ≤ generation then
        some
          { generation, implementationSha, policySha, authorizedBy
            shadowInstalledAt := evidence.producedAt, state := .shadowInstalled, enabledAt := none
            legacyWorkflowDisabled := false, legacyTriggersRemoved := false
            legacyWritersFenced := false, consumersSwitched := false, consumerGeneration := none
            newAuthorityFenced := false, rollbackHold := false, evidence := [evidence] }
      else none
  | _, _, _, _ => none

def installShadow (file : Option CutoverRecord) (evidence : CutoverEvidence) :
    Except String CutoverRecord :=
  match file with
  | some _ => do
      let current ← load python file
      require (current.state = .shadowInstalled ∧ sameInstall python current evidence = true)
        "cutover record already exists"
      return current
  | none => do
      validateEvidenceIdentity evidence
      require (evidence.kind = .shadowProof) "shadow installation requires SHADOW_PROOF"
      match installed evidence with
      | some record => return record
      | none => .error "invalid shadow transfer identity"

/-- The checks of a transition to a new state, with the evidence it adds. -/
def admission (current : CutoverRecord) (target : CutoverState) (evidence : Option CutoverEvidence) :
    Except String CutoverRecord :=
  if target = .legacyAuthorityDisabled then do
    require (current.legacyFenceComplete = true) "legacy fencing not complete"
    return current
  else if target = .cutoverComplete then do
    require (current.legacyWritersFenced = true ∧ current.consumersSwitched = true)
      "cutover completion requires durable fencing"
    return current
  else
    match requiredKind target with
    | none => return current
    | some kind => do
        let proof ← requireBound python current evidence kind
        require (target = .cutoverCandidate → proof.get "transfer_authorized" = some (.bool true))
          "transfer authorization proof missing"
        require (target = .cutoverCandidate → proof.get "consumers_migrated" = some (.bool true))
          "consumer migration proof missing"
        require (target = .cutoverCandidate →
            equalsInt python (proof.get "consumer_generation") current.generation = true)
          "consumer generation mismatch"
        return { current with evidence := current.evidence ++ [proof] }

/-- What a transition to a state writes besides its evidence. -/
def CutoverRecord.enter (record : CutoverRecord) (target : CutoverState)
    (evidence : Option CutoverEvidence) : CutoverRecord :=
  if target = .newAuthorityEnabled then
    { record with
      state := target, enabledAt := evidence.map CutoverEvidence.producedAt
      newAuthorityFenced := false, rollbackHold := false }
  else { record with state := target }

def transition (file : Option CutoverRecord) (target : CutoverState)
    (evidence : Option CutoverEvidence) : Except String CutoverRecord := do
  let current ← load python file
  if current.state = target then
    match requiredKind target with
    | none => return current
    | some kind => do
        let proof ← requireBound python current evidence kind
        require ((current.evidence.any fun item => python.evidence proof item) = true)
          "idempotent replay evidence does not match accepted transition"
        return current
  else do
    require (current.state.next = some target)
      ("illegal transition " ++ current.state.value ++ " -> " ++ target.value)
    let admitted ← admission python current target evidence
    return admitted.enter target evidence

def fenceLegacy (file : Option CutoverRecord) (evidence : CutoverEvidence)
    (workflowDisabled triggersRemoved writersFenced consumersSwitched : Bool) :
    Except String CutoverRecord := do
  let current ← load python file
  let proof ← requireBound python current (some evidence) .fencingVerified
  return { current with
    legacyWorkflowDisabled := current.legacyWorkflowDisabled || workflowDisabled
    legacyTriggersRemoved := current.legacyTriggersRemoved || triggersRemoved
    legacyWritersFenced := current.legacyWritersFenced || writersFenced
    consumersSwitched := current.consumersSwitched || consumersSwitched
    consumerGeneration :=
      if current.consumersSwitched || consumersSwitched then some current.generation else none
    evidence :=
      if current.evidence.any fun item => python.evidence proof item then current.evidence
      else current.evidence ++ [proof] }

def fenceSuccessor (file : Option CutoverRecord) (evidence : CutoverEvidence) :
    Except String CutoverRecord := do
  let current ← load python file
  let proof ← requireBound python current (some evidence) .rollbackExcluded
  if current.state ∈ [.newAuthorityEnabled, .postCutoverVerified, .legacyCodeRemovable] then
    return { current with newAuthorityFenced := true, evidence := current.evidence ++ [proof] }
  else return current

def rollback (file : Option CutoverRecord) (evidence : CutoverEvidence) :
    Except String CutoverRecord := do
  let current ← load python file
  let proof ← requireBound python current (some evidence) .transferAuthorized
  require (current.newAuthorityFenced = true) "cannot rollback until successor is fenced"
  return { current with
    state := .cutoverCandidate, enabledAt := none, legacyWorkflowDisabled := false
    legacyTriggersRemoved := false, legacyWritersFenced := false, consumersSwitched := false
    consumerGeneration := none, newAuthorityFenced := false, rollbackHold := true
    evidence := current.evidence ++ [proof] }

def publicationAllowed (file : Option CutoverRecord) (owner : PublicationOwner) (generation : Int) :
    Except String Bool := do
  let current ← load python file
  if generation ≠ current.generation ∨ current.rollbackHold = true then return false
  else if current.state.successor then return owner = .new && !current.newAuthorityFenced
  else if current.state = .legacyAuthorityDisabled then return false
  else return owner = .legacy

inductive Operation where
  | installShadow (evidence : CutoverEvidence)
  | transition (target : CutoverState) (evidence : Option CutoverEvidence)
  | fenceLegacy (evidence : CutoverEvidence)
      (workflowDisabled triggersRemoved writersFenced consumersSwitched : Bool)
  | fenceSuccessor (evidence : CutoverEvidence)
  | rollback (evidence : CutoverEvidence)

def Operation.result (file : Option CutoverRecord) : Operation → Except String CutoverRecord
  | .installShadow evidence => Cutover.installShadow python file evidence
  | .transition target evidence => Cutover.transition python file target evidence
  | .fenceLegacy evidence workflowDisabled triggersRemoved writersFenced consumersSwitched =>
      Cutover.fenceLegacy python file evidence workflowDisabled triggersRemoved writersFenced
        consumersSwitched
  | .fenceSuccessor evidence => Cutover.fenceSuccessor python file evidence
  | .rollback evidence => Cutover.rollback python file evidence

/-- The file after an operation: a record that is returned is the one that the file
then holds. -/
def perform (file : Option CutoverRecord) (operation : Operation) : Option CutoverRecord :=
  match operation.result python file with
  | .ok record => some record
  | .error _ => file

def performAll (file : Option CutoverRecord) (operations : List Operation) : Option CutoverRecord :=
  operations.foldl (perform python) file

end

end Hunter.Cutover
