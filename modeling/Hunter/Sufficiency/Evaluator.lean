import Mathlib
import Hunter.Data.Edits
import Hunter.Data.Fallible
import Hunter.Data.Sorting
import Hunter.Execution.Canonical
import Hunter.Text.DecimalContext
import Hunter.Text.Words

/-!
The availability of the data that a requirement asks for, from the observations of a candidate and the
states of its providers. Everything is aggregated without regard to the order of the observations but
the type of a proxy, which is that of the first one.
-/

namespace Hunter.Sufficiency

open Calendar Execution Fallible

inductive Directness where
  | directObservation | proxySignal | derivedFromDirect | unavailable
  deriving DecidableEq, Repr

inductive ProxySignalType where
  | marketProxy | liquidityProxy | developerProxy | usageProxy | revenueProxy | competitiveProxy
  | socialProxy | none
  deriving DecidableEq, Repr

inductive AvailabilityState where
  | available | stale | partially | unavailable
  deriving DecidableEq, Repr

inductive SourceQualityState where
  | high | medium | low | conflicted | unavailable
  deriving DecidableEq, Repr

inductive ReplayMode where
  | current | historicalStrictKnownByHunter | reconstructedAfterCutoff
  deriving DecidableEq, Repr

def ReplayMode.text : ReplayMode → String
  | .current => "current"
  | .historicalStrictKnownByHunter => "historical_strict_known_by_hunter"
  | .reconstructedAfterCutoff => "reconstructed_after_cutoff"

/-- A `ValueError` with its message. -/
abbrev Raised : Type := String

def visible (text : String) : Prop := Chars.strip text.scalars ≠ []

instance (text : String) : Decidable (visible text) := by
  unfold visible
  infer_instance

/-- `_text`. -/
def requireText (name text : String) : Except Raised Unit :=
  require (visible text) (name ++ " is required")

def trustedIdentityStates : List String :=
  ["exact", "probable", "identified", "trusted", "screenable", "analyzable"]

def activeLifecycleStates : List String := ["active", "accepted", "verified", "current", "available"]

/-- `SOURCE_QUALITY_RANK.get`. -/
def sourceQualityRank (default_ : Nat) (quality : String) : Nat :=
  if quality = "unavailable" then 0
  else if quality = "low" then 1
  else if quality = "medium" ∨ quality = "verified_or_persisted_hunter_evidence" then 2
  else if quality = "high" then 3
  else default_

structure CandidateTrustState where
  candidateId : String
  identityState : String
  trusted : Bool
  effectiveAt : Moment
  recordedAt : Moment

def CandidateTrustState.eligible (trust : CandidateTrustState) : Prop :=
  trust.trusted = true ∧ trust.identityState ∈ trustedIdentityStates

structure ProviderAvailabilityState where
  sourceType : String
  status : String
  checkedAt : Moment
  recordedAt : Moment

def ProviderAvailabilityState.unavailable (state : ProviderAvailabilityState) : Prop :=
  state.status ∈ ["unavailable", "rate_limited", "forbidden", "failed", "stale"]

instance (state : ProviderAvailabilityState) : Decidable state.unavailable := by
  unfold ProviderAvailabilityState.unavailable
  infer_instance

structure SourceObservation where
  candidateId : String
  sourceType : String
  evidenceDomain : String
  directness : Directness
  effectiveAt : Moment
  recordedAt : Moment
  confidence : Rat
  sourceQuality : String
  lineageDepth : Nat
  lifecycleState : String
  proxyType : Option ProxySignalType
  conflictState : String
  evidenceId : Option String
  spanId : Option String
  claimId : Option String
  conflictId : Option String
  typed : directness = .proxySignal ↔ proxyType.isSome

def SourceObservation.active (observation : SourceObservation) : Prop :=
  observation.lifecycleState ∈ activeLifecycleStates

instance (observation : SourceObservation) : Decidable observation.active := by
  unfold SourceObservation.active
  infer_instance

structure DataRequirement where
  requirementId : String
  engineId : String
  analysisPurpose : String
  evidenceDomain : String
  requiredSourceTypes : List String
  directObservationRequired : Bool
  proxyAllowed : Bool
  acceptedProxyTypes : List ProxySignalType
  minimumFreshnessSeconds : Nat
  minimumSourceAuthority : String
  minimumLineageDepth : Nat
  minimumConfidence : Rat
  schemaVersion : String
  texts : ∀ text ∈ [requirementId, engineId, analysisPurpose, schemaVersion], visible text
  accepted : ProxySignalType.none ∉ acceptedProxyTypes

structure AvailabilityEvaluationContext where
  candidateId : String
  candidateTrust : Option CandidateTrustState
  observations : List SourceObservation
  providerStates : List ProviderAvailabilityState
  evaluatedAt : Moment
  cutoffAt : Option Moment
  replayMode : ReplayMode
  processingRunId : String
  texts : ∀ text ∈ [candidateId, processingRunId], visible text

structure AvailabilityEvaluationPolicy where
  allowProxyForDirectRequirement : Bool

structure DataAvailability where
  availabilityId : String
  requirementId : String
  candidateId : String
  engineId : String
  analysisPurpose : String
  availabilityState : AvailabilityState
  directness : Directness
  proxyType : Option ProxySignalType
  freshnessSeconds : Option Nat
  sourceQuality : SourceQualityState
  lineageComplete : Bool
  conflictState : String
  evidenceCount : Nat
  missingReason : String
  effectiveAt : Moment
  recordedAt : Moment
  cutoffAt : Option Moment
  replayMode : ReplayMode
  processingRunId : String
  schemaVersion : String
  deriving DecidableEq

/-- `__post_init__`. -/
def DataAvailability.construct (availability : DataAvailability) : Except Raised DataAvailability := do
  [("availability_id", availability.availabilityId), ("requirement_id", availability.requirementId),
    ("candidate_id", availability.candidateId), ("engine_id", availability.engineId),
    ("analysis_purpose", availability.analysisPurpose),
    ("processing_run_id", availability.processingRunId),
    ("schema_version", availability.schemaVersion)].forM fun (name, text) => requireText name text
  require (availability.proxyType ≠ some .none) "proxy_type cannot be none when present"
  require (availability.directness = .proxySignal → availability.proxyType.isSome)
    "proxy_signal directness requires proxy_type"
  require (availability.directness ≠ .proxySignal → availability.proxyType = none)
    "proxy_type is only allowed for proxy_signal directness"
  require (availability.availabilityState = .unavailable → visible availability.missingReason)
    "missing_reason is required"
  require (availability.availabilityState = .unavailable → availability.directness = .unavailable)
    "unavailable state requires unavailable directness"
  require (availability.directness = .unavailable → availability.availabilityState = .unavailable)
    "unavailable directness requires unavailable state"
  .ok availability

/-- A link of an availability to a record behind one of its observations. -/
structure Link where
  linkId : String
  ownerType : String
  ownerId : String
  recordId : String
  role : String
  position : Nat
  createdAt : Moment
  schemaVersion : String
  deriving DecidableEq

/-- The kinds of links, by the words that their functions differ in. -/
structure LinkKind where
  kind : String
  /-- The name of the id under the digest of the link. -/
  key : String
  /-- The name of the id in the link. -/
  field : String
  role : String
  recordId : SourceObservation → Option String

def evidenceLinks : LinkKind where
  kind := "availability-evidence-link"
  key := "evidence_id"
  field := "source_evidence_id"
  role := "supporting_evidence"
  recordId := SourceObservation.evidenceId

def spanLinks : LinkKind where
  kind := "availability-span-link"
  key := "span_id"
  field := "span_id"
  role := "supporting_span"
  recordId := SourceObservation.spanId

def claimLinks : LinkKind where
  kind := "availability-claim-link"
  key := "claim_id"
  field := "claim_id"
  role := "supporting_claim"
  recordId := SourceObservation.claimId

def conflictLinks : LinkKind where
  kind := "availability-conflict-link"
  key := "conflict_id"
  field := "conflict_id"
  role := "related_conflict"
  recordId := SourceObservation.conflictId

/-- `_lineage`. -/
def Link.construct (link : Link) (field : String) : Except Raised Link := do
  [("link_id", link.linkId), ("owner_id", link.ownerId), (field, link.recordId), ("role", link.role),
    ("schema_version", link.schemaVersion)].forM fun (name, text) => requireText name text
  .ok link

structure AvailabilityEvaluationResult where
  availability : DataAvailability
  evidenceLinks : List Link
  spanLinks : List Link
  claimLinks : List Link
  conflictLinks : List Link
  deriving DecidableEq

def sufficiencyId (kind : String) (payload : Json) : String := identity ("sufficiency-" ++ kind) payload

/-- `int` of the seconds in an interval, which are the nearest double to its microseconds over a
million. -/
def wholeSeconds (micros : Nat) : Nat :=
  let scale := 2 ^ (52 - Nat.log2 (micros / 1000000))
  Decimal.halfEven (micros * scale) 1000000 / scale

/-- `_freshness_seconds`. -/
def freshnessSeconds (context : AvailabilityEvaluationContext) (observation : SourceObservation) : Nat :=
  wholeSeconds ((context.cutoffAt.getD context.evaluatedAt).val - observation.effectiveAt.val)

def sourceQualitySatisfies (actual minimum : String) : Prop :=
  sourceQualityRank 2 minimum ≤ sourceQualityRank 0 actual

instance (actual minimum : String) : Decidable (sourceQualitySatisfies actual minimum) := by
  unfold sourceQualitySatisfies
  infer_instance

def conflicted (observations : List SourceObservation) : Prop :=
  ∃ observation ∈ observations, observation.conflictState ≠ "none"

instance (observations : List SourceObservation) : Decidable (conflicted observations) := by
  unfold conflicted
  infer_instance

def aggregateSourceQuality (observations : List SourceObservation) : SourceQualityState :=
  match (observations.map fun observation => sourceQualityRank 0 observation.sourceQuality).min? with
  | none => .unavailable
  | some minimum =>
      if conflicted observations then .conflicted
      else if 3 ≤ minimum then .high
      else if minimum = 2 then .medium
      else .low

def dominantDirectness (observations : List SourceObservation) : Directness :=
  if ∃ observation ∈ observations, observation.directness = .directObservation then .directObservation
  else if ∃ observation ∈ observations, observation.directness = .derivedFromDirect then .derivedFromDirect
  else .proxySignal

/-- The type of the first proxy. -/
def dominantProxyType (observations : List SourceObservation) : Option ProxySignalType :=
  (observations.find? fun observation => observation.directness = .proxySignal).bind
    SourceObservation.proxyType

/-- `_visible_at`. -/
def visibleAt (context : AvailabilityEvaluationContext) (effectiveAt recordedAt : Moment) : Prop :=
  match context.cutoffAt, context.replayMode with
  | none, _ | _, .current => True
  | some cutoff, .reconstructedAfterCutoff => effectiveAt ≤ cutoff
  | some cutoff, .historicalStrictKnownByHunter => effectiveAt ≤ cutoff ∧ recordedAt ≤ cutoff

instance (context : AvailabilityEvaluationContext) (effectiveAt recordedAt : Moment) :
    Decidable (visibleAt context effectiveAt recordedAt) := by
  unfold visibleAt
  split <;> infer_instance

/-- `_eligible_trust`. -/
def eligibleTrust (context : AvailabilityEvaluationContext) : Prop :=
  ∃ trust ∈ context.candidateTrust, trust.candidateId = context.candidateId ∧ trust.eligible ∧
    visibleAt context trust.effectiveAt trust.recordedAt

instance (context : AvailabilityEvaluationContext) : Decidable (eligibleTrust context) := by
  unfold eligibleTrust CandidateTrustState.eligible
  infer_instance

def joined (texts : List String) : String := ",".intercalate (texts.mergeSort (· ≤ ·))

/-- The providers that a requirement asks for and that are known to be unavailable. -/
def unavailableProviders (requirement : DataRequirement) (context : AvailabilityEvaluationContext) :
    List ProviderAvailabilityState :=
  context.providerStates.filter fun state => state.sourceType ∈ requirement.requiredSourceTypes ∧
    state.unavailable ∧ visibleAt context state.checkedAt state.recordedAt

/-- `_missing_reason`. -/
def missingReason (requirement : DataRequirement) (context : AvailabilityEvaluationContext) : String :=
  let providers := unavailableProviders requirement context
  if providers ≠ [] then
    "provider_unavailable:" ++ joined (providers.map ProviderAvailabilityState.sourceType)
  else "missing_required_source_types:" ++ joined requirement.requiredSourceTypes

/-- What a branch of the evaluation hands to `_result`. -/
structure Judgement where
  state : AvailabilityState
  directness : Directness
  proxyType : Option ProxySignalType
  missingReason : String
  observations : List SourceObservation

def missing (reason : String) (observations : List SourceObservation) : Judgement :=
  ⟨.unavailable, .unavailable, none, reason, observations⟩

def eligible (requirement : DataRequirement) (context : AvailabilityEvaluationContext) :
    List SourceObservation :=
  context.observations.filter fun observation =>
    observation.candidateId = context.candidateId ∧
    observation.sourceType ∈ requirement.requiredSourceTypes ∧
    observation.evidenceDomain = requirement.evidenceDomain ∧ observation.active ∧
    visibleAt context observation.effectiveAt observation.recordedAt

def directOf (observations : List SourceObservation) : List SourceObservation :=
  observations.filter fun observation =>
    observation.directness = .directObservation ∨ observation.directness = .derivedFromDirect

def proxiesOf (requirement : DataRequirement) (observations : List SourceObservation) :
    List SourceObservation :=
  observations.filter fun observation =>
    observation.directness = .proxySignal ∧
    (∃ type ∈ observation.proxyType, type ∈ requirement.acceptedProxyTypes) ∧
    requirement.proxyAllowed = true

/-- `direct or proxies`. -/
def satisfyingOf (requirement : DataRequirement) (observations : List SourceObservation) :
    List SourceObservation :=
  if directOf observations ≠ [] then directOf observations else proxiesOf requirement observations

/-- The reasons for which data that is there is not complete. -/
def shortcomings (requirement : DataRequirement) (context : AvailabilityEvaluationContext)
    (satisfying : List SourceObservation) : List String :=
  let missingSources := requirement.requiredSourceTypes.dedup.filter fun type =>
    ∀ observation ∈ satisfying, observation.sourceType ≠ type
  (if missingSources ≠ [] then ["missing_required_source_types:" ++ joined missingSources] else []) ++
  (if ∃ observation ∈ satisfying, requirement.minimumFreshnessSeconds < freshnessSeconds context observation
    then ["some_required_data_stale"] else []) ++
  (if ∃ observation ∈ satisfying, observation.lineageDepth < requirement.minimumLineageDepth
    then ["lineage_incomplete"] else []) ++
  (if conflicted satisfying then ["source_conflict_present"] else []) ++
  (if ∃ observation ∈ satisfying,
      ¬sourceQualitySatisfies observation.sourceQuality requirement.minimumSourceAuthority
    then ["source_authority_below_requirement"] else []) ++
  (if ∃ observation ∈ satisfying, observation.confidence < requirement.minimumConfidence
    then ["confidence_below_requirement"] else [])

/-- The judgement on data that is there. -/
def grade (requirement : DataRequirement) (context : AvailabilityEvaluationContext)
    (satisfying : List SourceObservation) : Judgement :=
  let directness := dominantDirectness satisfying
  let proxyType := dominantProxyType satisfying
  if ∀ observation ∈ satisfying, requirement.minimumFreshnessSeconds < freshnessSeconds context observation
  then ⟨.stale, directness, proxyType, "required_data_stale", satisfying⟩
  else
    let reasons := shortcomings requirement context satisfying
    if reasons ≠ [] then ⟨.partially, directness, proxyType, ";".intercalate reasons, satisfying⟩
    else ⟨.available, directness, proxyType, "", satisfying⟩

def judge (policy : AvailabilityEvaluationPolicy) (requirement : DataRequirement)
    (context : AvailabilityEvaluationContext) : Judgement :=
  if eligibleTrust context then
    let candidates := eligible requirement context
    let proxies := proxiesOf requirement candidates
    if requirement.directObservationRequired = true ∧ directOf candidates = [] then
      if proxies ≠ [] ∧ policy.allowProxyForDirectRequirement = true then
        ⟨.partially, .proxySignal, proxies.head?.bind SourceObservation.proxyType,
          "proxy_signal_cannot_fully_satisfy_direct_observation", proxies⟩
      else missing (missingReason requirement context) proxies
    else if satisfyingOf requirement candidates = [] then
      missing (missingReason requirement context) candidates
    else grade requirement context (satisfyingOf requirement candidates)
  else missing "candidate_identity_not_trusted" []

def availabilityId (requirement : DataRequirement) (context : AvailabilityEvaluationContext) : String :=
  sufficiencyId "availability" (Canonical.mapping [
    ("requirement_id", .str requirement.requirementId),
    ("candidate_id", .str context.candidateId),
    ("processing_run_id", .str context.processingRunId),
    ("replay_mode", .str context.replayMode.text),
    ("cutoff_at", (context.cutoffAt.map Canonical.datetime).getD .null)])

/-- The record of an availability as it is constructed. -/
def record (requirement : DataRequirement) (context : AvailabilityEvaluationContext)
    (judgement : Judgement) : DataAvailability where
  availabilityId := availabilityId requirement context
  requirementId := requirement.requirementId
  candidateId := context.candidateId
  engineId := requirement.engineId
  analysisPurpose := requirement.analysisPurpose
  availabilityState := judgement.state
  directness := judgement.directness
  proxyType := judgement.proxyType
  freshnessSeconds := (judgement.observations.map (freshnessSeconds context)).max?
  sourceQuality := aggregateSourceQuality judgement.observations
  lineageComplete := decide (∀ observation ∈ judgement.observations,
    requirement.minimumLineageDepth ≤ observation.lineageDepth)
  conflictState := if conflicted judgement.observations then "conflicted" else "none"
  evidenceCount := judgement.observations.length
  missingReason := judgement.missingReason
  effectiveAt := context.cutoffAt.getD context.evaluatedAt
  recordedAt := context.evaluatedAt
  cutoffAt := context.cutoffAt
  replayMode := context.replayMode
  processingRunId := context.processingRunId
  schemaVersion := requirement.schemaVersion

def link (kind : LinkKind) (owner schemaVersion : String) (observation : SourceObservation)
    (position : Nat) (id : String) : Link where
  linkId := sufficiencyId kind.kind (Canonical.mapping [("availability_id", .str owner),
    (kind.key, .str id), ("position", Canonical.int position)])
  ownerType := "availability"
  ownerId := owner
  recordId := id
  role := kind.role
  position := position
  createdAt := observation.recordedAt
  schemaVersion := schemaVersion

/-- `_evidence_links`, `_span_links`, `_claim_links` and `_conflict_links`, by their kind. -/
def links (kind : LinkKind) (owner schemaVersion : String) (observations : List SourceObservation) :
    Except Raised (List Link) :=
  (observations.zipIdx.filterMap fun (observation, position) =>
    (kind.recordId observation).map (link kind owner schemaVersion observation position)).mapM
      fun link => link.construct kind.field

/-- `_result`. -/
def result (requirement : DataRequirement) (context : AvailabilityEvaluationContext)
    (judgement : Judgement) : Except Raised AvailabilityEvaluationResult := do
  let availability ← (record requirement context judgement).construct
  let owner := availability.availabilityId
  let evidence ← links Sufficiency.evidenceLinks owner requirement.schemaVersion judgement.observations
  let spans ← links Sufficiency.spanLinks owner requirement.schemaVersion judgement.observations
  let claims ← links Sufficiency.claimLinks owner requirement.schemaVersion judgement.observations
  let conflicts ← links Sufficiency.conflictLinks owner requirement.schemaVersion judgement.observations
  .ok ⟨availability, evidence, spans, claims, conflicts⟩

/-- `DataAvailabilityEvaluator.evaluate`. -/
def evaluate (policy : AvailabilityEvaluationPolicy) (requirement : DataRequirement)
    (context : AvailabilityEvaluationContext) : Except Raised AvailabilityEvaluationResult :=
  result requirement context (judge policy requirement context)

section Order

variable {observations others : List SourceObservation}

theorem joined_perm {texts other : List String} (perm : texts.Perm other) : joined texts = joined other :=
  congrArg (String.intercalate _) (Sorting.sorted_congr perm)

theorem max?_perm {numbers other : List Nat} (perm : numbers.Perm other) : numbers.max? = other.max? := by
  cases found : numbers.max? with
  | none =>
      rw [List.max?_eq_none_iff] at found
      subst found
      rw [List.nil_perm.mp perm]
      rfl
  | some most =>
      obtain ⟨inside, above⟩ := List.max?_eq_some_iff.mp found
      symm
      exact List.max?_eq_some_iff.mpr
        ⟨perm.mem_iff.mp inside, fun number there => above number (perm.mem_iff.mpr there)⟩

theorem min?_perm {numbers other : List Nat} (perm : numbers.Perm other) : numbers.min? = other.min? := by
  cases found : numbers.min? with
  | none =>
      rw [List.min?_eq_none_iff] at found
      subst found
      rw [List.nil_perm.mp perm]
      rfl
  | some least =>
      obtain ⟨inside, below⟩ := List.min?_eq_some_iff.mp found
      symm
      exact List.min?_eq_some_iff.mpr
        ⟨perm.mem_iff.mp inside, fun number there => below number (perm.mem_iff.mpr there)⟩

theorem conflicted_perm (perm : observations.Perm others) : conflicted observations ↔ conflicted others := by
  simp only [conflicted, perm.mem_iff]

theorem aggregateSourceQuality_perm (perm : observations.Perm others) :
    aggregateSourceQuality observations = aggregateSourceQuality others := by
  simp only [aggregateSourceQuality, min?_perm (perm.map _), conflicted_perm perm]

theorem dominantDirectness_perm (perm : observations.Perm others) :
    dominantDirectness observations = dominantDirectness others := by
  simp only [dominantDirectness, perm.mem_iff]

theorem shortcomings_perm (requirement : DataRequirement) (context : AvailabilityEvaluationContext)
    (perm : observations.Perm others) :
    shortcomings requirement context observations = shortcomings requirement context others := by
  simp only [shortcomings, conflicted, perm.mem_iff]

theorem dominantProxyType_direct (observations : List SourceObservation) :
    dominantProxyType (directOf observations) = none := by
  have absent : (directOf observations).find? (fun observation => observation.directness = .proxySignal) =
      none := by
    refine List.find?_eq_none.mpr fun observation inside => ?_
    have direct := of_decide_eq_true (List.mem_filter.mp inside).2
    rcases direct with direct | direct <;> simp [direct]
  rw [dominantProxyType, absent]
  rfl

theorem dominantProxyType_proxies (requirement : DataRequirement) (observations : List SourceObservation) :
    dominantProxyType (proxiesOf requirement observations) =
      (proxiesOf requirement observations).head?.bind SourceObservation.proxyType := by
  cases proxies : proxiesOf requirement observations with
  | nil => rfl
  | cons first rest =>
      have inside : first ∈ proxiesOf requirement observations := proxies ▸ List.mem_cons_self
      have proxy : first.directness = .proxySignal := (of_decide_eq_true (List.mem_filter.mp inside).2).1
      have found : (first :: rest).find? (fun observation => observation.directness = .proxySignal) =
          some first := List.find?_cons_of_pos (p := fun observation : SourceObservation =>
            decide (observation.directness = .proxySignal)) (decide_eq_true proxy)
      rw [dominantProxyType, found]
      rfl

end Order

/-- The same judgement but for the order of the observations and the type of the proxy. -/
structure Judgement.Like (a b : Judgement) : Prop where
  state : a.state = b.state
  directness : a.directness = b.directness
  missingReason : a.missingReason = b.missingReason
  observations : a.observations.Perm b.observations

section Reorder

variable (policy : AvailabilityEvaluationPolicy) (requirement : DataRequirement)
  (context : AvailabilityEvaluationContext) {observations : List SourceObservation}
  {providerStates : List ProviderAvailabilityState}

/-- The context with its observations and providers in another order. -/
def reordered (observations : List SourceObservation) (providerStates : List ProviderAvailabilityState) :
    AvailabilityEvaluationContext :=
  { context with observations := observations, providerStates := providerStates }

theorem missingReason_perm (perm : providerStates.Perm context.providerStates) :
    missingReason requirement (reordered context observations providerStates) =
      missingReason requirement context := by
  have filtered : (unavailableProviders requirement (reordered context observations providerStates)).Perm
      (unavailableProviders requirement context) := perm.filter _
  have nothing : unavailableProviders requirement (reordered context observations providerStates) = [] ↔
      unavailableProviders requirement context = [] :=
    ⟨fun empty => List.perm_nil.mp (empty ▸ filtered.symm), fun empty => List.perm_nil.mp (empty ▸ filtered)⟩
  simp only [missingReason, ne_eq, nothing, joined_perm (filtered.map _)]

theorem grade_like {satisfying others : List SourceObservation} (perm : satisfying.Perm others) :
    (grade requirement (reordered context observations providerStates) satisfying).Like
      (grade requirement context others) := by
  have short := shortcomings_perm requirement context perm
  have stale : (∀ observation ∈ satisfying, requirement.minimumFreshnessSeconds <
      freshnessSeconds context observation) ↔ ∀ observation ∈ others,
        requirement.minimumFreshnessSeconds < freshnessSeconds context observation := by
    simp only [perm.mem_iff]
  have same : grade requirement (reordered context observations providerStates) satisfying =
      grade requirement context satisfying := rfl
  rw [same]
  unfold grade
  simp only [short, stale, dominantDirectness_perm perm]
  split
  · exact ⟨rfl, rfl, rfl, perm⟩
  · split
    · exact ⟨rfl, rfl, rfl, perm⟩
    · exact ⟨rfl, rfl, rfl, perm⟩

theorem empty_perm {items others : List SourceObservation} (perm : items.Perm others) :
    items = [] ↔ others = [] :=
  ⟨fun none => List.perm_nil.mp (none ▸ perm.symm), fun none => List.perm_nil.mp (none ▸ perm)⟩

theorem satisfyingOf_perm {items others : List SourceObservation} (perm : items.Perm others) :
    (satisfyingOf requirement items).Perm (satisfyingOf requirement others) := by
  have direct : (directOf items).Perm (directOf others) := perm.filter _
  simp only [satisfyingOf, ne_eq, empty_perm direct]
  split
  · exact direct
  · exact perm.filter _

theorem judge_like (perm : observations.Perm context.observations)
    (providers : providerStates.Perm context.providerStates) :
    (judge policy requirement (reordered context observations providerStates)).Like
      (judge policy requirement context) := by
  have candidates : (eligible requirement (reordered context observations providerStates)).Perm
      (eligible requirement context) := perm.filter _
  have direct : (directOf (eligible requirement (reordered context observations providerStates))).Perm
      (directOf (eligible requirement context)) := candidates.filter _
  have proxies : (proxiesOf requirement (eligible requirement
      (reordered context observations providerStates))).Perm
      (proxiesOf requirement (eligible requirement context)) := candidates.filter _
  have satisfying := satisfyingOf_perm requirement candidates
  have reason := @missingReason_perm requirement context observations providerStates providers
  have trust : eligibleTrust (reordered context observations providerStates) ↔ eligibleTrust context := Iff.rfl
  unfold judge
  simp only [trust, empty_perm direct, empty_perm proxies, empty_perm satisfying, ne_eq, reason]
  split
  · split
    · split
      · exact ⟨rfl, rfl, rfl, proxies⟩
      · exact ⟨rfl, rfl, rfl, proxies⟩
    · split
      · exact ⟨rfl, rfl, rfl, candidates⟩
      · exact grade_like requirement context satisfying
  · exact ⟨rfl, rfl, rfl, List.Perm.refl _⟩

/-- The proxies stand for the data. -/
def usesProxies : Prop :=
  eligibleTrust context ∧ directOf (eligible requirement context) = [] ∧
    (requirement.directObservationRequired = true → policy.allowProxyForDirectRequirement = true)

/-- The type of the proxy is that of the first one, where the proxies stand for the data. -/
theorem judge_proxies (uses : usesProxies policy requirement context)
    (some_ : proxiesOf requirement (eligible requirement context) ≠ []) :
    (judge policy requirement context).observations = proxiesOf requirement (eligible requirement context) ∧
    (judge policy requirement context).proxyType =
      (proxiesOf requirement (eligible requirement context)).head?.bind SourceObservation.proxyType := by
  obtain ⟨trust, direct, allowed⟩ := uses
  unfold judge
  rw [if_pos trust]
  dsimp only
  split
  · rename_i required
    rw [if_pos ⟨some_, allowed required.1⟩]
    exact ⟨rfl, rfl⟩
  · have same : satisfyingOf requirement (eligible requirement context) =
        proxiesOf requirement (eligible requirement context) := if_neg (not_not_intro direct)
    rw [same, if_neg some_]
    unfold grade
    dsimp only
    rw [dominantProxyType_proxies]
    split
    · exact ⟨rfl, rfl⟩
    · split
      · exact ⟨rfl, rfl⟩
      · exact ⟨rfl, rfl⟩

theorem judge_plain (plain : ¬usesProxies policy requirement context ∨
    proxiesOf requirement (eligible requirement context) = []) :
    (judge policy requirement context).proxyType = none := by
  unfold judge
  split
  · rename_i trust
    dsimp only
    split
    · rename_i required
      split
      · rename_i taken
        rcases plain with unused | empty
        · exact absurd ⟨trust, required.2, fun _ => taken.2⟩ unused
        · exact absurd empty taken.1
      · rfl
    · rename_i optional
      split
      · rfl
      · rename_i satisfied
        have direct : directOf (eligible requirement context) ≠ [] := by
          intro empty
          rcases plain with unused | none
          · exact unused ⟨trust, empty, fun required => absurd ⟨required, empty⟩ optional⟩
          · exact satisfied ((if_neg (not_not_intro empty)).trans none)
        have same : satisfyingOf requirement (eligible requirement context) =
            directOf (eligible requirement context) := if_pos direct
        rw [same]
        unfold grade
        dsimp only
        rw [dominantProxyType_direct]
        split
        · rfl
        · split
          · rfl
          · rfl
  · rfl

end Reorder

/-- A text that begins with a visible character. -/
theorem visible_append {text rest : String} {c : Char} {chars : List Char} (start : text.toList = c :: chars)
    (plain : Chars.isSpace c = false) : visible (text ++ rest) := by
  have member : c ∈ (text ++ rest).scalars := by
    rw [String.scalars_eq_toList, String.toList_append, start]
    exact List.mem_cons_self
  exact Chars.strip_ne_nil_of_mem member plain

theorem visible_identity (kind : String) (payload : Json) : visible (sufficiencyId kind payload) := by
  have first : (sufficiencyId kind payload).toList.head? = some 's' :=
    identity_head (show ("sufficiency-" ++ kind).toList = 's' :: _ by rw [String.toList_append]; rfl)
  have member : 's' ∈ (sufficiencyId kind payload).scalars := by
    rw [String.scalars_eq_toList]
    exact List.mem_of_mem_head? first
  exact Chars.strip_ne_nil_of_mem member (by decide)

/-- What `DataAvailability` checks of a judgement. -/
structure Judgement.Valid (judgement : Judgement) : Prop where
  typed : judgement.proxyType ≠ some .none
  proxy : judgement.directness = .proxySignal ↔ judgement.proxyType.isSome
  unavailable : judgement.state = .unavailable ↔ judgement.directness = .unavailable
  reason : judgement.state = .unavailable → visible judgement.missingReason

theorem valid_missing {reason : String} (plain : visible reason) (observations : List SourceObservation) :
    (missing reason observations).Valid :=
  ⟨nofun, ⟨nofun, nofun⟩, ⟨fun _ => rfl, fun _ => rfl⟩, fun _ => plain⟩

theorem visible_missingReason (requirement : DataRequirement) (context : AvailabilityEvaluationContext) :
    visible (missingReason requirement context) := by
  unfold missingReason
  dsimp only
  split
  · exact visible_append (show "provider_unavailable:".toList = 'p' :: _ from rfl) (by decide)
  · exact visible_append (show "missing_required_source_types:".toList = 'm' :: _ from rfl) (by decide)

/-- The first proxy has an accepted type. -/
theorem head_accepted {requirement : DataRequirement} {observations : List SourceObservation}
    (some_ : proxiesOf requirement observations ≠ []) :
    ∃ type ∈ requirement.acceptedProxyTypes,
      (proxiesOf requirement observations).head?.bind SourceObservation.proxyType = some type := by
  cases proxies : proxiesOf requirement observations with
  | nil => exact absurd proxies some_
  | cons first rest =>
      have inside : first ∈ proxiesOf requirement observations := proxies ▸ List.mem_cons_self
      obtain ⟨-, ⟨type, found, accepted⟩, -⟩ := of_decide_eq_true (List.mem_filter.mp inside).2
      exact ⟨type, accepted, found⟩

theorem dominantDirectness_proxies (requirement : DataRequirement) (observations : List SourceObservation) :
    dominantDirectness (proxiesOf requirement observations) = .proxySignal := by
  have proxy : ∀ observation ∈ proxiesOf requirement observations, observation.directness = .proxySignal :=
    fun observation inside => (of_decide_eq_true (List.mem_filter.mp inside).2).1
  unfold dominantDirectness
  rw [if_neg, if_neg]
  · rintro ⟨observation, inside, derived⟩
    exact absurd ((proxy observation inside).symm.trans derived) nofun
  · rintro ⟨observation, inside, direct⟩
    exact absurd ((proxy observation inside).symm.trans direct) nofun

theorem dominantDirectness_direct {observations : List SourceObservation}
    (some_ : directOf observations ≠ []) :
    dominantDirectness (directOf observations) = .directObservation ∨
      dominantDirectness (directOf observations) = .derivedFromDirect := by
  unfold dominantDirectness
  split
  · exact Or.inl rfl
  · rename_i none
    obtain ⟨first, inside⟩ := List.exists_mem_of_ne_nil _ some_
    rcases of_decide_eq_true (List.mem_filter.mp inside).2 with direct | derived
    · exact absurd ⟨first, inside, direct⟩ none
    · rw [if_pos ⟨first, inside, derived⟩]
      exact Or.inr rfl

theorem valid_grade (requirement : DataRequirement) (context : AvailabilityEvaluationContext)
    {satisfying : List SourceObservation}
    (typed : dominantProxyType satisfying ≠ some .none)
    (proxy : dominantDirectness satisfying = .proxySignal ↔ (dominantProxyType satisfying).isSome)
    (there : dominantDirectness satisfying ≠ .unavailable) :
    (grade requirement context satisfying).Valid := by
  have absent : ¬dominantDirectness satisfying = .unavailable := there
  unfold grade
  dsimp only
  split
  · exact ⟨typed, proxy, ⟨nofun, fun none => absurd none absent⟩, nofun⟩
  · split
    · exact ⟨typed, proxy, ⟨nofun, fun none => absurd none absent⟩, nofun⟩
    · exact ⟨typed, proxy, ⟨nofun, fun none => absurd none absent⟩, nofun⟩

theorem judge_valid (policy : AvailabilityEvaluationPolicy) (requirement : DataRequirement)
    (context : AvailabilityEvaluationContext) : (judge policy requirement context).Valid := by
  unfold judge
  split
  · dsimp only
    split
    · split
      · rename_i taken
        obtain ⟨type, accepted, found⟩ := head_accepted taken.1
        rw [found]
        refine ⟨?_, ⟨fun _ => rfl, fun _ => rfl⟩, ⟨nofun, nofun⟩, nofun⟩
        intro same
        exact requirement.accepted (Option.some.inj same ▸ accepted)
      · exact valid_missing (visible_missingReason requirement context) _
    · split
      · exact valid_missing (visible_missingReason requirement context) _
      · rename_i satisfied
        by_cases direct : directOf (eligible requirement context) = []
        · have same : satisfyingOf requirement (eligible requirement context) =
              proxiesOf requirement (eligible requirement context) := if_neg (not_not_intro direct)
          rw [same] at satisfied ⊢
          obtain ⟨type, accepted, found⟩ := head_accepted satisfied
          have first := (dominantProxyType_proxies requirement (eligible requirement context)).trans found
          have proxy := dominantDirectness_proxies requirement (eligible requirement context)
          refine valid_grade requirement context ?_ ?_ ?_
          · rw [first]
            intro same
            exact requirement.accepted (Option.some.inj same ▸ accepted)
          · rw [first, proxy]
            exact ⟨fun _ => rfl, fun _ => rfl⟩
          · rw [proxy]
            exact nofun
        · have same : satisfyingOf requirement (eligible requirement context) =
              directOf (eligible requirement context) := if_pos direct
          have absent := dominantProxyType_direct (eligible requirement context)
          rw [same]
          refine valid_grade requirement context ?_ ?_ ?_
          · rw [absent]
            exact nofun
          · rw [absent]
            rcases dominantDirectness_direct direct with known | known
            · rw [known]
              exact ⟨nofun, nofun⟩
            · rw [known]
              exact ⟨nofun, nofun⟩
          · rcases dominantDirectness_direct direct with known | known
            · rw [known]
              exact nofun
            · rw [known]
              exact nofun
  · refine valid_missing ?_ _
    exact (by decide)

theorem forM_requireText {fields : List (String × String)} (plain : ∀ field ∈ fields, visible field.2) :
    (fields.forM fun (name, text) => requireText name text) = .ok () :=
  forM_ok.mpr fun field inside => require_of (plain field inside)

theorem record_accepted (requirement : DataRequirement) (context : AvailabilityEvaluationContext)
    {judgement : Judgement} (valid : judgement.Valid) :
    (record requirement context judgement).construct = .ok (record requirement context judgement) := by
  have id : visible (availabilityId requirement context) := visible_identity _ _
  have asked := requirement.texts
  have given := context.texts
  simp only [List.forall_mem_cons] at asked given
  unfold DataAvailability.construct
  rw [forM_requireText, ok_bind, require_of, ok_bind, require_of, ok_bind, require_of, ok_bind, require_of,
    ok_bind, require_of, ok_bind, require_of, ok_bind]
  · exact valid.unavailable.mpr
  · exact valid.unavailable.mp
  · exact valid.reason
  · intro other
    exact Option.not_isSome_iff_eq_none.mp fun there => other (valid.proxy.mpr there)
  · exact valid.proxy.mp
  · exact valid.typed
  · simp only [List.forall_mem_cons, record]
    exact ⟨id, asked.1, given.1, asked.2.1, asked.2.2.1, given.2.1, asked.2.2.2.1, by simp⟩

/-- A link of the kind is refused, since the id of its record is blank. -/
def Blank (kind : LinkKind) (observations : List SourceObservation) : Prop :=
  ∃ observation ∈ observations, ∃ id ∈ kind.recordId observation, ¬visible id

instance (kind : LinkKind) (observations : List SourceObservation) : Decidable (Blank kind observations) := by
  unfold Blank
  infer_instance

theorem Blank.perm {kind : LinkKind} {observations others : List SourceObservation}
    (perm : observations.Perm others) : Blank kind observations ↔ Blank kind others := by
  simp only [Blank, perm.mem_iff]

def linkKinds : List LinkKind :=
  [Sufficiency.evidenceLinks, Sufficiency.spanLinks, Sufficiency.claimLinks, Sufficiency.conflictLinks]

theorem link_construct {kind : LinkKind} {owner schemaVersion : String} {observation : SourceObservation}
    {position : Nat} {id : String} (role : visible kind.role) (owned : visible owner)
    (version : visible schemaVersion) :
    (link kind owner schemaVersion observation position id).construct kind.field =
      if visible id then .ok (link kind owner schemaVersion observation position id)
      else .error (kind.field ++ " is required") := by
  have named : visible (sufficiencyId kind.kind (Canonical.mapping [("availability_id", .str owner),
    (kind.key, .str id), ("position", Canonical.int position)])) := visible_identity _ _
  unfold Link.construct
  by_cases plain : visible id
  · rw [if_pos plain, forM_requireText, ok_bind]
    simp only [List.forall_mem_cons, link]
    exact ⟨named, owned, plain, role, version, by simp⟩
  · rw [if_neg plain]
    refine check_error.mpr (Or.inl (forM_error.mpr ?_))
    refine ⟨[("link_id", _), ("owner_id", _)], (kind.field, id), [("role", _), ("schema_version", _)], rfl,
      ?_, if_neg plain⟩
    simp only [List.forall_mem_cons]
    exact ⟨require_of named, require_of owned, by simp⟩

/-- A sequence of items that are each accepted as they are or refused in one way. -/
theorem mapM_guard {α ε : Type} {check : α → Except ε α} {good : α → Prop} {exn : ε} {items : List α}
    (accepts : ∀ item ∈ items, good item → check item = .ok item)
    (refuses : ∀ item ∈ items, ¬good item → check item = .error exn) :
    ((∀ item ∈ items, good item) → items.mapM check = .ok items) ∧
      (¬(∀ item ∈ items, good item) → items.mapM check = .error exn) := by
  induction items with
  | nil => exact ⟨fun _ => rfl, fun none => absurd (fun item there => absurd there List.not_mem_nil) none⟩
  | cons item items ih =>
      obtain ⟨all, fault⟩ := ih (fun other there => accepts other (List.mem_cons_of_mem _ there))
        (fun other there => refuses other (List.mem_cons_of_mem _ there))
      rw [List.forall_mem_cons, List.mapM_cons]
      by_cases first : good item
      · rw [accepts item List.mem_cons_self first, ok_bind]
        refine ⟨fun good => ?_, fun bad => ?_⟩
        · rw [all good.2]
          rfl
        · rw [fault fun rest => bad ⟨first, rest⟩]
          rfl
      · rw [refuses item List.mem_cons_self first]
        exact ⟨fun good => absurd good.1 first, fun _ => rfl⟩

theorem links_eq {kind : LinkKind} {owner schemaVersion : String} (role : visible kind.role)
    (owned : visible owner) (version : visible schemaVersion) (observations : List SourceObservation) :
    (¬Blank kind observations → ∃ made, links kind owner schemaVersion observations = .ok made) ∧
      (Blank kind observations →
        links kind owner schemaVersion observations = .error (kind.field ++ " is required")) := by
  have member (item : Link) : item ∈ (observations.zipIdx.filterMap fun (observation, position) =>
      (kind.recordId observation).map (link kind owner schemaVersion observation position)) ↔
        ∃ observation position id, (observation, position) ∈ observations.zipIdx ∧
          kind.recordId observation = some id ∧
          link kind owner schemaVersion observation position id = item := by
    simp only [List.mem_filterMap, Prod.exists, Option.map_eq_some_iff]
    exact ⟨fun ⟨observation, position, there, id, found, same⟩ => ⟨observation, position, id, there, found, same⟩,
      fun ⟨observation, position, id, there, found, same⟩ => ⟨observation, position, there, id, found, same⟩⟩
  have guarded := @mapM_guard Link Raised (fun link => link.construct kind.field)
    (fun item => visible item.recordId) (kind.field ++ " is required")
    (observations.zipIdx.filterMap fun (observation, position) =>
      (kind.recordId observation).map (link kind owner schemaVersion observation position)) ?_ ?_
  · refine ⟨fun plain => ⟨_, guarded.1 fun item there => ?_⟩, fun blank => guarded.2 fun plain => ?_⟩
    · obtain ⟨observation, position, id, inside, found, rfl⟩ := (member item).mp there
      by_contra hidden
      exact plain ⟨observation, List.fst_mem_of_mem_zipIdx inside, id, found, hidden⟩
    · obtain ⟨observation, inside, id, found, hidden⟩ := blank
      rw [← List.zipIdx_map_fst 0 observations] at inside
      obtain ⟨⟨_, position⟩, there, rfl⟩ := List.mem_map.mp inside
      exact hidden (plain _ ((member _).mpr ⟨_, position, id, there, found, rfl⟩))
  · intro item there plain
    obtain ⟨observation, position, id, -, -, rfl⟩ := (member item).mp there
    exact (link_construct role owned version).trans (if_pos plain)
  · intro item there hidden
    obtain ⟨observation, position, id, -, -, rfl⟩ := (member item).mp there
    exact (link_construct role owned version).trans (if_neg hidden)

/-- The record that an evaluation answers. -/
def availabilityOf (policy : AvailabilityEvaluationPolicy) (requirement : DataRequirement)
    (context : AvailabilityEvaluationContext) : Except Raised DataAvailability :=
  (evaluate policy requirement context).map AvailabilityEvaluationResult.availability

section Evaluation

variable (policy : AvailabilityEvaluationPolicy) (requirement : DataRequirement)
  (context : AvailabilityEvaluationContext)

/-- What is answered when the kinds of links are made one after the other. -/
def answered (kinds : List LinkKind) (observations : List SourceObservation)
    (availability : DataAvailability) : Except Raised DataAvailability :=
  match kinds.find? fun kind => Blank kind observations with
  | some kind => .error (kind.field ++ " is required")
  | none => .ok availability

theorem answered_cons {kind : LinkKind} {kinds : List LinkKind} {owner schemaVersion : String}
    {observations : List SourceObservation} {availability : DataAvailability}
    {next : List Link → Except Raised AvailabilityEvaluationResult} (role : visible kind.role)
    (owned : visible owner) (version : visible schemaVersion)
    (rest : ∀ made, (next made).map AvailabilityEvaluationResult.availability =
      answered kinds observations availability) :
    (links kind owner schemaVersion observations >>= next).map AvailabilityEvaluationResult.availability =
      answered (kind :: kinds) observations availability := by
  obtain ⟨plain, refused⟩ := links_eq role owned version observations
  unfold answered
  by_cases blank : Blank kind observations
  · rw [refused blank, List.find?_cons_of_pos (by simpa using blank)]
    rfl
  · obtain ⟨made, found⟩ := plain blank
    rw [found, ok_bind, List.find?_cons_of_neg (by simpa using blank)]
    exact rest made

theorem availabilityOf_eq : availabilityOf policy requirement context =
    answered linkKinds (judge policy requirement context).observations
      (record requirement context (judge policy requirement context)) := by
  have owned : visible (availabilityId requirement context) := visible_identity _ _
  have asked := requirement.texts
  simp only [List.forall_mem_cons] at asked
  have version : visible requirement.schemaVersion := asked.2.2.2.1
  unfold availabilityOf evaluate result
  rw [record_accepted requirement context (judge_valid policy requirement context), ok_bind]
  refine answered_cons (by decide) owned version fun evidence => ?_
  refine answered_cons (by decide) owned version fun spans => ?_
  refine answered_cons (by decide) owned version fun claims => ?_
  exact answered_cons (by decide) owned version fun conflicts => rfl

/-- The record of an evaluation depends on the order of the observations by the type of the proxy alone. -/
theorem record_like {observations : List SourceObservation}
    {providerStates : List ProviderAvailabilityState} {a b : Judgement} (like : a.Like b) :
    record requirement (reordered context observations providerStates) a =
      { record requirement context b with proxyType := a.proxyType } := by
  obtain ⟨state, directness, reason, perm⟩ := like
  have fresh := max?_perm (perm.map (freshnessSeconds context))
  simp only [record, state, directness, reason, aggregateSourceQuality_perm perm, conflicted_perm perm,
    perm.length_eq, perm.mem_iff]
  rw [← fresh]
  rfl

theorem answered_perm {kinds : List LinkKind} {observations others : List SourceObservation}
    (perm : observations.Perm others) (availability : DataAvailability) :
    answered kinds observations availability = answered kinds others availability := by
  simp only [answered, Blank.perm perm]

theorem answered_plain {kinds : List LinkKind} {observations : List SourceObservation}
    (plain : ¬∃ kind ∈ kinds, Blank kind observations) (availability : DataAvailability) :
    answered kinds observations availability = .ok availability := by
  have absent : kinds.find? (fun kind => Blank kind observations) = none := by
    refine List.find?_eq_none.mpr fun kind inside blank => plain ⟨kind, inside, ?_⟩
    exact of_decide_eq_true blank
  rw [answered, absent]

theorem answered_blank {kinds : List LinkKind} {observations : List SourceObservation}
    (blank : ∃ kind ∈ kinds, Blank kind observations) (availability other : DataAvailability) :
    answered kinds observations availability = answered kinds observations other := by
  obtain ⟨kind, inside, refused⟩ := blank
  have some_ : (kinds.find? fun kind => Blank kind observations).isSome :=
    List.find?_isSome.mpr ⟨kind, inside, decide_eq_true refused⟩
  obtain ⟨first, found⟩ := Option.isSome_iff_exists.mp some_
  rw [answered, answered, found]

/-- The proxies of a context that its requirement accepts. -/
def proxies : List SourceObservation := proxiesOf requirement (eligible requirement context)

theorem usesProxies_perm {observations : List SourceObservation}
    {providerStates : List ProviderAvailabilityState} (perm : observations.Perm context.observations) :
    usesProxies policy requirement (reordered context observations providerStates) ↔
      usesProxies policy requirement context := by
  have direct : (directOf (eligible requirement (reordered context observations providerStates))).Perm
      (directOf (eligible requirement context)) := (perm.filter _).filter _
  simp only [usesProxies, empty_perm direct]
  exact Iff.rfl

theorem proxies_perm {observations : List SourceObservation}
    {providerStates : List ProviderAvailabilityState} (perm : observations.Perm context.observations) :
    (proxies requirement (reordered context observations providerStates)).Perm (proxies requirement context) :=
  (perm.filter _).filter _

/-- The record is the same in every order, where it has the same type. -/
theorem availabilityOf_reordered {observations : List SourceObservation}
    {providerStates : List ProviderAvailabilityState} (perm : observations.Perm context.observations)
    (providers : providerStates.Perm context.providerStates) :
    availabilityOf policy requirement (reordered context observations providerStates) =
      answered linkKinds (judge policy requirement context).observations
        { record requirement context (judge policy requirement context) with
          proxyType := (judge policy requirement (reordered context observations providerStates)).proxyType } := by
  have like := judge_like policy requirement context perm providers
  rw [availabilityOf_eq, answered_perm like.observations, record_like requirement context like]

theorem head_type {items others : List SourceObservation} (perm : items.Perm others)
    (one : ∀ a ∈ others, ∀ b ∈ others, a.proxyType = b.proxyType) :
    items.head?.bind SourceObservation.proxyType = others.head?.bind SourceObservation.proxyType := by
  cases items with
  | nil => rw [List.nil_perm.mp perm]
  | cons a items =>
      cases others with
      | nil => exact absurd perm (List.not_perm_cons_nil)
      | cons b others => exact one a (perm.mem_iff.mp List.mem_cons_self) b List.mem_cons_self

/-- The proxies have one type, or an evaluation of them is refused. -/
def Unambiguous : Prop :=
  usesProxies policy requirement context →
    (∃ kind ∈ linkKinds, Blank kind (proxies requirement context)) ∨
      ∀ a ∈ proxies requirement context, ∀ b ∈ proxies requirement context, a.proxyType = b.proxyType

theorem orderFree_of_unambiguous (unambiguous : Unambiguous policy requirement context)
    {observations : List SourceObservation} {providerStates : List ProviderAvailabilityState}
    (perm : observations.Perm context.observations)
    (providers : providerStates.Perm context.providerStates) :
    availabilityOf policy requirement (reordered context observations providerStates) =
      availabilityOf policy requirement context := by
  rw [availabilityOf_reordered policy requirement context perm providers, availabilityOf_eq]
  have same_type (same : (judge policy requirement (reordered context observations providerStates)).proxyType =
      (judge policy requirement context).proxyType) :
      answered linkKinds (judge policy requirement context).observations
        { record requirement context (judge policy requirement context) with
          proxyType := (judge policy requirement (reordered context observations providerStates)).proxyType } =
      answered linkKinds (judge policy requirement context).observations
        (record requirement context (judge policy requirement context)) := by
    rw [same]
    rfl
  have shuffled := @proxies_perm requirement context observations providerStates perm
  have using_ := @usesProxies_perm policy requirement context observations providerStates perm
  by_cases plain : ¬usesProxies policy requirement context ∨ proxies requirement context = []
  · refine same_type ((judge_plain policy requirement _ ?_).trans (judge_plain policy requirement _ plain).symm)
    exact plain.imp using_.not.mpr (empty_perm shuffled).mpr
  · obtain ⟨uses, some_⟩ := not_or.mp plain
    have uses := not_not.mp uses
    obtain ⟨used, first⟩ := judge_proxies policy requirement context uses some_
    obtain ⟨-, first'⟩ := judge_proxies policy requirement (reordered context observations providerStates)
      (using_.mpr uses) fun none => some_ ((empty_perm shuffled).mp none)
    rcases unambiguous uses with blank | one
    · rw [used]
      exact answered_blank blank _ _
    · exact same_type (first'.trans ((head_type shuffled one).trans first.symm))

theorem unambiguous_of_orderFree (orderFree : ∀ observations, observations.Perm context.observations →
    availabilityOf policy requirement (reordered context observations context.providerStates) =
      availabilityOf policy requirement context) : Unambiguous policy requirement context := by
  intro uses
  by_contra ambiguous
  obtain ⟨plain, differ⟩ := not_or.mp ambiguous
  have other : ∃ other ∈ proxies requirement context,
      other.proxyType ≠ (judge policy requirement context).proxyType := by
    by_contra same
    refine differ fun a inside b there => ?_
    have first := not_not.mp fun apart => same ⟨a, inside, apart⟩
    exact first.trans (not_not.mp fun apart => same ⟨b, there, apart⟩).symm
  obtain ⟨other, inside, apart⟩ := other
  have some_ : proxies requirement context ≠ [] := List.ne_nil_of_mem inside
  have candidate := List.mem_filter.mp inside
  have observed := List.mem_filter.mp candidate.1
  obtain ⟨front, back, whole⟩ := List.mem_iff_append.mp observed.1
  -- the other proxy comes first
  have perm : (other :: (front ++ back)).Perm context.observations := whole ▸ List.perm_middle.symm
  have equal := orderFree _ perm
  have used : (judge policy requirement context).observations = proxies requirement context :=
    (judge_proxies policy requirement context uses some_).1
  have leads : proxies requirement (reordered context (other :: (front ++ back)) context.providerStates) =
      other :: proxies requirement (reordered context (front ++ back) context.providerStates) := by
    have kept : eligible requirement (reordered context (other :: (front ++ back)) context.providerStates) =
        other :: eligible requirement (reordered context (front ++ back) context.providerStates) :=
      List.filter_cons_of_pos observed.2
    rw [proxies, kept]
    exact List.filter_cons_of_pos candidate.2
  obtain ⟨-, first⟩ := judge_proxies policy requirement _
    ((usesProxies_perm policy requirement context perm).mpr uses) (leads ▸ List.cons_ne_nil _ _)
  have led : (judge policy requirement (reordered context (other :: (front ++ back))
      context.providerStates)).proxyType = other.proxyType := by
    refine first.trans ?_
    have top : (proxies requirement (reordered context (other :: (front ++ back))
        context.providerStates)).head? = some other := leads ▸ rfl
    exact congrArg (fun top => Option.bind top SourceObservation.proxyType) top
  rw [availabilityOf_reordered policy requirement context perm (List.Perm.refl _), availabilityOf_eq, used,
    answered_plain plain, answered_plain plain, led] at equal
  exact apart (congrArg DataAvailability.proxyType (Except.ok.inj equal))

end Evaluation

/-- What is recorded or takes effect after a cutoff. -/
def Late (cutoff effectiveAt recordedAt : Moment) : Prop := cutoff < effectiveAt ∨ cutoff < recordedAt

/-- The same trust state, or one before and after that is late where there is any. -/
def TrustEdit (cutoff : Moment) (before after : Option CandidateTrustState) : Prop :=
  before = after ∨ ((∀ trust ∈ before, Late cutoff trust.effectiveAt trust.recordedAt) ∧
    ∀ trust ∈ after, Late cutoff trust.effectiveAt trust.recordedAt)

/-- A context with other observations, providers and trust. -/
def edited (context : AvailabilityEvaluationContext) (observations : List SourceObservation)
    (providerStates : List ProviderAvailabilityState) (candidateTrust : Option CandidateTrustState) :
    AvailabilityEvaluationContext :=
  { context with
    observations := observations
    providerStates := providerStates
    candidateTrust := candidateTrust }

/-- Another context that differs in what is late. -/
structure LateEdit (cutoff : Moment) (context other : AvailabilityEvaluationContext) : Prop where
  same : other = edited context other.observations other.providerStates other.candidateTrust
  observations : Edits (fun observation : SourceObservation =>
    Late cutoff observation.effectiveAt observation.recordedAt) context.observations other.observations
  providerStates : Edits (fun state : ProviderAvailabilityState =>
    Late cutoff state.checkedAt state.recordedAt) context.providerStates other.providerStates
  candidateTrust : TrustEdit cutoff context.candidateTrust other.candidateTrust

section Future

variable {policy : AvailabilityEvaluationPolicy} {requirement : DataRequirement}
  {context other : AvailabilityEvaluationContext} {cutoff : Moment}

theorem hidden_of_late (dated : context.cutoffAt = some cutoff)
    (strict : context.replayMode = .historicalStrictKnownByHunter) {effectiveAt recordedAt : Moment}
    (late : Late cutoff effectiveAt recordedAt) : ¬visibleAt context effectiveAt recordedAt := by
  unfold visibleAt
  rw [dated, strict]
  rintro ⟨effective, recorded⟩
  rcases late with late | late
  · exact absurd effective (not_le.mpr late)
  · exact absurd recorded (not_le.mpr late)

/-- What is recorded or takes effect after the cutoff of a strict replay is not noticed. -/
theorem evaluate_late (dated : context.cutoffAt = some cutoff)
    (strict : context.replayMode = .historicalStrictKnownByHunter) (edit : LateEdit cutoff context other) :
    evaluate policy requirement other = evaluate policy requirement context := by
  obtain ⟨same, observations, providerStates, candidateTrust⟩ := edit
  generalize other.observations = observations' at *
  generalize other.providerStates = providerStates' at *
  generalize other.candidateTrust = candidateTrust' at *
  subst same
  have hidden {effectiveAt recordedAt : Moment} (late : Late cutoff effectiveAt recordedAt) :
      ¬visibleAt context effectiveAt recordedAt := hidden_of_late dated strict late
  have candidates : eligible requirement (edited context observations' providerStates' candidateTrust') =
      eligible requirement context := by
    refine (observations.filter fun observation late => ?_).symm
    exact decide_eq_false fun there => hidden late there.2.2.2.2
  have providers : unavailableProviders requirement
      (edited context observations' providerStates' candidateTrust') = unavailableProviders requirement context := by
    refine (providerStates.filter fun state late => ?_).symm
    exact decide_eq_false fun there => hidden late there.2.2
  have reason : missingReason requirement (edited context observations' providerStates' candidateTrust') =
      missingReason requirement context := by
    rw [missingReason, providers]
    rfl
  have trust : eligibleTrust (edited context observations' providerStates' candidateTrust') ↔
      eligibleTrust context := by
    rcases candidateTrust with same | ⟨before, after⟩
    · cases same
      exact Iff.rfl
    · constructor
      · rintro ⟨trust, there, -, -, seen⟩
        exact absurd seen (hidden (after trust there))
      · rintro ⟨trust, there, -, -, seen⟩
        exact absurd seen (hidden (before trust there))
  have judged : judge policy requirement (edited context observations' providerStates' candidateTrust') =
      judge policy requirement context := by
    simp only [judge, candidates, reason, trust]
    rfl
  exact congrArg (result requirement context) judged

end Future

/-- The record of an evaluation is the same in every order of the observations and the providers
exactly where the proxies that stand for the data have one type, or are refused. In a strict replay
nothing that is recorded or takes effect after the cutoff changes the evaluation. -/
theorem evaluate_lawful (policy : AvailabilityEvaluationPolicy) (requirement : DataRequirement)
    (context : AvailabilityEvaluationContext) :
    ((∀ observations providerStates, observations.Perm context.observations →
      providerStates.Perm context.providerStates →
      availabilityOf policy requirement (reordered context observations providerStates) =
        availabilityOf policy requirement context) ↔ Unambiguous policy requirement context) ∧
    ∀ cutoff other, context.cutoffAt = some cutoff →
      context.replayMode = .historicalStrictKnownByHunter → LateEdit cutoff context other →
      evaluate policy requirement other = evaluate policy requirement context := by
  refine ⟨⟨fun orderFree => ?_, fun unambiguous observations providerStates perm providers => ?_⟩, ?_⟩
  · exact unambiguous_of_orderFree policy requirement context fun observations perm =>
      orderFree observations context.providerStates perm (List.Perm.refl _)
  · exact orderFree_of_unambiguous policy requirement context unambiguous perm providers
  · intro cutoff other dated strict edit
    exact evaluate_late dated strict edit

def samplePolicy : AvailabilityEvaluationPolicy := ⟨false⟩

def sampleRequirement : DataRequirement where
  requirementId := "requirement"
  engineId := "engine"
  analysisPurpose := "purpose"
  evidenceDomain := "market"
  requiredSourceTypes := ["provider"]
  directObservationRequired := false
  proxyAllowed := true
  acceptedProxyTypes := [.marketProxy, .socialProxy]
  minimumFreshnessSeconds := 60
  minimumSourceAuthority := "medium"
  minimumLineageDepth := 1
  minimumConfidence := 0
  schemaVersion := "v1"
  texts := by decide
  accepted := by decide

def sampleProxy (type : ProxySignalType) (effectiveAt : Moment) : SourceObservation where
  candidateId := "candidate"
  sourceType := "provider"
  evidenceDomain := "market"
  directness := .proxySignal
  effectiveAt := effectiveAt
  recordedAt := effectiveAt
  confidence := 1
  sourceQuality := "high"
  lineageDepth := 1
  lifecycleState := "active"
  proxyType := some type
  conflictState := "none"
  evidenceId := none
  spanId := none
  claimId := none
  conflictId := none
  typed := ⟨fun _ => rfl, fun _ => rfl⟩

def sampleContext (cutoffAt : Option Moment) (replayMode : ReplayMode)
    (observations : List SourceObservation) : AvailabilityEvaluationContext where
  candidateId := "candidate"
  candidateTrust := some
    ⟨"candidate", "trusted", true, ⟨0, Calendar.zero_lt_end⟩, ⟨0, Calendar.zero_lt_end⟩⟩
  observations := observations
  providerStates := []
  evaluatedAt := ⟨0, Calendar.zero_lt_end⟩
  cutoffAt := cutoffAt
  replayMode := replayMode
  processingRunId := "run"
  texts := by decide

/-- An observation from after the cutoff is added. -/
theorem evaluate_lawful_sample :
    evaluate samplePolicy sampleRequirement (sampleContext (some ⟨0, by decide⟩)
      .historicalStrictKnownByHunter [sampleProxy .marketProxy ⟨1, by decide⟩]) =
    evaluate samplePolicy sampleRequirement (sampleContext (some ⟨0, by decide⟩)
      .historicalStrictKnownByHunter []) := by
  refine (evaluate_lawful samplePolicy sampleRequirement _).2 ⟨0, by decide⟩ _ rfl rfl ?_
  refine ⟨rfl, .add ?_ .nil, .nil, Or.inl rfl⟩
  exact Or.inl (Fin.mk_lt_mk.mpr Nat.zero_lt_one)

def sampleProxies : List SourceObservation :=
  [sampleProxy .marketProxy ⟨0, Calendar.zero_lt_end⟩, sampleProxy .socialProxy ⟨0, Calendar.zero_lt_end⟩]

/-- Of two proxies the first one gives the type. -/
theorem evaluate_lawful_fails : ∃ observations, observations.Perm sampleProxies ∧
    availabilityOf samplePolicy sampleRequirement (sampleContext none .current observations) ≠
      availabilityOf samplePolicy sampleRequirement (sampleContext none .current sampleProxies) := by
  by_contra orderFree
  have unambiguous := unambiguous_of_orderFree samplePolicy sampleRequirement
    (sampleContext none .current sampleProxies) fun observations perm =>
      not_not.mp fun differ => orderFree ⟨observations, perm, differ⟩
  have uses : usesProxies samplePolicy sampleRequirement (sampleContext none .current sampleProxies) := by
    refine ⟨?_, rfl, nofun⟩
    exact ⟨_, rfl, rfl, ⟨rfl, by decide⟩, trivial⟩
  have whole : proxies sampleRequirement (sampleContext none .current sampleProxies) = sampleProxies := rfl
  rcases unambiguous uses with blank | one
  · rw [whole] at blank
    exact absurd blank (by decide)
  · rw [whole] at one
    have same := one _ List.mem_cons_self _ (List.mem_cons_of_mem _ List.mem_cons_self)
    exact absurd same (by decide)

end Hunter.Sufficiency
