import Hunter.Knowledge.Remediation

/-!
The authorization of a remediation and its identity, the digest of its claims. The
claims hold the smallest attempt of the candidate. Recording the requests moves every
selected finding to its next attempt, so the claims are never minted a second time.
-/

namespace Hunter.Knowledge

open IssueAgent

def authorizationIdentityPrefix : String := "hunter-issue-agent-authorization"

def authorizationLabel : String := "hunter-agent-execute"

def remediationSchemaVersion : String := "hunter-issue-agent-remediation-authorization-v1"

def authorizationError (message : String) : Exn := .issueAgentAuthorizationError message

/-- `except IssueAgentAuthorizationError`. -/
def notEligible : Exn → Exn
  | .issueAgentAuthorizationError message => .remediationRefused "NOT_ELIGIBLE" message
  | exn => exn

/-- `text.partition(":")`, without the separator. -/
def partitionColon (text : String) : List Char × List Char :=
  (text.scalars.takeWhile (· != ':'), (text.scalars.dropWhile (· != ':')).tail)

def isAuthorizationIdentity (text : String) : Bool :=
  (partitionColon text).1 == authorizationIdentityPrefix.scalars && text.scalars.contains ':' &&
    sha64Pattern.fullmatch (String.ofList (partitionColon text).2)

/-- The branch of an authorization on its Issue. -/
def authorizationBranch (issueNumber : Int) (parent : String) : String :=
  "issue-" ++ toString issueNumber ++ "-" ++ String.ofList ((partitionColon parent).2.take 16)

def isPositiveNumber : Option Json → Bool
  | some (.int n) => 1 ≤ n
  | _ => false

def isMatch (regex : Regex) : Option Json → Bool
  | some (.str text) => regex.fullmatch text
  | _ => false

def isRemediationFinding : Json → Bool
  | .obj fields =>
      decide (SameSet (fields.map Prod.fst) ["finding_id", "path", "claim"]) &&
        isMatch sha64Pattern (Json.lookup "finding_id" fields) &&
        isMatch pathPattern (Json.lookup "path" fields) &&
        isMatch claimPattern (Json.lookup "claim" fields)
  | _ => false

def findingIdentity (finding : Json) : String :=
  match finding.get? "finding_id" with
  | some (.str id) => id
  | _ => ""

def remediationFields : List String :=
  ["parent_authorization_id", "pull_request_number", "branch", "bound_head_sha", "attempt",
    "findings"]

def checkGroupFindings : Option Json → Py Unit
  | some (.arr findings) => do
      require (1 ≤ findings.length ∧ findings.length ≤ maxRemediationFindings)
        (authorizationError "a remediation names one to sixteen findings")
      require (findings.all isRemediationFinding = true)
        (authorizationError "remediation finding is malformed")
      require (findings.map findingIdentity = sorted (findings.map findingIdentity).dedup)
        (authorizationError "remediation findings must be unique and sorted by finding id")
  | _ => .error (authorizationError "a remediation names one to sixteen findings")

def validateRemediationGroup (remediation : Json) (issueNumber : Int) : Py Json :=
  match remediation with
  | .obj fields => do
      require (SameSet (fields.map Prod.fst) remediationFields)
        (authorizationError "remediation group schema mismatch")
      let parent := match Json.lookup "parent_authorization_id" fields with
        | some (.str parent) => parent
        | _ => ""
      require (isAuthorizationIdentity parent = true)
        (authorizationError "remediation parent is not a canonical authorization identity")
      require (Json.lookup "branch" fields = some (.str (authorizationBranch issueNumber parent)))
        (authorizationError "remediation branch is not the parent authorization's branch")
      require (isPositiveNumber (Json.lookup "pull_request_number" fields) = true)
        (authorizationError "remediation pull_request_number must be a positive integer")
      require (isPositiveNumber (Json.lookup "attempt" fields) = true)
        (authorizationError "remediation attempt must be a positive integer")
      require (isMatch sha40Pattern (Json.lookup "bound_head_sha" fields) = true)
        (authorizationError "remediation must bind the exact PR head")
      checkGroupFindings (Json.lookup "findings" fields)
      return remediation
  | _ => .error (authorizationError "remediation group schema mismatch")

def SelectedFinding.json (finding : SelectedFinding) : Json :=
  .obj [("finding_id", .str finding.findingId.val), ("path", .str finding.path.val),
    ("claim", .str finding.claim.val)]

def groupJson (parent : String) (issueNumber number : Int) (head : Sha40) (attempt : Nat)
    (findings : List SelectedFinding) : Json :=
  .obj [("parent_authorization_id", .str parent), ("pull_request_number", .int number),
    ("branch", .str (authorizationBranch issueNumber parent)), ("bound_head_sha", .str head.val),
    ("attempt", .int attempt),
    ("findings", .arr (((findings.insertionSort fun a b =>
      a.findingId.val.scalars ≤ b.findingId.val.scalars).map SelectedFinding.json).take
        maxRemediationFindings))]

def remediationGroup (parent : String) (issueNumber number : Int) (head : Sha40) (attempt : Nat)
    (findings : List SelectedFinding) : Py Json :=
  reraise notEligible
    (validateRemediationGroup (groupJson parent issueNumber number head attempt findings) issueNumber)

/-- The names of the labels. A label whose name is no text is not the label. -/
def labelNames (issue : Json) : Py (List String) :=
  match Json.orElse (issue.get? "labels") (.arr []) with
  | .arr labels => .ok (labels.filterMap fun label =>
      match label.get? "name" with
      | some (.str name) => some name
      | _ => none)
  | .obj _ | .str _ => .ok []
  | _ => .error .typeError

/-- `str(value or "")`, for a `str` of the values that are no text. -/
def textOr (str : Json → String) (value : Option Json) : String :=
  match Json.orElse value (.str "") with
  | .str text => text
  | j => str j

structure RemediationAuthorization where
  claims : Json
  authorizationId : AuthorizationId

def authorizationIdOf (claims : Json) : AuthorizationId :=
  ⟨authorizationIdPrefix ++ (sha256Hex (canonicalJson claims)).val, by
    have digest := Regex.fullmatch_iff.mp (sha256Hex (canonicalJson claims)).property
    refine Regex.fullmatch_of_mem ?_
    rw [String.scalars_eq_toList, String.toList_append, ← String.scalars_eq_toList,
      ← String.scalars_eq_toList]
    exact Regex.mem_rests_seq (Regex.mem_rests_text _ _) digest⟩

/-- Each of these texts of an authorization must not be blank. -/
def boundTexts : List String :=
  ["repository", "issue_url", "issue_title", "authorized_by", "issue_updated_at"]

def isBlank (claims : Json) (name : String) : Bool :=
  match claims.get? name with
  | some (.str text) => Chars.strip text.scalars == []
  | _ => true

variable (str : Json → String)

def remediationClaims (issue : Json) (number : Int) (repository ownerLogin : String)
    (remediation : Json) : Json :=
  .obj [("repository", .str repository), ("issue_number", .int number),
    ("issue_url", .str (textOr str (issue.get? "html_url"))),
    ("issue_title", .str (textOr str (issue.get? "title"))),
    ("issue_body", .str (textOr str (issue.get? "body"))), ("authorized_by", .str ownerLogin),
    ("authorization_label", .str authorizationLabel),
    ("issue_updated_at", .str (textOr str (issue.get? "updated_at"))),
    ("schema_version", .str remediationSchemaVersion), ("remediation", remediation)]

/-- What `_from_mapping` may still refuse of the claims that were put together. -/
def fromMapping (number : Int) (remediation claims : Json) : Py RemediationAuthorization := do
  boundTexts.forM fun name => require (isBlank claims name = false)
    (authorizationError ("authorization " ++ name ++ " must be non-empty"))
  let _ ← validateRemediationGroup remediation number
  return ⟨claims, authorizationIdOf claims⟩

def remediationAuthorization (issue : Json) (repository ownerLogin : String) (remediation : Json) :
    Py RemediationAuthorization := do
  let labels ← labelNames issue
  require (issue.get? "state" = some (.str "open") ∧ issue.get? "pull_request" = none)
    (.remediationRefused "ISSUE_CLOSED" "the governing Issue is no longer an open Issue")
  require (authorizationLabel ∈ labels) (.remediationRefused "OWNER_WITHDREW"
    "the owner removed the execution label (standing consent)")
  match issue.get? "number" with
  | some (.int number) => do
      require (1 ≤ number) (.remediationRefused "NOT_ELIGIBLE" "the Issue number is malformed")
      reraise notEligible (fromMapping number remediation
        (remediationClaims str issue number repository ownerLogin remediation))
  | _ => .error (.remediationRefused "NOT_ELIGIBLE" "the Issue number is malformed")

/-- The authorization one pass mints for a candidate. -/
def mint (live : Json) (repository ownerLogin : String) (issue : Int)
    (candidate : RemediationCandidate) : Py RemediationAuthorization :=
  match live, candidate.attempts.min? with
  | .obj _, some attempt => do
      let group ← remediationGroup candidate.parentAuthorizationId.val issue
        candidate.pullRequestNumber candidate.boundHeadSha attempt candidate.findings
      remediationAuthorization str live repository ownerLogin group
  | .obj _, none => .error .valueError
  | _, _ => .error (.factsUnavailable "the governing Issue is not observable")

variable {str}

theorem remediationGroup_ok {parent : String} {issue number : Int} {head : Sha40} {attempt : Nat}
    {findings : List SelectedFinding} {group : Json}
    (h : remediationGroup parent issue number head attempt findings = .ok group) :
    group = groupJson parent issue number head attempt findings := by
  rw [remediationGroup, reraise_ok, groupJson, validateRemediationGroup] at h
  simp only [check_ok, pure_eq_ok, ok_inj] at h
  exact h.2.2.2.2.2.2.2.symm

theorem remediationClaims_group (live : Json) (number : Int) (repository ownerLogin : String)
    (remediation : Json) :
    (remediationClaims str live number repository ownerLogin remediation).get? "remediation" =
      some remediation := by
  simp [remediationClaims, Json.get?, Json.lookup]

theorem groupJson_attempt (parent : String) (issue number : Int) (head : Sha40) (attempt : Nat)
    (findings : List SelectedFinding) :
    (groupJson parent issue number head attempt findings).get? "attempt" = some (.int attempt) := by
  simp [groupJson, Json.get?, Json.lookup]

theorem remediationAuthorization_ok {live remediation : Json} {repository ownerLogin : String}
    {authorization : RemediationAuthorization}
    (h : remediationAuthorization str live repository ownerLogin remediation = .ok authorization) :
    authorization.claims.get? "remediation" = some remediation ∧
      authorization.authorizationId = authorizationIdOf authorization.claims := by
  rw [remediationAuthorization] at h
  obtain ⟨labels, -, h⟩ := bind_ok.mp h
  simp only [check_ok] at h
  obtain ⟨-, -, h⟩ := h
  split at h
  · obtain ⟨-, h⟩ := check_ok.mp h
    rw [reraise_ok, fromMapping] at h
    obtain ⟨-, h⟩ := check_ok.mp h
    obtain ⟨_, -, h⟩ := bind_ok.mp h
    cases h
    exact ⟨remediationClaims_group .., rfl⟩
  · cases h

/-- The claims name the smallest attempt of the candidate. -/
theorem mint_attempt {live : Json} {repository ownerLogin : String} {issue : Int}
    {candidate : RemediationCandidate} {authorization : RemediationAuthorization}
    (h : mint str live repository ownerLogin issue candidate = .ok authorization) :
    ∃ attempt, candidate.attempts.min? = some attempt ∧
      (authorization.claims.get? "remediation").bind (·.get? "attempt") = some (.int attempt) := by
  unfold mint at h
  split at h
  · rename_i attempt least
    obtain ⟨group, grouped, authorized⟩ := bind_ok.mp h
    refine ⟨attempt, least, ?_⟩
    rw [(remediationAuthorization_ok authorized).1, Option.bind_some, remediationGroup_ok grouped,
      groupJson_attempt]
  · cases h
  · cases h

theorem claims_attempt {a b : Json} {m n : Nat} (same : canonicalJson a = canonicalJson b)
    (left : (a.get? "remediation").bind (·.get? "attempt") = some (.int m))
    (right : (b.get? "remediation").bind (·.get? "attempt") = some (.int n)) : m = n := by
  have canon (j : Json) : (j.canon.get? "remediation").bind (·.get? "attempt") =
      ((j.get? "remediation").bind (·.get? "attempt")).map Json.canon := by
    rw [Json.get?_canon]
    cases j.get? "remediation" with
    | none => rfl
    | some group => exact Json.get?_canon group "attempt"
  have both := canon a
  rw [canonicalJson_inj.mp same, canon b, left, right] at both
  simp only [Option.map_some, Json.canon, Option.some.injEq, Json.int.injEq] at both
  exact (Int.ofNat_inj.mp both).symm

section Recorded

variable [Ed25519] {trust : TrustRoots} {provenance : ProvenanceCheck} {job : Job}
  {pull : PublishedPull} {authorizationId : AuthorizationId}

/-- What recorded requests leave: each finding has its own, the others are as before. -/
theorem requests_recorded {view view' : KnowledgeView} {selected : List (Sha64 × Finding)}
    (distinct : (selected.map Prod.fst).Nodup)
    (present : ∀ found ∈ selected, view.findings.get? found.1 = some found.2)
    (own : ∀ found ∈ selected, found.2.pullRequestNumber = pull.number)
    (run : Run (Takes trust provenance job) view
      (selected.map (requestWrite pull authorizationId)) view') :
    (∀ found ∈ selected, view'.findings.get? found.1 =
      some (found.2.request (requestOf pull authorizationId found))) ∧
    (∀ id, id ∉ selected.map Prod.fst → view'.findings.get? id = view.findings.get? id) ∧
    selected.length ≤ maxRemediationsPerPr - view.remediationsForPr pull.number := by
  induction selected generalizing view with
  | nil =>
      cases run.nil_inv
      refine ⟨fun found member => ?_, fun _ _ => rfl, Nat.zero_le _⟩
      exact absurd member List.not_mem_nil
  | cons found selected ih =>
      obtain ⟨known, others⟩ := List.forall_mem_cons.mp present
      obtain ⟨number, owns⟩ := List.forall_mem_cons.mp own
      obtain ⟨fresh, distinct⟩ := List.nodup_cons.mp distinct
      obtain ⟨next, step, rest⟩ := run.cons_inv
      obtain ⟨record, about, extended⟩ := @Takes.extends _ trust provenance job _ _
        (.remediationRequested (requestOf pull authorizationId found)) trivial step
      obtain ⟨findings, counts⟩ := extended.requested about known
      have count := counts pull.number
      rw [if_pos number] at count
      have budget : view.remediationsForPr pull.number < maxRemediationsPerPr := by
        obtain ⟨folded, admits, -⟩ := extended.folds
        rw [about] at admits
        cases admits with
        | finding leaves =>
            cases leaves with
            | request _ item here is_open unproven next budget own pull_budget =>
                cases known.symm.trans here
                rwa [number] at pull_budget
      have still (other : Sha64 × Finding) (member : other ∈ selected) :
          next.findings.get? other.1 = some other.2 := by
        have apart : other.1 ≠ found.1 := fun same => fresh (same ▸ List.mem_map_of_mem member)
        rw [findings, if_neg apart, others other member]
      obtain ⟨left, kept, few⟩ := ih distinct still owns rest
      refine ⟨List.forall_mem_cons.mpr ⟨?_, left⟩, fun id absent => ?_, ?_⟩
      · rw [kept _ fresh, findings, if_pos rfl]
      · obtain ⟨other, absent⟩ := not_or.mp (mt List.mem_cons.mpr absent)
        rw [kept id absent, findings, if_neg other]
      · rw [count] at few
        rw [List.length_cons]
        omega

/-- The next pass finds the candidate again, mints the same claims for it under the same
identity and has nothing to record. -/
def Remints (str : Json → String) (listing : Py Json) (view : LedgerView) (issue : Int)
    (trustedReviewers : List String) (live : Json) (repository ownerLogin : String)
    (candidate : RemediationCandidate) (known : KnowledgeView) : Prop :=
  ∃ again first second,
    eligibleRemediation listing view known issue trustedReviewers = .ok (some again) ∧
    mint str live repository ownerLogin issue candidate = .ok first ∧
    mint str live repository ownerLogin issue again = .ok second ∧
    canonicalJson second.claims = canonicalJson first.claims ∧
    second.authorizationId = first.authorizationId ∧
    pendingWrites known.keys.get? (remediationWrites again second.authorizationId) = []

omit [Ed25519] in
/-- Every finding that is still eligible is at its second attempt, after its first. -/
theorem eligible_again {known known' : KnowledgeView} {trustedReviewers : List String}
    {found' : Sha64 × Finding}
    (left : ∀ found ∈ known.eligible trustedReviewers pull.number pull.head,
      known'.findings.get? found.1 =
        some (found.2.request (requestOf pull authorizationId found)))
    (kept : ∀ id, id ∉ (known.eligible trustedReviewers pull.number pull.head).map Prod.fst →
      known'.findings.get? id = known.findings.get? id)
    (member : found' ∈ known'.eligible trustedReviewers pull.number pull.head) :
    nextAttempt found' = 2 ∧
      ∃ found ∈ known.eligible trustedReviewers pull.number pull.head, nextAttempt found = 1 := by
  obtain ⟨present, eligible⟩ := mem_eligible.mp member
  have before : found'.1 ∈ (known.eligible trustedReviewers pull.number pull.head).map Prod.fst := by
    by_contra absent
    have same := (kept _ absent).symm.trans present
    exact absent (List.mem_map_of_mem (mem_eligible.mpr ⟨same, eligible⟩))
  obtain ⟨found, was, same⟩ := List.mem_map.mp before
  have requested := (left found was).symm.trans (same ▸ present)
  have length : found'.2.remediations.length = found.2.remediations.length + 1 := by
    rw [← Option.some.inj requested, Finding.request, List.length_append, List.length_singleton]
  have budget : found'.2.remediations.length + 1 ≤ 2 := eligible.2.2.2.2
  refine ⟨?_, found, was, ?_⟩
  · rw [nextAttempt]
    omega
  · rw [nextAttempt]
    omega

omit [Ed25519] in
theorem candidate_attempts {selected : List (Sha64 × Finding)} {attempt : Nat}
    (least : (pull.candidate selected).attempts.min? = some attempt) :
    (∃ found ∈ selected, nextAttempt found = attempt) ∧
      ∀ found ∈ selected.take maxRemediationFindings, attempt ≤ nextAttempt found := by
  change ((selected.map nextAttempt).take maxRemediationFindings).min? = some attempt at least
  rw [← List.map_take, List.min?_eq_some_iff] at least
  obtain ⟨member, least⟩ := least
  obtain ⟨found, present, same⟩ := List.mem_map.mp member
  exact ⟨⟨found, List.mem_of_mem_take present, same⟩, fun other here =>
    least _ (List.mem_map_of_mem here)⟩

/-- Once the requests of a candidate are recorded, the smallest attempt is another one. -/
theorem attempts_move {known known' : KnowledgeView} {listing : Py Json} {view : LedgerView}
    {issue : Int} {trustedReviewers : List String} {candidate again : RemediationCandidate} {m n : Nat}
    (eligible : eligibleRemediation listing view known issue trustedReviewers =
      .ok (some candidate))
    (recorded : Run (Takes trust provenance job) known
      (remediationWrites candidate authorizationId) known')
    (eligible_again_ : eligibleRemediation listing view known' issue trustedReviewers =
      .ok (some again))
    (least : candidate.attempts.min? = some m) (least_again : again.attempts.min? = some n) :
    m < n := by
  obtain ⟨pull, observe⟩ := eligibleRemediation_pull eligible
  obtain ⟨budget, -, rfl⟩ := (eligibleRemediation_ok observe).mp eligible
  obtain ⟨-, -, rfl⟩ := (eligibleRemediation_ok observe).mp eligible_again_
  have each (found : Sha64 × Finding)
      (member : found ∈ known.eligible trustedReviewers pull.number pull.head) :=
    mem_eligible.mp member
  rw [remediationWrites_candidate fun found member => (each found member).2.1.1] at recorded
  have taken (found : Sha64 × Finding) (member : found ∈
      (known.eligible trustedReviewers pull.number pull.head).take maxRemediationFindings) :=
    each found (List.mem_of_mem_take member)
  obtain ⟨left, kept, few⟩ := requests_recorded
    ((eligible_nodup known trustedReviewers pull.number pull.head).sublist
      ((List.take_sublist maxRemediationFindings _).map Prod.fst))
    (fun found member => (taken found member).1)
    (fun found member => (taken found member).2.1.1) recorded
  -- the budget of the pull request is smaller than what a candidate can hold
  have all : (known.eligible trustedReviewers pull.number pull.head).take
      maxRemediationFindings = known.eligible trustedReviewers pull.number pull.head := by
    refine List.take_of_length_le ?_
    rw [List.length_take, maxRemediationsPerPr] at few
    rw [maxRemediationFindings] at few ⊢
    omega
  rw [all] at left kept
  obtain ⟨⟨found', member', attempt'⟩, -⟩ := candidate_attempts least_again
  obtain ⟨two, found, member, one⟩ := eligible_again left kept member'
  have lower := (candidate_attempts least).2 found (by rwa [all])
  omega

/-- Once the requests of a candidate are recorded, its claims are never minted again. -/
theorem remediation_never_reminted {known known' : KnowledgeView} {listing : Py Json}
    {view : LedgerView} {issue : Int} {trustedReviewers : List String} {live : Json}
    {repository ownerLogin : String} {candidate : RemediationCandidate}
    (eligible : eligibleRemediation listing view known issue trustedReviewers =
      .ok (some candidate))
    (recorded : Run (Takes trust provenance job) known
      (remediationWrites candidate authorizationId) known') :
    ¬Remints str listing view issue trustedReviewers live repository ownerLogin candidate known' := by
  rintro ⟨again, first, second, found_again, minted, minted_again, same, -, -⟩
  obtain ⟨m, least, first_attempt⟩ := mint_attempt minted
  obtain ⟨n, least_again, second_attempt⟩ := mint_attempt minted_again
  have moved := attempts_move eligible recorded found_again least least_again
  have equal := claims_attempt same second_attempt first_attempt
  omega

end Recorded

section Sample

local instance mintingScheme : Ed25519 := checksumScheme

def sampleLive : Json :=
  .obj [("state", .str "open"), ("number", .int 5), ("html_url", .str "issues/5"),
    ("title", .str "A defect"), ("body", .str "The error path is dropped."),
    ("updated_at", .str sampleTime.val),
    ("labels", .arr [.obj [("name", .str authorizationLabel)]])]

def sampleMint (candidate : RemediationCandidate) : Py RemediationAuthorization :=
  mint (fun _ => "") sampleLive "hunter" sampleLogin.val 5 candidate

/-- The candidate of the one finding at an attempt. -/
def sampleCandidate (attempt : Nat) : RemediationCandidate where
  pullRequestNumber := 6
  branch := samplePull.branch
  boundHeadSha := sampleBase
  parentAuthorizationId := sampleId
  findings := [⟨(sampleReview 0).findingId, samplePath, sampleClaim⟩]
  attempts := [attempt]

theorem sample_mints : ∀ attempt ∈ [1, 2],
    (sampleMint (sampleCandidate attempt)).isOk = true := by
  decide +kernel

def sampleRequested : RemediationRequested :=
  requestOf samplePull sampleId ((sampleReview 0).findingId, .start (sampleReview 0))

def sampleAttempted : KnowledgeView :=
  sampleNext (sampleReviewed 1) (.remediationRequested sampleRequested)
    ((sampleReviewed 1).setFinding (sampleReview 0).findingId
      ((Finding.start (sampleReview 0)).request sampleRequested))

theorem sample_eligible {known : KnowledgeView} {item : Finding}
    (entries : known.findings.entries = [((sampleReview 0).findingId, item)])
    (eligible : item.Eligible [sampleLogin.val] samplePull.number samplePull.head) :
    known.eligible [sampleLogin.val] samplePull.number samplePull.head =
      [((sampleReview 0).findingId, item)] := by
  rw [KnowledgeView.eligible, KnowledgeView.sortedFindings, entries]
  exact List.filter_cons_of_pos (decide_eq_true eligible)

theorem sample_attempts : SampleStep (sampleReviewed 1) (.remediationRequested sampleRequested)
    sampleAttempted := by
  have before := sampleReviewed_reviewed (by decide : 1 ≤ 6)
  have found : (sampleReviewed 1).findings.get? (sampleReview 0).findingId =
      some (.start (sampleReview 0)) := by
    rw [Dict.get?_eq_some_iff, before.entries]
    exact List.mem_singleton_self _
  have budget : (sampleReviewed 1).remediationsForPr 6 < maxRemediationsPerPr := by
    have none_ : (sampleReviewed 1).remediationsForPr 6 = 0 :=
      (sample_reviews_eligible (by decide : 1 ≤ 6)).2
    rw [none_]
    decide
  refine ⟨trivial, by decide, by decide +kernel, before.home, by decide +kernel, ?_, _,
    .finding (.request sampleRequested _ found rfl rfl rfl (by decide) rfl budget), rfl⟩
  exact before.keys _ fun _ _ => nofun

/-- The first pass, its record and the second pass, with an open and labelled Issue. -/
theorem sample_passes {view : LedgerView} {current : AuthorizationView}
    (completed : Completed view current) :
    eligibleRemediation (.ok sampleListing) view (sampleReviewed 1) 5 [sampleLogin.val] =
      .ok (some (sampleCandidate 1)) ∧
    Run (Takes sampleTrust sampleProvenance sampleJob) (sampleReviewed 1)
      (remediationWrites (sampleCandidate 1) sampleId) sampleAttempted ∧
    eligibleRemediation (.ok sampleListing) view sampleAttempted 5 [sampleLogin.val] =
      .ok (some (sampleCandidate 2)) := by
  have entries : (sampleReviewed 1).findings.entries =
      [((sampleReview 0).findingId, Finding.start (sampleReview 0))] :=
    (sampleReviewed_reviewed (by decide : 1 ≤ 6)).entries
  have first : (Finding.start (sampleReview 0)).Eligible [sampleLogin.val] samplePull.number
      samplePull.head :=
    ⟨⟨rfl, rfl, rfl⟩, List.mem_singleton_self _, nofun, rfl, Nat.le_succ 1⟩
  have second : ((Finding.start (sampleReview 0)).request sampleRequested).Eligible
      [sampleLogin.val] samplePull.number samplePull.head :=
    ⟨⟨rfl, rfl, rfl⟩, List.mem_singleton_self _, nofun, rfl, Nat.le_refl 2⟩
  have after : sampleAttempted.findings.entries = [((sampleReview 0).findingId,
      (Finding.start (sampleReview 0)).request sampleRequested)] := by
    change Dict.put (sampleReview 0).findingId _ (sampleReviewed 1).findings.entries = _
    rw [entries]
    exact if_pos rfl
  refine ⟨(eligibleRemediation_ok (sample_pull completed)).mpr ⟨?_, ?_, ?_⟩, ?_,
    (eligibleRemediation_ok (sample_pull completed)).mpr ⟨?_, ?_, ?_⟩⟩
  · rw [(sample_reviews_eligible (by decide : 1 ≤ 6)).2]
    decide
  · rw [sample_eligible entries first]
    exact List.cons_ne_nil _ _
  · rw [sample_eligible entries first]
    rfl
  · exact Run.nil.snoc ⟨_, @named_of (.remediationRequested sampleRequested) trivial,
      sample_attempts.applies⟩
  · rw [KnowledgeView.remediationsForPr, Dict.values, after]
    decide
  · rw [sample_eligible after second]
    exact List.cons_ne_nil _ _
  · rw [sample_eligible after second]
    rfl

/-- A recorded first attempt: the next pass mints the claims of a second one. -/
theorem remediation_never_reminted_fails : ∃ chain view entries known known' first second,
    verifyChain sampleTrust (fun _ _ => .ok true) 1 5 chain = .ok view ∧
    applyAll sampleTrust sampleProvenance entries = .ok known ∧
    eligibleRemediation (.ok sampleListing) view known 5 [sampleLogin.val] =
      .ok (some (sampleCandidate 1)) ∧
    Run (Takes sampleTrust sampleProvenance sampleJob) known
      (remediationWrites (sampleCandidate 1) sampleId) known' ∧
    eligibleRemediation (.ok sampleListing) view known' 5 [sampleLogin.val] =
      .ok (some (sampleCandidate 2)) ∧
    sampleMint (sampleCandidate 1) = .ok first ∧ sampleMint (sampleCandidate 2) = .ok second ∧
    canonicalJson second.claims ≠ canonicalJson first.claims := by
  obtain ⟨view, run, current, completed⟩ := sample_run
  obtain ⟨entries, verified, -⟩ := sample_ledger (sample_reviews_run (by decide : 1 ≤ 6))
  obtain ⟨eligible, recorded, again⟩ := sample_passes completed
  have minted (attempt : Nat) (member : attempt ∈ [1, 2]) :
      ∃ authorization, sampleMint (sampleCandidate attempt) = .ok authorization := by
    have ok := sample_mints attempt member
    cases outcome : sampleMint (sampleCandidate attempt) with
    | error exn =>
        rw [outcome] at ok
        cases ok
    | ok authorization => exact ⟨authorization, rfl⟩
  obtain ⟨first, mints⟩ := minted 1 (by decide)
  obtain ⟨second, mints_again⟩ := minted 2 (by decide)
  refine ⟨_, view, entries, _, _, first, second, (sampleChain_verifies run).1, verified, eligible,
    recorded, again, mints, mints_again, fun same => ?_⟩
  obtain ⟨m, least, first_attempt⟩ := mint_attempt mints
  obtain ⟨n, least_again, second_attempt⟩ := mint_attempt mints_again
  cases least
  cases least_again
  exact absurd (claims_attempt same second_attempt first_attempt) (by decide)

theorem remediation_never_reminted_sample : ∃ view : LedgerView,
    ¬Remints (fun _ => "") (.ok sampleListing) view 5 [sampleLogin.val] sampleLive "hunter"
      sampleLogin.val (sampleCandidate 1) sampleAttempted := by
  obtain ⟨view, -, current, completed⟩ := sample_run
  obtain ⟨eligible, recorded, -⟩ := sample_passes completed
  exact ⟨view, remediation_never_reminted eligible recorded⟩

end Sample

end Hunter.Knowledge
